import TemplateMap.Config
import TemplateMap.Json.Record

/-! Configurations in JSON: records in which each choice has a name. -/

namespace TemplateMap

namespace Config

/-- The names of the choices in a file and the values they take, in order. -/
def fields : List (Json.Field Config) :=
  [.of "blob_start_token" Json.text fun v c => { c with blobStart := v },
    .of "blob_end_token" Json.text fun v c => { c with blobEnd := v },
    .of "debug_section_header" Json.text fun v c => { c with sectionHeader := v },
    .of "tool_command" (Json.array Json.text) fun v c => { c with toolCommand := v },
    .of "tool_timeout_ms" (Json.natural maxWord "u64") fun v c => { c with toolTimeout := v },
    .of "max_tool_output_bytes" (Json.natural maxWord "usize") fun v c =>
      { c with maxToolOutput := v },
    .of "densify_max_gap" (Json.natural maxHalfWord "u32") fun v c => { c with maxGap := v },
    .of "structural_anchor" Json.text fun v c => { c with anchor := v },
    .of "structural_divisor" (Json.natural maxHalfWord "u32") fun v c => { c with divisor := v },
    .of "boilerplate_lines" (Json.natural maxHalfWord "u32") fun v c =>
      { c with boilerplateLines := v },
    .of "boilerplate_fraction" Json.fraction fun v c => { c with boilerplateFraction := v },
    .of "generated_source_extension" Json.text fun v c => { c with sourceExtension := v }]

/-- The configuration that a JSON text writes; it need not be valid. -/
def ofJson (text : Bytes) : Except Json.Fault Config :=
  Json.whole (Json.record "struct ResolverConfig" fields standard) text

/-- The configuration that a text writes in JSON, or what is wrong with the text. -/
def ofText (text : Text) : Except Text Config :=
  let bytes := Utf8.encode text
  (ofJson bytes).mapError fun fault => fault.message bytes

end Config

end TemplateMap
