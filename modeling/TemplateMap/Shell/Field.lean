import TemplateMap.Text.Basic

/-! Fields: what words expand to, and where it is cut.  Only what comes from unquoted expansions is
cut; that quotes were there keeps an empty field. -/

namespace TemplateMap.Shell

/-- An element of what a word expands to. -/
inductive Glyph
  | char (c : Char) (isQuoted : Bool)
  /-- A quote, which is no character of the text. -/
  | mark
  deriving DecidableEq

/-- The text of glyphs. -/
def glyphText (glyphs : List Glyph) : Text :=
  glyphs.filterMap fun
    | .char c _ => some c
    | .mark => none

/-- The pattern of glyphs: what is quoted follows a backslash, unless one stands there unquoted. -/
def glyphPattern (afterBackslash : Bool) : List Glyph → Text
  | [] => []
  | .mark :: rest => glyphPattern afterBackslash rest
  | .char c quoted :: rest =>
    if quoted then
      if afterBackslash then c :: glyphPattern false rest else '\\' :: c :: glyphPattern false rest
    else c :: glyphPattern (c = '\\') rest

/-- Where glyphs may be cut. -/
inductive Cut
  | nowhere
  /-- At separators. -/
  | separators
  /-- Between arguments, which are kept apart by characters without a code. -/
  | arguments
  deriving DecidableEq

/-- Glyphs that come from one part of a word. -/
structure Span where
  cut : Cut
  glyphs : List Glyph

/-- The glyphs of a text. -/
def glyphsOf (quoted : Bool) (t : Text) : List Glyph := t.map fun c => .char c quoted

/-- Where the cutting of spans into fields is. -/
structure Cutting where
  /-- The fields before, the last first. -/
  done : List (List Glyph)
  /-- The current field, its last glyph first. -/
  field : List Glyph
  /-- White space that separates fields has just been passed. -/
  afterSpace : Bool
  /-- The last span that could be cut was cut between arguments. -/
  afterArguments : Bool
  /-- How many more fields may begin, if that is bounded. -/
  room : Option Nat
  /-- How much of the last field is kept. -/
  kept : Option Nat

namespace Cutting

/-- The separators that also count as white space. -/
def isWhite (c : Char) : Bool := c = ' ' || c = '\t' || c = '\n' || c = '\x00'

/-- The cutting after a glyph that may be cut at `separators`; `keepsApart` tells that the last span
or this one is cut between arguments. -/
def step (separators : Text) (keepsApart : Bool) (s : Cutting) (g : Glyph) : Cutting :=
  match g with
  | .mark => { s with field := g :: s.field }
  | .char c _ =>
    let separates := c = '\x00' || separators.contains c
    let white := separates && isWhite c
    if s.room = some 0 then
      let field := g :: s.field
      if white then { s with field, kept := s.kept.or (some s.field.length) }
      else
        let kept := if separates && s.afterSpace then s.kept else none
        { s with field, kept, afterSpace := false }
    else if s.afterSpace && separates then
      { s with field := [], afterSpace := white }
    else if separates then
      let afterSpace := if keepsApart then false else white
      if s.field.isEmpty && afterSpace then { s with afterSpace := false }
      else if s.room = some 1 then
        { s with
          field := g :: s.field, room := some 0, kept := some s.field.length, afterSpace }
      else
        { s with
          done := s.field.reverse :: s.done, field := [], afterSpace
          room := s.room.map (· - 1) }
    else { s with field := g :: s.field, afterSpace := false }

/-- The cutting after a span. -/
def addSpan (separators : Text) (s : Cutting) (span : Span) : Cutting :=
  match span.cut with
  | .nowhere => { s with field := span.glyphs.reverse ++ s.field }
  | cut =>
    let isArguments := cut = .arguments
    let separators := if isArguments then [] else separators
    let start := { s with afterSpace := false, afterArguments := isArguments }
    span.glyphs.foldl (step separators (s.afterArguments || isArguments)) start

/-- The fields of a finished cutting. -/
def fields (s : Cutting) : List (List Glyph) :=
  let field := match s.kept with
    | some n => s.field.drop (s.field.length - n)
    | none => s.field
  let last := if s.afterArguments || !field.isEmpty then [field.reverse] else []
  (last ++ s.done).reverse

end Cutting

/-- The fields of spans, at most as many as there is room for. -/
def fieldsOf (separators : Text) (room : Option Nat) (spans : List Span) : List (List Glyph) :=
  (spans.foldl (Cutting.addSpan separators) ⟨[], [], false, false, room, none⟩).fields

end TemplateMap.Shell
