import TemplateMap.Path

/-! What a table is asked for with: a template, known by the base name of its file, with how well
another name fits it; and an artifact, a compiled file and the generated source that it was compiled
from. -/

namespace TemplateMap

/-- A template file, known by its base name. -/
structure Template where
  name : Text
  deriving DecidableEq

/-- How well a candidate names a template, from worst to best. -/
inductive NameMatch
  | none
  | contains
  | exact
  deriving DecidableEq, Repr

namespace NameMatch

/-- The place of a match in the order of quality. -/
def rank : NameMatch → Nat
  | none => 0
  | contains => 1
  | exact => 2

/-- The better of two matches. -/
def best (a b : NameMatch) : NameMatch := if a.rank < b.rank then b else a

end NameMatch

/-- Whether `c` separates the directories of a name: a slash or a backslash. -/
def isSeparator (c : Char) : Bool := c == '/' || c == '\\'

namespace Template

/-- The template of a name or path: what follows the last separator. -/
def ofPath (path : Text) : Template := ⟨path.afterLast isSeparator⟩

/-- The extension of the template's name, unless it is empty. -/
def extension? (t : Template) : Option Text :=
  match Path.extension? t.name with
  | some e => if e.isEmpty then none else some e
  | none => none

/-- How well `candidate` names the template, white space at its ends and the kind of its separators
apart: exactly when it is the name or a path that ends in it. -/
def matchName (t : Template) (candidate : Text) : NameMatch :=
  let path := candidate.trim.swap '\\' '/'
  if t.name.isEmpty || path.isEmpty then .none
  else if path = t.name || ('/' :: t.name).isSuffixOf path then .exact
  else if occursIn t.name path then .contains
  else .none

end Template

/-- A compiled artifact and its generated source. -/
structure Artifact where
  compiled : Path
  generated : Path
  deriving DecidableEq

/-- The artifact at a path, with its source beside it under another extension. -/
def Artifact.ofCompiled (compiled : Path) (extension : Text) :
    Except Path.ExtensionError Artifact :=
  (Path.withExtension compiled extension).map fun generated => ⟨compiled, generated⟩

end TemplateMap
