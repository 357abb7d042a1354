import TemplateMap.Text.Utf8

/-! Paths of files: the components that two paths are compared by, the base name with its extension,
and the change of the extension. -/

namespace TemplateMap

/-- A path as it was given. -/
abbrev Path := Text

namespace Path

/-- One step of a path. -/
inductive Component
  | root
  | here
  | up
  | name (text : Text)
  deriving DecidableEq

/-- The pieces of a path between its slashes. -/
def pieces : Path → List Text
  | [] => [[]]
  | c :: rest =>
    if c = '/' then [] :: pieces rest
    else
      match pieces rest with
      | [] => [[c]]
      | p :: ps => (c :: p) :: ps

/-- The steps that pieces after the first stand for: empty pieces and single dots are none. -/
def steps (parts : List Text) : List Component :=
  parts.filterMap fun p =>
    if p = [] ∨ p = ['.'] then none
    else if p = ['.', '.'] then some .up
    else some (.name p)

/-- The components of a path.  A single dot counts only as the very first piece. -/
def components (path : Path) : List Component :=
  match path, pieces path with
  | '/' :: _, parts => .root :: steps parts
  | _, ['.'] :: rest => .here :: steps rest
  | _, parts => steps parts

/-- Two paths are the same when their components are. -/
def same (a b : Path) : Bool := components a = components b

/-- The last component of a path, if it is a name. -/
def baseName? (path : Path) : Option Text :=
  match (components path).getLast? with
  | some (.name n) => some n
  | _ => none

/-- A base name cut at its last dot into the stem and the extension.  A name without a dot past its
first character is all stem. -/
def cutExtension (name : Text) : Text × Option Text :=
  match name.reverse.span (· ≠ '.') with
  | (extension, '.' :: stem) =>
    if stem.isEmpty || name = ['.', '.'] then (name, none)
    else (stem.reverse, some extension.reverse)
  | _ => (name, none)

/-- The extension of the base name, if there is one. -/
def extension? (path : Path) : Option Text := (baseName? path).bind fun n => (cutExtension n).2

/-- The text of a path up to the start of its last piece that is neither empty nor a single dot, and
whether anything follows that piece. -/
def beforeBaseName (path : Path) : Text × Bool :=
  let idle (p : Text) : Bool := p = [] || p = ['.']
  let parts := (pieces path).reverse
  let kept := parts.dropWhile idle
  ((kept.drop 1).reverse.flatMap (· ++ ['/']), kept.length < parts.length)

/-- Why an extension cannot be set. -/
inductive ExtensionError
  | holdsSeparator (extension : Text)
  deriving DecidableEq

/-- The path with the extension of its base name replaced, or added where there was none; an empty
extension removes it together with the dot.  A path without a base name stays as it is, and so do
the two dots that are left of a name that is one dot before its extension. -/
def withExtension (path : Path) (extension : Text) : Except ExtensionError Path :=
  if extension.contains '/' then .error (.holdsSeparator extension)
  else
    let added := if extension.isEmpty then [] else '.' :: extension
    match baseName? path with
    | none => .ok path
    | some name =>
      let (directory, followed) := beforeBaseName path
      match cutExtension name with
      | (stem, none) => .ok (directory ++ stem ++ added)
      | (stem, some _) =>
        if stem = ['.'] && !followed then .ok (directory ++ ['.', '.'])
        else .ok (directory ++ stem ++ added)

end Path

end TemplateMap
