import TemplateMap.FileSystem
import TemplateMap.Shell.Pattern

/-! Patterns of paths: the files whose paths match a pattern, in the order of their bytes. -/

namespace TemplateMap.Shell

namespace Glob

/-- Whether a bracket is closed before a slash comes; the text follows the opening bracket.  `fuel`
is more than its length. -/
def isClosed : (fuel : Nat) → Text → Bool
  | 0, _ => false
  | fuel + 1, t =>
    let t := match t with
      | '\\' :: rest => rest
      | t => t
    match t with
    | [] => false
    | '/' :: _ => false
    | _ :: ']' :: _ => true
    | _ :: rest => isClosed fuel rest

/-- Whether a bracket is closed that the text follows. -/
def closesBracket (t : Text) : Bool :=
  match t with
  | '!' :: rest => isClosed (rest.length + 1) rest
  | t => isClosed (t.length + 1) t

/-- The characters of a pattern without the backslashes that keep their meaning away. -/
def unescaped : Text → Text
  | '\\' :: c :: rest => c :: unescaped rest
  | c :: rest => c :: unescaped rest
  | [] => []

/-- The first part of a pattern that names more than one file: the text before it, up to a slash,
the part itself, and the text after the slash that ends it, if there is one. -/
structure Split where
  before : Text
  part : Text
  after : Option Text

/-- The first part of a pattern that names more than one file, given what was read before and since
the last slash, both the last character first; none if there is none.  `fuel` is more than the
length of the pattern. -/
def split? : (fuel : Nat) → (before part : Text) → (isMeta : Bool) → Text → Option Split
  | 0, _, _, _, _ => none
  | _ + 1, before, part, isMeta, [] =>
    if isMeta then some ⟨before.reverse, part.reverse, none⟩ else none
  | fuel + 1, before, part, isMeta, c :: rest =>
    if c = '*' || c = '?' then split? fuel before (c :: part) true rest
    else if c = '[' then split? fuel before (c :: part) (isMeta || closesBracket rest) rest
    else
      let (escape, c, rest) : Text × Char × Text := match c, rest with
        | '\\', e :: rest => (['\\'], e, rest)
        | _, _ => ([], c, rest)
      if c = '/' then
        if isMeta then some ⟨before.reverse, part.reverse, some rest⟩
        else split? fuel (c :: escape ++ part ++ before) [] false rest
      else split? fuel before (c :: escape ++ part) isMeta rest

/-- Whether a part of a pattern begins with a dot. -/
def beginsWithDot (part : Text) : Bool :=
  match part with
  | '\\' :: rest => rest.head? = some '.'
  | part => part.head? = some '.'

/-- The paths that match a pattern after a path that leads to them; `fuel` is more than the length
of the pattern. -/
def paths (fs : FileSystem) (here : Place) : (fuel : Nat) → (leading pattern : Text) → List Text
  | 0, _, _ => []
  | fuel + 1, leading, pattern =>
    match split? (pattern.length + 1) [] [] false pattern with
    | none =>
      let path := leading ++ unescaped pattern
      if leading.isEmpty || (fs.lookFrom? here (Latin1.toText path)).isNone then [] else [path]
    | some s =>
      let leading := leading ++ unescaped s.before
      let directory := if leading.isEmpty then ['.'] else leading
      match fs.resolveFrom here (Latin1.toText directory) with
      | .error _ => []
      | .ok place =>
        match fs.node? place with
        | some .directory =>
          let names := (fs.namesIn place).map Latin1.ofText
          let fits (name : Text) : Bool :=
            (name.head? != some '.' || beginsWithDot s.part) && matchesPattern s.part name
          (names.filter fits).flatMap fun name =>
            match s.after with
            | none => [leading ++ name]
            | some after => paths fs here fuel (leading ++ name ++ ['/']) after
        | _ => []

/-- Whether a text comes before another one in the order of its bytes, or is the same. -/
def isOrdered : Text → Text → Bool
  | [], _ => true
  | _ :: _, [] => false
  | a :: as, b :: bs => a < b || (a = b && isOrdered as bs)

/-- Whether a text may be a pattern. -/
def isPattern (t : Text) : Bool := t.any fun c => c = '*' || c = '?' || c = '['

/-- The paths that match a pattern, seen from a directory. -/
def all (fs : FileSystem) (here : Place) (pattern : Text) : List Text :=
  (paths fs here (pattern.length + 1) [] pattern).mergeSort isOrdered

end Glob

end TemplateMap.Shell
