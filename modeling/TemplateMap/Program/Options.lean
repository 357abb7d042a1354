import TemplateMap.Text.Basic

/-! Options of programs: letters after a hyphen and words after two, which may be shortened,
anywhere among the other arguments. -/

namespace TemplateMap.Program

/-- The options that a program knows: letters, and words each of which stands for a letter. -/
structure OptionSet where
  letters : Text
  words : List (String × Char)

/-- The options among arguments, as letters in their order, and the other arguments. -/
structure OptionReading where
  options : Text
  operands : List Text

namespace OptionSet

/-- The options that all programs know: they print how the program is used, or what it is. -/
def common : OptionSet := ⟨[], [("help", 'H'), ("version", 'V')]⟩

/-- A text between quotes. -/
def quoted (t : Text) : Text := '\'' :: t ++ ['\'']

/-- The letter that a word with two hyphens in front stands for, or what is wrong with it. -/
def letterOf (o : OptionSet) (argument : Text) : Except Text Char :=
  let (name, value) := (argument.drop 2).span (· ≠ '=')
  let found := match o.words.find? fun (word, _) => word.toList = name with
    | some exact => [exact]
    | none => o.words.filter fun (word, _) => name.isPrefixOf word.toList
  match found with
  | [] => .error ("unrecognized option ".toList ++ quoted argument)
  | [(word, letter)] =>
    if value.isEmpty then .ok letter
    else
      .error ("option ".toList ++ quoted ('-' :: '-' :: word.toList) ++
        " doesn't allow an argument".toList)
  | several =>
    let names := several.map fun (word, _) => ' ' :: quoted ('-' :: '-' :: word.toList)
    .error ("option ".toList ++ quoted argument ++ " is ambiguous; possibilities:".toList ++
      names.flatten)

/-- The letters behind one hyphen, or what is wrong with one of them. -/
def lettersOf (o : OptionSet) (letters : Text) : Except Text Text :=
  match letters.find? fun c => !o.letters.contains c with
  | some c => .error ("invalid option -- ".toList ++ quoted [c])
  | none => .ok letters

/-- The letters of options that print something about the program instead of running it. -/
def tellers : Text := ['H', 'V']

/-- The options among arguments and the others, or what is wrong with the first option that is
not known.  Nothing after an option matters that only tells about the program; with `inOrder` no
options are looked for after other arguments. -/
def read (o : OptionSet) (inOrder : Bool) : List Text → Except Text OptionReading
  | [] => .ok ⟨[], []⟩
  | ['-', '-'] :: rest => .ok ⟨[], rest⟩
  | a :: rest => do
    let found ← match a with
      | '-' :: '-' :: _ => (o.letterOf a).map fun letter => some [letter]
      | '-' :: c :: letters => (o.lettersOf (c :: letters)).map some
      | _ => .ok none
    match found with
    | some letters =>
      if letters.any tellers.contains then return ⟨letters, []⟩
      else
        let others ← read o inOrder rest
        return { others with options := letters ++ others.options }
    | none =>
      if inOrder then return ⟨[], a :: rest⟩
      else
        let others ← read o inOrder rest
        return { others with operands := a :: others.operands }

end OptionSet

end TemplateMap.Program
