import TemplateMap.Program.Conversion
import TemplateMap.Program.Escape
import TemplateMap.Program.Quote

/-! Formatted output: a format with backslash forms and conversions, applied to arguments as often
as they last.  The program that formats and the shell differ in what they know and in how they
complain, which a dialect tells. -/

namespace TemplateMap.Program

/-- A piece of what is printed: output, or a message. -/
inductive Printed
  | output (t : Text)
  | message (t : Text)

/-- How far a format has been applied. -/
structure Progress where
  /-- What has been written since the last message, the last character first. -/
  written : Text
  /-- What has been printed before, the last piece first. -/
  printed : List Printed
  arguments : List Text
  /-- The format asked for an argument. -/
  asked : Bool
  failed : Bool
  /-- Some output could not be made. -/
  lacksOutput : Bool
  ending : Option PrintEnd

/-- A conversion in a format, before its letter is looked at. -/
structure Directive where
  conversion : Conversion
  /-- Its text. -/
  text : Text
  hasPrecision : Bool
  /-- Its width or precision is past a word of 32 bits. -/
  isExcessive : Bool

/-- How a format is read and what is told about arguments. -/
structure Dialect where
  /-- What stands after a backslash in the format. -/
  inFormat : Text → Escaped × Text
  /-- What stands after a backslash in an argument. -/
  inArgument : Text → Escaped × Text
  /-- The characters that are flags. -/
  flags : Text
  /-- The characters between precision and letter that mean nothing. -/
  sizes : Text
  floating : FloatingFormat
  /-- The number for the character after a quote in front of an argument, and what is left of the
  argument, if that is such a form. -/
  quoted? : Text → Option (Nat × Text)
  /-- Of two troubles with a number its range is told. -/
  rangeFirst : Bool
  /-- What is told about a number. -/
  trouble : Text → NumberTrouble → Text
  /-- What is told about characters after a quoted one, if something is. -/
  leftOver? : Text → Option Text
  /-- Whether a conversion is known. -/
  knows : Directive → Bool
  /-- What is told about a conversion that is not known. -/
  unknown : Directive → Text
  /-- What is told about a width and a precision of an argument that are too large; where nothing
  is, what is past a word of 32 bits is dropped. -/
  excessive? : Option (Text → Text × Text)
  /-- What is told about a width or a precision in the format that is too large; where nothing is,
  only the output of the conversion is lost. -/
  overflow? : Option Text
  /-- An argument as a shell reads it back. -/
  quote : Text → Text

namespace Progress

/-- With more output. -/
def write (p : Progress) (t : Text) : Progress := { p with written := t.reverse ++ p.written }

/-- With a message. -/
def complain (p : Progress) (message : Text) : Progress :=
  { p with written := [], printed := .message message :: .output p.written.reverse :: p.printed }

/-- At its end. -/
def stop (p : Progress) (e : PrintEnd) : Progress := { p with ending := some e }

/-- The next argument, if there is one. -/
def next (p : Progress) : Option Text × Progress :=
  match p.arguments with
  | [] => (none, { p with asked := true })
  | a :: rest => (some a, { p with arguments := rest, asked := true })

/-- With a complaint about a number, if there is something wrong with it. -/
def note (d : Dialect) (p : Progress) (t : Text) (trouble : Option NumberTrouble) : Progress :=
  match trouble with
  | some trouble => { p.complain (d.trouble t trouble) with failed := true }
  | none => p

/-- With nothing written since an earlier state, messages apart. -/
def withoutOutput (p before : Progress) : Progress :=
  { p with
    written := if p.printed.length = before.printed.length then before.written else []
    lacksOutput := true }

/-- The value of an argument as a number that `read` reads. -/
def number {α : Type} (d : Dialect) (p : Progress) (read : Text → Numeral α) (ofCode : Nat → α)
    (t : Text) : α × Progress :=
  match d.quoted? t with
  | some (code, rest) =>
    (ofCode code, match d.leftOver? rest with
      | some message => p.complain message
      | none => p)
  | none =>
    let numeral := read t
    (numeral.value, p.note d t (numeral.trouble? d.rangeFirst t))

/-- With a number written that the next argument gives. -/
def writeNumber {α : Type} (d : Dialect) (p : Progress) (read : Text → Numeral α)
    (ofCode : Nat → α) (shown : α → Text) : Progress :=
  let (a, p) := p.next
  let (value, p) := p.number d read ofCode (a.getD [])
  p.write (shown value)

/-- With a text written whose backslash forms are replaced. -/
def writeEscaped (d : Dialect) (c : Conversion) (p : Progress) : Progress :=
  let (a, p) := p.next
  let (t, ending) := Escaped.applied d.inArgument (a.getD [])
  { p.write (c.text t) with ending }

/-- After a conversion that the dialect knows. -/
def convert (d : Dialect) (c : Conversion) (p : Progress) : Progress :=
  match c.letter with
  | 's' => let (a, p) := p.next; p.write (c.text (a.getD []))
  | 'b' => p.writeEscaped d c
  | 'c' =>
    let (a, p) := p.next
    p.write (c.padded [((a.getD []).head?).getD '\x00'])
  | 'q' => let (a, p) := p.next; p.write ((a.map d.quote).getD [])
  | 'd' | 'i' => p.writeNumber d (wholeOf true) Int.ofNat c.signed
  | 'o' | 'u' | 'x' | 'X' =>
    p.writeNumber d (wholeOf false) Int.ofNat fun n => c.unsigned n.toNat
  | _ =>
    p.writeNumber d (floatingOf d.floating) (fun n => .finite false n) (c.floating d.floating)

/-- A width or precision that an argument gives; none where it is refused. -/
def amount (d : Dialect) (p : Progress) (isWidth : Bool) : Option Int × Progress :=
  match p.next with
  | (none, p) => (some 0, p)
  | (some a, p) =>
    let (n, p) := p.number d (wholeOf true) Int.ofNat a
    let isLarge := 2147483647 < n || (isWidth && n < -2147483648)
    match d.excessive? with
    | some message =>
      if isLarge then
        let (width, precision) := message a
        (none, p.stop (.refused (if isWidth then width else precision)))
      else (some n, p)
    | none => (some ((n + 2147483648) % 4294967296 - 2147483648), p)

end Progress

/-- The greatest width or precision. -/
def maxMeasure : Nat := 2147483647

/-- A width or precision in a format: digits, or a star for the next argument; with the text that it
is and the rest. -/
def measure (d : Dialect) (isWidth : Bool) (p : Progress) (t : Text) :
    Option Int × Progress × Text × Text :=
  match t with
  | '*' :: rest => let (n, p) := p.amount d isWidth; (n, p, ['*'], rest)
  | _ =>
    let (digits, rest) := t.span Char.isDigit
    (some (Text.digitsValue 0 digits), p, digits, rest)

/-- The conversion after a percent sign, and the rest. -/
def directive (d : Dialect) (p : Progress) (t : Text) : Directive × Progress × Text :=
  let (flags, t) := t.span d.flags.contains
  let (width, p, widthText, t) := measure d true p t
  let (precision, p, precisionText, t) := match t with
    | '.' :: t =>
      let (n, p, text, t) := measure d false p t
      (n.bind fun n => if n < 0 then none else some n.toNat, p, '.' :: text, t)
    | t => (none, p, [], t)
  let (sizes, t) := t.span d.sizes.contains
  let conversion : Conversion := ⟨flags, 0, precision, t.head?.getD '\x00'⟩
  let text := '%' :: flags ++ widthText ++ precisionText ++ sizes ++ t.take 1
  let isLarge (digits : Text) : Bool := maxMeasure < Text.digitsValue 0 digits
  let isExcessive := isLarge widthText || isLarge (precisionText.drop 1)
  let sized := if isExcessive then { conversion with precision := none }
    else conversion.withWidth (width.getD 0)
  (⟨sized, text, !precisionText.isEmpty, isExcessive⟩, p, t.drop 1)

/-- The progress after one pass over the format; `fuel` is more than its length. -/
def pass (d : Dialect) : (fuel : Nat) → Text → Progress → Progress
  | 0, _, p => p
  | _ + 1, [], p => p
  | fuel + 1, c :: rest, p =>
    if p.ending.isSome then p
    else if c = '\\' then
      match d.inFormat rest with
      | (.ending e, _) => p.stop e
      | (.text t, rest) => pass d fuel rest (p.write t)
    else if c = '%' then
      match rest with
      | '%' :: rest => pass d fuel rest (p.write ['%'])
      | _ =>
        let (found, p, rest) := directive d p rest
        if p.ending.isSome then p
        else if !d.knows found then p.stop (.refused (d.unknown found))
        else if found.isExcessive then
          let after := (p.convert d found.conversion).withoutOutput p
          match d.overflow? with
          | some message => after.stop (.refused message)
          | none => pass d fuel rest after
        else pass d fuel rest (p.convert d found.conversion)
    else pass d fuel rest (p.write [c])

/-- Passes over the format while arguments are left and the format takes some. -/
def passes (d : Dialect) (format : Text) : (fuel : Nat) → Progress → Progress
  | 0, p => p
  | fuel + 1, p =>
    let p := pass d (format.length + 1) format { p with asked := false }
    if p.ending.isSome || p.arguments.isEmpty || !p.asked then p else passes d format fuel p

/-- The progress of a format after all its passes. -/
def formatted (d : Dialect) (format : Text) (arguments : List Text) : Progress :=
  passes d format (arguments.length + 1) ⟨[], [], arguments, false, false, false, none⟩

namespace Progress

/-- All pieces, in the order in which they were printed. -/
def pieces (p : Progress) : List Printed := (.output p.written.reverse :: p.printed).reverse

end Progress

namespace Dialect

/-- The letters of conversions that both dialects know. -/
def letters : Text := "aAcdeEfFgGiosuxX".toList

/-- Whether the program knows a conversion: some flags go with some letters only. -/
def programKnows (x : Directive) : Bool :=
  let c := x.conversion
  let without (flags : Text) (letters : String) : Bool :=
    !(letters.toList.contains c.letter && flags.any c.flags.contains)
  x.text = ['%', 'b'] || x.text = ['%', 'q'] ||
    (letters.contains c.letter && without ['I', '\''] "aAceEosxX" && without ['#'] "cdisu" &&
      without ['0'] "cs" && !(c.letter = 'c' && x.hasPrecision))

/-- The code of the first character of a text, and the rest. -/
def codeOf (l : Locale) (c : Char) (rest : Text) : Nat × Text :=
  let (x, rest) := l.first c rest
  ((x.code.getD c).toNat, rest)

/-- The dialect of the program that formats; a strict one tells nothing about characters after a
quoted one. -/
def program (l : Locale) (isStrict : Bool) : Dialect where
  inFormat := Escaped.formatted l false
  inArgument := Escaped.formatted l true
  flags := ['-', '+', ' ', '#', '0', 'I', '\'']
  sizes := "lLhjtz".toList
  floating := .extended
  quoted?
    | '"' :: c :: rest => some (codeOf l c rest)
    | '\'' :: c :: rest => some (codeOf l c rest)
    | _ => none
  rangeFirst := true
  trouble t trouble := Quote.inMessage l t ++ (match trouble with
    | .noNumber => ": expected a numeric value"
    | .unread => ": value not completely converted"
    | .outOfRange => ": Numerical result out of range").toList
  leftOver? rest :=
    if rest.isEmpty || isStrict then none
    else some ("warning: ".toList ++ rest ++
      ": character(s) following character constant have been ignored".toList)
  knows := programKnows
  unknown x := x.text ++ ": invalid conversion specification".toList
  excessive? := some fun t =>
    ("invalid field width: ".toList ++ Quote.inMessage l t,
      "invalid precision: ".toList ++ Quote.inMessage l t)
  overflow? := none
  quote := Quote.forShell l false

/-- The dialect of scripts. -/
def script : Dialect where
  inFormat := Escaped.inFormat
  inArgument := Escaped.inArgument
  flags := ['-', '+', ' ', '#', '0']
  sizes := []
  floating := .double
  quoted?
    | '"' :: rest => some (((rest.head?).getD '\x00').toNat, [])
    | '\'' :: rest => some (((rest.head?).getD '\x00').toNat, [])
    | _ => none
  rangeFirst := false
  trouble t trouble := t ++ (match trouble with
    | .noNumber => ": expected numeric value"
    | .unread => ": not completely converted"
    | .outOfRange => ": Numerical result out of range").toList
  leftOver? _ := none
  knows x := x.conversion.letter = 'b' || letters.contains x.conversion.letter
  unknown x :=
    if x.conversion.letter = '\x00' then "missing format character".toList
    else x.text ++ ": invalid directive".toList
  excessive? := none
  overflow? := some "xvsnprintf failed".toList
  quote t := t

end Dialect

end TemplateMap.Program
