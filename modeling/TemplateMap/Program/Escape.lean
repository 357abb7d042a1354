import TemplateMap.Program.Locale

/-! Backslash forms in the arguments of commands that print.  Texts are bytes, one character for
each. -/

namespace TemplateMap.Program

/-- Why printing ends before all is printed. -/
inductive PrintEnd
  /-- A form asked for it. -/
  | stopped
  /-- Something is refused with a message. -/
  | refused (message : Text)

/-- What a backslash and the characters after it stand for. -/
inductive Escaped
  | text (t : Text)
  | ending (e : PrintEnd)

namespace Escaped

/-- The letters that stand for other characters. -/
def letters : List (Char × Char) :=
  [('a', '\x07'), ('b', '\x08'), ('e', '\x1b'), ('f', '\x0c'), ('n', '\n'), ('r', '\r'),
    ('t', '\t'), ('v', '\x0b'), ('\\', '\\')]

/-- The byte of digits in a base; what is past a byte is dropped. -/
def byteOf (base : Nat) (digits : Text) : Escaped :=
  .text [Char.ofNat (Integer.ofDigits base digits % 256)]

/-- The byte of the octal number at the start of a text, of at most three digits, and the rest. -/
def octal (t : Text) : Escaped × Text :=
  let digits := (t.take 3).takeWhile Integer.isOctalDigit
  (byteOf 8 digits, t.drop digits.length)

/-- The letters and the octal numbers after a backslash, which everything that prints knows. -/
def common? (t : Text) : Option (Escaped × Text) :=
  match t with
  | [] => none
  | c :: rest =>
    match letters.lookup c with
    | some other => some (.text [other], rest)
    | none => if Integer.isOctalDigit c then some (octal t) else none

/-- What stands after a backslash in the format of a script; where it is nothing known, the
backslash stands for itself. -/
def inFormat (t : Text) : Escaped × Text := (common? t).getD (.text ['\\'], t)

/-- What stands after a backslash in an argument of a script: a zero may come before the digits of
an octal number, and a letter ends the output. -/
def inArgument (t : Text) : Escaped × Text :=
  match t with
  | 'c' :: _ => (.ending .stopped, [])
  | '0' :: rest => if rest.head?.any Integer.isOctalDigit then octal rest else octal t
  | _ => inFormat t

/-- What stands after a backslash in an argument of the program that echoes: a zero may come before
the digits of an octal number, and there are hexadecimal ones. -/
def echoed (t : Text) : Escaped × Text :=
  match t with
  | 'x' :: rest =>
    let digits := (rest.take 2).takeWhile Integer.isHexDigit
    if digits.isEmpty then (.text ['\\'], t) else (byteOf 16 digits, rest.drop digits.length)
  | _ => inArgument t

/-- The code points that no name may be written for: those that texts write as they are, and those
that stand for no character. -/
def isRefused (code : Nat) : Bool :=
  (code < 0xa0 && code ≠ 0x24 && code ≠ 0x40 && code ≠ 0x60) || (0xd800 ≤ code && code < 0xe000)

/-- The code point that letters ask for, of which the number of digits is fixed; where texts are
bytes, a name stands for it. -/
def codePoint (l : Locale) (letter : Char) (count : Nat) (t : Text) : Escaped × Text :=
  let digits := t.take count
  let code := Integer.ofDigits 16 digits
  let shown (size : Nat) : Text :=
    let digits := Nat.toDigits 16 code
    List.replicate (size - digits.length) '0' ++ digits
  if digits.length < count || !digits.all Integer.isHexDigit then
    (.ending <| .refused "missing hexadecimal number in escape".toList, [])
  else if isRefused code then
    let name := '\\' :: letter :: shown count
    (.ending <| .refused ("invalid universal character name ".toList ++ name), [])
  else if code < 128 then (.text [Char.ofNat code], t.drop count)
  else if l.isWide && code < 0x110000 then
    (.text (Latin1.ofText [Char.ofNat code]), t.drop count)
  else if code < 0x10000 then
    (.text ('\\' :: 'u' :: (shown 4).map Char.toUpper), t.drop count)
  else (.text ('\\' :: 'U' :: (shown 8).map Char.toUpper), t.drop count)

/-- What stands after a backslash for the program that formats; `inArgument` tells that a zero may
come before the digits of an octal number. -/
def formatted (l : Locale) (inArgument : Bool) (t : Text) : Escaped × Text :=
  match t with
  | [] => (.text ['\\'], [])
  | 'x' :: rest =>
    let digits := (rest.take 2).takeWhile Integer.isHexDigit
    if digits.isEmpty then (.ending <| .refused "missing hexadecimal number in escape".toList, [])
    else (byteOf 16 digits, rest.drop digits.length)
  | 'c' :: _ => (.ending .stopped, [])
  | '"' :: rest => (.text ['"'], rest)
  | 'u' :: rest => codePoint l 'u' 4 rest
  | 'U' :: rest => codePoint l 'U' 8 rest
  | '0' :: rest => if inArgument then octal rest else octal t
  | c :: rest => (common? t).getD (.text ['\\', c], rest)

/-- What a text is when its backslash forms are read by `read`, and what ended it, if a form did;
`fuel` is more than its length. -/
def replace (read : Text → Escaped × Text) : (fuel : Nat) → Text → Text × Option PrintEnd
  | 0, t => (t, none)
  | _ + 1, [] => ([], none)
  | fuel + 1, c :: rest =>
    if c = '\\' then
      match read rest with
      | (.text t, rest) => let (after, e) := replace read fuel rest; (t ++ after, e)
      | (.ending e, _) => ([], some e)
    else let (after, e) := replace read fuel rest; (c :: after, e)

/-- The text with its backslash forms replaced, and what ended it, if a form did. -/
def applied (read : Text → Escaped × Text) (t : Text) : Text × Option PrintEnd :=
  replace read (t.length + 1) t

end Escaped

end TemplateMap.Program
