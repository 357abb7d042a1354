import TemplateMap.Text.Basic

/-! What programs tell about themselves: how they are used, and which version they are. -/

namespace TemplateMap.Program

namespace Usage

/-- The options that all programs know. -/
def commonOptions : String :=
  "      --help        display this help and exit\n" ++
    "      --version     output version information and exit\n"

/-- How the forms of a program are shown that a name starts. -/
def forms (name : Text) (first : String) (others : List String) : Text :=
  "Usage: ".toList ++ name ++ ' ' :: first.toList ++ ['\n'] ++
    others.flatMap fun other => "  or:  ".toList ++ name ++ ' ' :: other.toList ++ ['\n']

/-- The backslash forms that all programs that print know. -/
def escapes : String :=
  "  \\\\      backslash\n" ++
    "  \\a      alert (BEL)\n" ++
    "  \\b      backspace\n" ++
    "  \\c      produce no further output\n" ++
    "  \\e      escape\n" ++
    "  \\f      form feed\n" ++
    "  \\n      new line\n" ++
    "  \\r      carriage return\n" ++
    "  \\t      horizontal tab\n" ++
    "  \\v      vertical tab\n"

/-- The use of the program that lists files. -/
def cat (name : Text) : Text :=
  forms name "[OPTION]... [FILE]..." [] ++
    ("Concatenate FILE(s) to standard output.\n\n" ++
      "With no FILE, or when FILE is -, read standard input.\n\n" ++
      "  -A, --show-all           equivalent to -vET\n" ++
      "  -b, --number-nonblank    number nonempty output lines, overrides -n\n" ++
      "  -e                       equivalent to -vE\n" ++
      "  -E, --show-ends          display $ at end of each line\n" ++
      "  -n, --number             number all output lines\n" ++
      "  -s, --squeeze-blank      suppress repeated empty output lines\n" ++
      "  -t                       equivalent to -vT\n" ++
      "  -T, --show-tabs          display TAB characters as ^I\n" ++
      "  -u                       (ignored)\n" ++
      "  -v, --show-nonprinting   use ^ and M- notation, except for LFD and TAB\n" ++
      commonOptions ++ "\nExamples:\n  ").toList ++ name ++
    " f - g  Output f's contents, then standard input, then g's contents.\n  ".toList ++
    name ++ "        Copy standard input to standard output.\n".toList

/-- The use of the program that echoes. -/
def echo (name : Text) : Text :=
  forms name "[SHORT-OPTION]... [STRING]..." ["LONG-OPTION"] ++
    ("Echo the STRING(s) to standard output.\n\n" ++
      "  -n             do not output the trailing newline\n" ++
      "  -e             enable interpretation of backslash escapes\n" ++
      "  -E             disable interpretation of backslash escapes (default)\n" ++
      commonOptions ++
      "\nIf -e is in effect, the following sequences are recognized:\n\n" ++
      escapes ++
      "  \\0NNN   byte with octal value NNN (1 to 3 digits)\n" ++
      "  \\xHH    byte with hexadecimal value HH (1 to 2 digits)\n").toList

/-- The use of the program that formats. -/
def printf (name : Text) : Text :=
  forms name "FORMAT [ARGUMENT]..." ["OPTION"] ++
    ("Print ARGUMENT(s) according to FORMAT, or execute according to OPTION:\n\n" ++
      commonOptions ++
      "\nFORMAT controls the output as in C printf.  Interpreted sequences are:\n\n" ++
      "  \\\"      double quote\n" ++
      escapes ++
      "  \\NNN    byte with octal value NNN (1 to 3 digits)\n" ++
      "  \\xHH    byte with hexadecimal value HH (1 to 2 digits)\n" ++
      "  \\uHHHH  Unicode (ISO/IEC 10646) character with hex value HHHH (4 digits)\n" ++
      "  \\UHHHHHHHH  Unicode character with hex value HHHHHHHH (8 digits)\n" ++
      "  %%      a single %\n" ++
      "  %b      ARGUMENT as a string with '\\' escapes interpreted,\n" ++
      "          except that octal escapes are of the form \\0 or \\0NNN\n" ++
      "  %q      ARGUMENT is printed in a format that can be reused as shell input,\n" ++
      "          escaping non-printable characters with the proposed POSIX $'' syntax.\n" ++
      "\nand all C format specifications ending with one of diouxXfeEgGcs, with\n" ++
      "ARGUMENTs converted to proper type first.  Variable widths are handled.\n").toList

/-- The use of the program that waits. -/
def sleep (name : Text) : Text :=
  forms name "NUMBER[SUFFIX]..." ["OPTION"] ++
    ("Pause for NUMBER seconds.  SUFFIX may be 's' for seconds (the default),\n" ++
      "'m' for minutes, 'h' for hours or 'd' for days.  NUMBER need not be an\n" ++
      "integer.  Given two or more arguments, pause for the amount of time\n" ++
      "specified by the sum of their values.\n\n" ++ commonOptions).toList

/-- The use of a program that only ends with a status. -/
def ending (outcome : String) (name : Text) : Text :=
  forms name "[ignored command line arguments]" ["OPTION"] ++
    ("Exit with a status code indicating " ++ outcome ++ ".\n\n" ++ commonOptions).toList

/-- The version of a program. -/
def version (program : String) : Text := (program ++ " (GNU coreutils) 9.1\n").toList

end Usage

end TemplateMap.Program
