import TemplateMap.Host.Standard

/-! The program: it reads the files that its arguments name, executes the invocation, and prints
what comes of it. -/

namespace TemplateMap.Main

/-- The file system with what is at a path, as far as it can be read. -/
def load (files : FileSystem) (path : Path) : IO FileSystem := do
  try
    if ← (← IO.FS.realPath path.str).isDir then return files.makeDirectory path none
    let content ← IO.FS.readBinFile path.str
    return files.write path content.toList (.moment 0)
  catch _ => return files

/-- The files that an invocation may read. -/
def loadAll (i : Invocation) : IO FileSystem := do
  let files ← i.config.toList.foldlM load .empty
  match i.configuration .standard files with
  | .error _ => return files
  | .ok config => (i.filesNeeded config).foldlM load files

/-- How the program is used. -/
def usage : String := "Usage: jspmap [OPTIONS] --template <NAME> <COMPILED>"

end TemplateMap.Main

open TemplateMap in
/-- Executes the invocation that the arguments make, and gives its exit code. -/
def main (arguments : List String) : IO UInt32 := do
  match CommandLine.parse (arguments.map String.toList) with
  | .error e =>
    if e = .helpRequested then IO.println Main.usage else IO.eprintln Main.usage
    return UInt32.ofNat e.exitCode
  | .ok i =>
    let outcome := i.execute .standard (← Main.loadAll i)
    IO.print outcome.output.str
    IO.eprint outcome.messages.str
    return UInt32.ofNat outcome.exit
