import LiveMarkdown.CommandLine.Command
import LiveMarkdown.Script.Machine

/-!
The program: it reads the file that its arguments name, carries out the command and prints what came
of it.
-/

namespace LiveMarkdown.CommandLine

/-- How the program is used. -/
def helpText : String :=
  "Usage: execsmith [OPTIONS] [INPUT]\n\n" ++
  "  Execute Python fragments of a Markdown document and emit HTML.\n\n" ++
  "Options:\n" ++
  "  -x, --enable-extension TEXT   Additional Markdown extensions to enable.\n" ++
  "  -d, --disable-extension TEXT  Markdown extensions to disable.\n" ++
  "  --enable-key TEXT             Front matter key that must be set to true.\n" ++
  "  --marker-class TEXT           Class marking executable code elements.\n" ++
  "  -o, --output PATH             Output HTML file. Defaults to stdout.\n" ++
  "  --list-extensions             List Markdown extensions enabled by default.\n" ++
  "  -v, --verbose                 Increase verbosity.\n" ++
  "  --debug                       Attach exceptions to warnings.\n" ++
  "  --version                     Show the installed version.\n" ++
  "  --help                        Show this message.\n"

/-- The file that a path leads to. -/
def readEntry (path : String) : IO Entry := do
  try
    let bytes ← IO.FS.readBinFile path
    let name ← IO.FS.realPath path
    return .file name.toString bytes.data.toList
  catch _ => return .noFile

/-- Writes a file, and the directories on the way to it. -/
def writeFile (path text : String) : IO Unit := do
  let steps := Text.splitAt "/" path
  let directory := "/".intercalate steps.dropLast
  if directory != "" then IO.FS.createDirAll directory
  IO.FS.writeFile path text

/-- The file that the arguments name, if they name one. -/
def inputOf (args : List String) : Option String := do
  let p ← readArguments (args.length + 1) {} args
  p.files.head?

end LiveMarkdown.CommandLine

open LiveMarkdown.CommandLine in
def main (args : List String) : IO UInt32 := do
  let entry ← match inputOf args with
    | some path => readEntry path
    | none => pure .noFile
  match carryOut LiveMarkdown.Script.fullMachine args fun _ => entry with
  | .usage =>
    IO.eprintln "The arguments cannot be read; --help shows how the program is used."
    return 2
  | .help code =>
    IO.print helpText
    return UInt32.ofNat code.toNat
  | .done report =>
    if let some (path, text) := report.written then writeFile path text
    IO.print report.output
    IO.eprint report.messages
    return UInt32.ofNat (report.exit % 256).toNat
