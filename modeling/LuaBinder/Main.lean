import LuaBinder.CommandLine.Run
import LuaBinder.CommandLine.Usage

open LuaBinder CommandLine

/-! The program: reads the files that the arguments lead to, runs, and writes what is
new. -/

namespace LuaBinder.CommandLine

/-- A file that cannot be read is left out. -/
def addFile (files : FileTree) (path : String) : IO FileTree := do
  try
    return files.withFile path (← IO.FS.readFile path)
  catch _ => return files

def addFiles (files : FileTree) (paths : List String) : IO FileTree :=
  paths.foldlM addFile files

def writeNew (before after : FileTree) : IO Unit := do
  for entry in after.entries do
    if !before.entries.contains entry then
      match entry with
      | (place, .directory) => IO.FS.createDirAll place.path
      | (place, .file text) => IO.FS.writeFile place.path text

def printLines (stream : IO.FS.Stream) (lines : List String) : IO Unit :=
  lines.forM stream.putStrLn

/-- The records of a session that are shown: all of them if the arguments ask for it. -/
def shownRecords (arguments : Arguments) (log : List LogRecord) : List LogRecord :=
  log.filter fun record => arguments.verbose || record.level != .debug

def work (arguments : Arguments) : IO UInt32 := do
  let before ← addFiles {} (given arguments.config).toList
  let headers :=
    match configuration before arguments with
    | .ok policy => policy.entryPoints
    | .error _ => []
  let before ← addFiles before headers
  let outcome := run (Generation.treesIn before) before arguments
  let errors ← IO.getStderr
  printLines (← IO.getStdout) outcome.printed
  let records := shownRecords arguments outcome.log
  printLines errors (records.map fun r => r.level.name ++ " " ++ r.source ++ ": " ++ r.message)
  printLines errors outcome.complaints
  writeNew before outcome.files
  match outcome.result with
  | .ok status => return status.toUInt32
  | .error fault =>
      errors.putStrLn (complaint fault.message)
      return 1

end LuaBinder.CommandLine

def main (texts : List String) : IO UInt32 := do
  match Arguments.ofTexts texts with
  | .ok arguments => work arguments
  | .error .help =>
      printLines (← IO.getStdout) helpLines
      return 0
  | .error (.error error) =>
      printLines (← IO.getStderr) [usageLine, "luabinder: " ++ complaint error.message]
      return 2
