import LuaBinder.CommandLine.Arguments

namespace LuaBinder.CommandLine

/-! What the program says about itself. -/

namespace Switch

/-- What stands for the value of an option. -/
def placeholder? : Switch → Option String
  | config => some "FILE"
  | preset => some "NAME"
  | moduleName => some "NAME"
  | output => some "DIR"
  | directory => some "DIR"
  | define => some "NAME[=VALUE]"
  | help | strict | verbose => none

def about : Switch → String
  | help => "show this text and exit"
  | config => "JSON configuration file"
  | preset => "configuration for a library that is known"
  | moduleName => "name of the Lua module"
  | output => "output directory"
  | directory => "add an include directory"
  | define => "define a macro for the preprocessor"
  | strict => "fail when any declaration was skipped"
  | verbose => "log everything"

def usage (s : Switch) : String :=
  match s.placeholder? with
  | some word => s.name ++ " " ++ word
  | none => s.name

end Switch

def usageLine : String :=
  "usage: luabinder " ++
    String.intercalate " " (Switch.all.map fun s => "[" ++ s.usage ++ "]") ++ " [HEADER ...]"

def helpLines : List String :=
  [usageLine, "", "Generates a LuaJIT module and annotations for a C library.", ""] ++
    Switch.all.map fun s => "  " ++ s.usage ++ ": " ++ s.about

end LuaBinder.CommandLine
