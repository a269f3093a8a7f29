import LuaBinder.Policy.Basic

namespace LuaBinder

open Text

/-! Policies for particular libraries, laid over a given policy. -/

inductive Preset where
  | libc
  | sokol
  deriving DecidableEq, Repr

/-- A preset that is not there, or not enough room for its arguments. -/
inductive PresetError where
  | unknown (path : String)
  | inside (path parent : String)
  | arguments (range : String) (given : Nat)
  | policy (error : Policy.Error)
  deriving Repr

def PresetError.message : PresetError → String
  | .unknown path => "No module named " ++ quoted path
  | .inside path parent =>
      "No module named " ++ quoted path ++ "; " ++ quoted parent ++ " is not a package"
  | .arguments range given =>
      "configure() takes " ++ range ++ " but " ++ toString given ++ " were given"
  | .policy error => error.message

namespace Preset

def ofName? : String → Option Preset
  | "libc" => some .libc
  | "sokol" => some .sokol
  | _ => none

/-- A preset by its name; a dotted name asks for a part, which no preset has. -/
def find (name : String) : Except PresetError Preset :=
  match name.splitOn "." with
  | [] => .error (.unknown "bindings.")
  | first :: rest =>
      let path := "bindings." ++ first
      match ofName? first, rest with
      | some preset, [] => .ok preset
      | some _, part :: _ => .error (.inside (path ++ "." ++ part) path)
      | none, _ => .error (.unknown path)

def liftPolicy (read : Except Policy.Error α) : Except PresetError α :=
  read.mapError .policy

/-- Only the named declarations. -/
def only (names : List String) : Except PresetError Selection :=
  liftPolicy (SelectionText.read { included := some names })

def addAll (policy : Policy) (function : String) (signatures : List (String × List String)) :
    Policy :=
  (policy.addSignatures function signatures).1

def printSignatures (last : String) : List (String × List String) :=
  [("_s", ["const char *"]), ("_i", ["int"]), (last, ["double"])]

/-- A small part of the C standard library. -/
def configureLibc (policy : Policy) : Except PresetError Policy := do
  let functions ← liftPolicy <| SelectionText.read
    { included := some
        ["printf", "snprintf", "puts", "putchar",
          "malloc", "calloc", "realloc", "free", "abs", "atoi", "strtol", "strtod",
          "strlen", "strcmp", "strncmp", "strchr", "strstr", "memcpy", "memmove",
          "memset", "memcmp",
          "sqrt", "pow", "sin", "cos", "tan", "atan2", "floor", "ceil", "fabs"]
      memberRenames := [(".*", [("__(.*)", .string "\\1")])] }
  let macros ← only ["EOF", "RAND_MAX", "EXIT_SUCCESS", "EXIT_FAILURE", "M_PI"]
  let leafFunctions ← only ["strlen", "abs", "sqrt", "fabs"]
  let policy :=
    { policy with
      moduleName := if policy.moduleName == "bindings" then "libc" else policy.moduleName
      includeDirectives :=
        if policy.includeDirectives.isEmpty then
          ["*/stdio.h", "*/stdlib.h", "*/string.h", "*/math.h"]
        else policy.includeDirectives
      functions, macros, leafFunctions
      structs := .none, unions := .none, enums := .none, unnamedEnums := .none
      globals := .none, typedefs := .none }
  return addAll (addAll policy "printf" (printSignatures "_d")) "snprintf"
    (printSignatures "_d")

def sokolModules : List (String × String) :=
  [("slog_", "log"), ("sg_", "gfx"), ("sapp_", "app"), ("stm_", "time"),
    ("saudio_", "audio"), ("sgl_", "gl"), ("sdtx_", "debugtext"),
    ("sshape_", "shape"), ("sglue_", "glue")]

def upperText (text : String) : String := String.ofList (uppercase text.toList)

def dropUnderscores (text : String) : String :=
  String.ofList (dropLast (· == '_') text.toList)

/-- The declarations with the start of a name in common, bound without it. -/
def startingWith (start : String) (excluded : List String) : Except PresetError Selection :=
  let capital := upperText start
  liftPolicy <| SelectionText.read
    { included := some [start ++ ".*", "_?" ++ capital ++ ".*"]
      excluded
      renames := [("_?(?:" ++ start ++ "|" ++ capital ++ ")(.*)", .string "\\1")] }

/-- One of the sokol headers, chosen by the start of its names. -/
def configureSokol (start : String) (policy : Policy) : Except PresetError Policy := do
  let moduleName :=
    if policy.moduleName == "bindings" then
      ((sokolModules.find? (·.1 == start)).map (·.2)).getD (dropUnderscores start)
    else policy.moduleName
  let functions ← startingWith start ["_.*", "sg_install_trace_hooks", "sdtx_vprintf"]
  let structs ← startingWith start ["_.*", "sg_trace_hooks"]
  let unions ← startingWith start []
  let enums ← startingWith start ["_.*"]
  let typedefs ← startingWith start ["sg_trace_hooks"]
  let unnamedEnums ← startingWith start []
  let macros ← liftPolicy <| SelectionText.read
    { included := some [upperText start ++ ".*"]
      excluded := [".*_INCLUDED", ".*_API_DECL"] }
  let policy :=
    { policy with
      moduleName, functions, structs, unions, enums, typedefs, unnamedEnums, macros
      globals := .none }
  return if start == "sdtx_" then addAll policy "sdtx_printf" (printSignatures "_f")
    else policy

/-- The preset for the given arguments; only the start of the names can be chosen. -/
def configure (preset : Preset) (arguments : List String) (policy : Policy) :
    Except PresetError Policy :=
  match preset, arguments with
  | .libc, [] => configureLibc policy
  | .libc, arguments =>
      .error (.arguments "1 positional argument" (arguments.length + 1))
  | .sokol, [] => configureSokol "sg_" policy
  | .sokol, [start] => configureSokol start policy
  | .sokol, arguments =>
      .error (.arguments "from 1 to 2 positional arguments" (arguments.length + 1))

end Preset

end LuaBinder
