import LuaBinder.File.Tree
import LuaBinder.Header.Parsed
import LuaBinder.LuaModule.Stub
import LuaBinder.Session.Run
import LuaBinder.Text.Order

namespace LuaBinder.Generation

open Header

/-! Generating the files of a library: the Lua module and the annotations for it. -/

inductive Fault where
  | header (fault : Header.Fault)
  | session (error : Session.Error)
  | file (error : FileError)
  | text (fault : LuaModule.Fault)
  deriving Repr

def Fault.message : Fault → String
  | .header fault => fault.message
  | .session error => error.message
  | .file error => error.message
  | .text fault => fault.message

/-- The files, and the lines printed so far. -/
structure Workspace where
  files : FileTree := {}
  printed : List String := []
  deriving Repr

/-- Work that fails leaves the workspace as it was when it failed. -/
abbrev Work := ExceptT Fault (StateM Workspace)

def Work.run (work : Work α) (space : Workspace) : Except Fault α × Workspace := work space

/-- The declarations of a library and those at the top. -/
abbrev FrontEnd := Policy → Except Header.Fault (Forest × List Nat)

/-- The front end that finds header trees among the files. -/
def treesIn (files : FileTree) : FrontEnd := fun policy =>
  let (parsed, table) := ParsedHeaders.ofFiles files {} policy.entryPoints
  let (_, found) := collect policy table.nodes parsed policy.entryPoints
  found.map fun top => (Forest.ofReported table.nodes true, top)

/-- A session at its end, with what it emits. -/
structure Bound where
  session : Session
  usrs : List String
  deriving Repr

/-- Either text settles the layout anew. -/
def Bound.log (bound : Bound) : List LogRecord :=
  let layout := Session.layoutLog (Session.bindingsOf bound.session.store bound.usrs)
  bound.session.log ++ layout ++ layout

def modulePath (policy : Policy) : String :=
  Path.join policy.output (policy.moduleName ++ ".lua")

def stubPath (policy : Policy) : String :=
  Path.join policy.output (policy.moduleName ++ ".d.lua")

def say (line : String) : Work Unit :=
  modify fun space => { space with printed := space.printed ++ [line] }

def lift (wrap : ε → Fault) (value : Except ε α) : Work α :=
  match value with
  | .ok value => return value
  | .error error => throw (wrap error)

def bind (frontEnd : FrontEnd) (policy : Policy) : Except Fault Bound := do
  let (forest, top) ← (frontEnd policy).mapError .header
  let (result, session) := (Session.runAll top).run forest { policy }
  return { session, usrs := ← result.mapError .session }

def ensureOutput (path : String) : Work Unit := do
  let (files, error) := (← get).files.ensureDirectories path
  modify fun space => { space with files }
  match error with
  | some error => throw (.file error)
  | none => return ()

def writeText (path text : String) : Work Unit := do
  let files ← lift .file ((← get).files.write path text)
  modify fun space => { space with files }

/-- The file is there, and empty, before its text is known. -/
def writeModule (path : String) (text : Except LuaModule.Fault String) : Work Unit := do
  writeText path ""
  writeText path (← lift .text text)

/-- How often each name occurs, by name. -/
def tally (names : List String) : List (String × Nat) :=
  (Text.sortTexts names.eraseDups).map fun name => (name, names.count name)

def counted (names : List String) : String :=
  String.intercalate ", " ((tally names).map fun entry => toString entry.2 ++ " " ++ entry.1)

def summary (bound : Bound) : List String :=
  let bindings := Session.bindingsOf bound.session.store bound.usrs
  let kinds := counted (bindings.map fun binding => binding.2.kind.name)
  let found := bound.session.diagnostics
  let first :=
    "  " ++ toString bindings.length ++ " declarations (" ++
      (if kinds == "" then "none" else kinds) ++ ")"
  if found.isEmpty then [first]
  else
    [first,
      "  >> warning: " ++ toString found.length ++ " diagnostics (" ++
        counted (found.map (·.reason.name)) ++ ")"]

def generate (frontEnd : FrontEnd) (policy : Policy) : Work Bound := do
  say "=== Generating FFI bindings:"
  policy.entryPoints.forM fun header => say ("  " ++ header ++ " => " ++ policy.moduleName)
  let bound ← lift id (bind frontEnd policy)
  ensureOutput policy.output
  let store := bound.session.store
  let bindings := Session.bindingsOf store bound.usrs
  writeModule (modulePath policy) (LuaModule.moduleText store policy.native bindings)
  writeModule (stubPath policy) (LuaModule.stubText store policy bindings)
  (summary bound).forM say
  return bound

end LuaBinder.Generation
