import LuaBinder.Declaration.Store
import LuaBinder.Diagnostic
import LuaBinder.Header.Cursor
import LuaBinder.Header.Literal
import LuaBinder.Session.Context

namespace LuaBinder

open Header

/-! The state of one session, and the steps that change it. A step that fails leaves
the state as it was when it failed. -/

inductive LogLevel where
  | debug
  | warning
  | error
  deriving DecidableEq, Repr

def LogLevel.name : LogLevel → String
  | .debug => "DEBUG"
  | .warning => "WARNING"
  | .error => "ERROR"

structure LogRecord where
  level : LogLevel
  source : String
  message : String
  deriving DecidableEq, Repr

structure Session where
  policy : Policy
  store : Store := {}
  context : Session.Context := []
  frames : Nat := 0
  diagnostics : List Diagnostic := []
  /-- Anonymous compounds with the typedef that names them. -/
  typedefNamed : List (String × String) := []
  /-- Declarations dropped with a diagnostic. -/
  dropped : List String := []
  log : List LogRecord := []
  deriving Repr

namespace Session

inductive Error where
  | duplicate (error : DuplicateKey)
  | context (error : ContextError)
  | selection (error : SelectionError)
  | literal (error : Number.Overlong)
  | tooDeep
  deriving Repr

def Error.message : Error → String
  | .duplicate error => error.message
  | .context error => error.message
  | .selection error => error.message
  | .literal error => error.message
  | .tooDeep => "declarations nested too deeply"

/-- A step reads the header's declarations and changes the session. -/
abbrev Step := ReaderT Forest (ExceptT Error (StateM Session))

def Step.run (step : Step α) (forest : Forest) (session : Session) :
    Except Error α × Session :=
  (step forest) session

def cursor (number : Nat) : Step Cursor := do return (← read).cursor number

def getPolicy : Step Policy := do return (← get).policy

def getStore : Step Store := do return (← get).store

def record (level : LogLevel) (source message : String) : Step Unit :=
  modify fun s => { s with log := s.log ++ [⟨level, "ffi_gen." ++ source, message⟩] }

def debug (source message : String) : Step Unit := record .debug source message

def diagnose (name usr : String) (reason : Reason) (message : String) : Step Unit := do
  let diagnostic : Diagnostic := ⟨name, usr, reason, message⟩
  modify fun s => { s with diagnostics := s.diagnostics ++ [diagnostic] }
  record .warning "diagnostics" ("Skipped " ++ diagnostic.text)

def publish (declaration : Declaration) : Step Unit := do
  match (← getStore).insert declaration.usr declaration with
  | .ok store => modify fun s => { s with store }
  | .error error => throw (.duplicate error)

def amend (usr : String) (change : Body → Body) : Step Unit :=
  modify fun s =>
    { s with store := s.store.modify usr fun d => { d with body := change d.body } }

def drop (usr : String) : Step Unit :=
  modify fun s =>
    if s.dropped.contains usr then s else { s with dropped := s.dropped ++ [usr] }

def isDropped (usr : String) : Step Bool := do return (← get).dropped.contains usr

def lookup? (usr : String) : Step (Option Declaration) := do return (← getStore).lookup? usr

/-- A declaration that is published already and has the given kind. -/
def published? (usr : String) (ok : Declaration → Bool) : Step (Option Declaration) := do
  return (← lookup? usr).filter ok

/-- What a selection answers for a name. -/
def selected (result : Except SelectionError α) : Step α :=
  match result with
  | .ok answer => return answer
  | .error error => throw (.selection error)

/-- Comments are bound only if the policy asks for them. -/
def docOf (c : Cursor) : Step String := do
  return if (← getPolicy).comments then c.doc else ""

def popFrame (number : Nat) (name : String) : Step Unit := do
  match (← get).context.pop number name with
  | .ok (_, context) => modify fun s => { s with context }
  | .error error => throw (.context error)

def pushFrame (name : String) : Step Nat := do
  let number := (← get).frames
  modify fun s =>
    { s with frames := number + 1, context := s.context.push { number, name } }
  return number

/-- Runs a step inside a frame of its own, which is popped also when the step fails. -/
def withFrame (name : String) (body : Nat → Step α) : Step α := do
  let number ← pushFrame name
  let result ← tryCatch (Except.ok <$> body number) (fun error => return .error error)
  popFrame number name
  match result with
  | .ok value => return value
  | .error error => throw error

def changeFrame (number : Nat) (change : Frame → Frame) : Step Unit :=
  modify fun s => { s with context := s.context.modify number change }

/-- Notes a declaration in the frame of the visit that led to it. -/
def note (number : Nat) (usr : String) : Step Unit :=
  changeFrame number fun f => { f with declarations := f.declarations ++ [usr] }

def frame (number : Nat) : Step Frame := do
  return ((← get).context.find? (·.number == number)).getD { number, name := "" }

def noted (number : Nat) : Step (List String) := do return (← frame number).declarations

def typedefName (usr : String) : Step String := do
  return (((← get).typedefNamed.find? (·.1 == usr)).map (·.2)).getD ""

/-- The first typedef of an anonymous compound names it. -/
def nameByTypedef (usr name : String) : Step Unit :=
  modify fun s =>
    if s.typedefNamed.any (·.1 == usr) then s
    else { s with typedefNamed := s.typedefNamed ++ [(usr, name)] }

end Session

end LuaBinder
