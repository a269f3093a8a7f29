import LuaBinder.CommandLine.Arguments
import LuaBinder.Generation
import LuaBinder.Policy.Preset
import LuaBinder.Policy.Reader

namespace LuaBinder.CommandLine

/-! A run of the program: the policy from its file, its preset and the arguments, and
then the generation. -/

inductive Fault where
  | policy (error : PresetError)
  | generation (fault : Generation.Fault)
  deriving Repr

def Fault.message : Fault → String
  | .policy error => error.message
  | .generation fault => fault.message

/-- Faults in what the program is given are reported; any other breaks off the run. -/
def Fault.isReported : Fault → Bool
  | .policy (.policy (.fault _)) => true
  | .generation (.header _) => true
  | .generation (.session (.duplicate _)) => true
  | .generation (.session (.context _)) => true
  | _ => false

/-- An argument that is not empty. -/
def given (value : Option OptionValue) : Option String := value.bind OptionValue.given?

def baseConfiguration (files : FileTree) (arguments : Arguments) :
    Except PresetError Policy :=
  match given arguments.config with
  | some path => (Policy.ofFile path (files.read path)).mapError .policy
  | none => .ok {}

def withPreset (arguments : Arguments) (policy : Policy) : Except PresetError Policy := do
  match given arguments.preset with
  | some name => (← Preset.find name).configure [] policy
  | none => return policy

/-- What the arguments say wins; compiler options are added to those that are there. -/
def override (arguments : Arguments) (policy : Policy) : Policy :=
  { policy with
    entryPoints :=
      if arguments.headers.isEmpty then policy.entryPoints else arguments.headers
    moduleName := (given arguments.moduleName).getD policy.moduleName
    output := (given arguments.output).getD policy.output
    compilerOptions :=
      policy.compilerOptions ++ arguments.directories.map ("-I" ++ ·.shown) ++
        arguments.defines.map ("-D" ++ ·.shown) }

def configuration (files : FileTree) (arguments : Arguments) :
    Except PresetError Policy := do
  return override arguments (← withPreset arguments (← baseConfiguration files arguments))

/-- How a run ended: with a status, or broken off. -/
structure Outcome where
  result : Except Fault Nat
  printed : List String := []
  complaints : List String := []
  files : FileTree
  policy : Option Policy := none
  log : List LogRecord := []
  deriving Repr

def complaint (message : String) : String := "error: " ++ message

def Outcome.failed (files : FileTree) (printed : List String) (policy : Option Policy)
    (fault : Fault) : Outcome :=
  if fault.isReported then
    { result := .ok 1, printed, complaints := [complaint fault.message], files, policy }
  else { result := .error fault, printed, files, policy }

/-- With `--strict` every diagnostic counts as a failure. -/
def strictComplaints (arguments : Arguments) (bound : Generation.Bound) : List String :=
  let count := bound.session.diagnostics.length
  if arguments.strict && count != 0 then
    [complaint (toString count ++ " diagnostics in strict mode")]
  else []

def run (frontEnd : Generation.FrontEnd) (files : FileTree) (arguments : Arguments) :
    Outcome :=
  match configuration files arguments with
  | .error error => Outcome.failed files [] none (.policy error)
  | .ok policy =>
      match (Generation.generate frontEnd policy).run { files } with
      | (.error fault, space) =>
          Outcome.failed space.files space.printed (some policy) (.generation fault)
      | (.ok bound, space) =>
          let complaints := strictComplaints arguments bound
          { result := .ok (if complaints.isEmpty then 0 else 1)
            printed := space.printed, complaints, files := space.files
            policy := some policy, log := bound.log }

end LuaBinder.CommandLine
