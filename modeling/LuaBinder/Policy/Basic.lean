import LuaBinder.Policy.CallSignature
import LuaBinder.Policy.Selection

namespace LuaBinder

/-! The policy of one library: what to bind, under which names, and where the native
symbols come from. -/

/-- Where the native symbols are. Without a library they come from the process. -/
structure Native where
  library : Json := .null
  convention : Option String := none
  deriving Repr

structure Policy where
  moduleName : String := "bindings"
  output : String := "."
  comments : Bool := true
  compilerOptions : List String := []
  entryPoints : List String := []
  includeDirectives : List String := []
  functions : Selection := {}
  structs : Selection := {}
  unions : Selection := {}
  enums : Selection := {}
  unnamedEnums : Selection := {}
  typedefs : Selection := {}
  globals : Selection := {}
  macros : Selection := {}
  interfaces : Selection := {}
  leafFunctions : Selection := .none
  functionTypes : Selection := .none
  signatures : SignatureTable := []
  native : Native := {}
  deriving Repr

/-- What a selection is about. -/
inductive SelectionKind where
  | functions | structs | unions | enums | unnamedEnums | typedefs | globals | macros
  | interfaces | leafFunctions | functionTypes
  deriving DecidableEq, Repr

namespace SelectionKind

def all : List SelectionKind :=
  [functions, structs, unions, enums, unnamedEnums, typedefs, globals, macros, interfaces,
    leafFunctions, functionTypes]

def name : SelectionKind → String
  | functions => "functions" | structs => "structs" | unions => "unions"
  | enums => "enums" | unnamedEnums => "unnamed-enums" | typedefs => "typedefs"
  | globals => "globals" | macros => "macros" | interfaces => "objc-interfaces"
  | leafFunctions => "leaf-functions" | functionTypes => "expose-function-typedefs"

def ofName? (text : String) : Option SelectionKind := all.find? (·.name == text)

/-- The kinds that stand at the top of a policy beside the functions. -/
def plain : List SelectionKind :=
  [structs, unions, enums, unnamedEnums, typedefs, globals, macros, interfaces]

end SelectionKind

namespace Policy

def selection (policy : Policy) : SelectionKind → Selection
  | .functions => policy.functions
  | .structs => policy.structs
  | .unions => policy.unions
  | .enums => policy.enums
  | .unnamedEnums => policy.unnamedEnums
  | .typedefs => policy.typedefs
  | .globals => policy.globals
  | .macros => policy.macros
  | .interfaces => policy.interfaces
  | .leafFunctions => policy.leafFunctions
  | .functionTypes => policy.functionTypes

def withSelection (policy : Policy) (selection : Selection) : SelectionKind → Policy
  | .functions => { policy with functions := selection }
  | .structs => { policy with structs := selection }
  | .unions => { policy with unions := selection }
  | .enums => { policy with enums := selection }
  | .unnamedEnums => { policy with unnamedEnums := selection }
  | .typedefs => { policy with typedefs := selection }
  | .globals => { policy with globals := selection }
  | .macros => { policy with macros := selection }
  | .interfaces => { policy with interfaces := selection }
  | .leafFunctions => { policy with leafFunctions := selection }
  | .functionTypes => { policy with functionTypes := selection }

/-- Adds signatures one after the other; those before an unreadable type stay. -/
def addSignatures (policy : Policy) (function : String) :
    List (String × List String) → Policy × Option TypeTextError
  | [] => ({ policy with signatures := policy.signatures.declare function }, none)
  | (suffix, types) :: rest =>
      let declared := policy.signatures.declare function
      match types.mapM CType.ofText with
      | .error error => ({ policy with signatures := declared }, some error)
      | .ok types =>
          addSignatures { policy with signatures := declared.add function ⟨suffix, types⟩ }
            function rest

end Policy

end LuaBinder
