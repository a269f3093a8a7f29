import LuaBinder.Session.Run

namespace LuaBinder.Session

open Header

/-! What several steps end with, and the stages of adding a function: its types are resolved,
it is refused or not, and it is bound once for each signature. -/

/-- Gives a published typedef the type that it stands for. -/
def completeTypedef (declare : Declare) (usr : String) (native : NativeType) : Step Unit := do
  let type ← resolve declare native
  amend usr fun _ => .typedef (some type)

/-- Gives a published record its members, or takes its layout from it. -/
def layRecord (declare : Declare) (selection : Selection) (record usr : String)
    (fields : List Nat) (logged : String → String) : Step Unit := do
  match ← buildMembers declare selection record 0 fields with
  | .ok members => amend usr (setMembers members)
  | .error problem =>
      debug "struct" (logged problem)
      makeOpaque ((← getStore).size + 1) usr problem

/-- A parameter whose type is resolved, in front of the others. -/
def collectParameter (selection : Selection) (owner spelling : String) (index : Nat)
    (type : CType) (collect : Step (List Parameter)) : Step (List Parameter) := do
  let name ← parameterName selection owner index spelling
  let others ← collect
  return { name, type, nativeName := spelling } :: others

/-- Tells why a declaration is not bound, and drops it. -/
def refuse (source logged name usr : String) (reason : Reason) (message : String) :
    Step (List String) := do
  debug source logged
  diagnose name usr reason message
  drop usr
  return []

/-- What is resolved before a function is bound or refused. -/
def resolveSignature (c : Cursor) (frameNumber : Nat) : Step (CType × List Parameter) := do
  debug "func" ("++++ Adding Function: " ++ c.describe)
  let result ← resolve declare c.result
  return (result, ← functionParameters frameNumber c.spelling 0 c.arguments)

/-- A function is bound or refused for the types that were resolved. -/
def decideFunction (c : Cursor) (signatures : List CallSignature) (ignored : Bool)
    (frameNumber : Nat) (result : CType) (params : List Parameter) : Step (List String) := do
  match functionRefusal? c (← getStore) result (← frame frameNumber) with
  | some refusal =>
      debug "func" ("---- Removed Function, reason: " ++ refusal.logged ++ ": " ++ c.describe)
      diagnose c.spelling c.usr refusal.reason refusal.message
      drop c.usr
      return []
  | none =>
      if ignored then
        diagnose c.spelling c.usr .variadicMismatch
          "variadic-argument config given for a function that is not variadic"
      let doc ← docOf c
      let policy ← getPolicy
      let name ← selected (policy.functions.rename c.spelling)
      let exposure ← selected (exposure policy c.spelling)
      publishFunctions frameNumber <|
        signatures.map (bindFunction policy.native exposure c name doc result params)
      noted frameNumber

theorem addFunction_eq (c : Cursor) (signatures : List CallSignature) (ignored : Bool)
    (frameNumber : Nat) :
    addFunction c signatures ignored frameNumber =
      resolveSignature c frameNumber >>= fun typed =>
        decideFunction c signatures ignored frameNumber typed.1 typed.2 := by
  simp only [addFunction, resolveSignature, bind_assoc, pure_bind]
  rfl

/-- Binds a function that is not refused. -/
def bindFunctions (c : Cursor) (signatures : List CallSignature) (frameNumber : Nat)
    (result : CType) (params : List Parameter) : Step (List String) := do
  let doc ← docOf c
  let policy ← getPolicy
  let name ← selected (policy.functions.rename c.spelling)
  let exposure ← selected (exposure policy c.spelling)
  publishFunctions frameNumber <|
    signatures.map (bindFunction policy.native exposure c name doc result params)
  noted frameNumber

end LuaBinder.Session
