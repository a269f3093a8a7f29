import LuaBinder.Session.Build

namespace LuaBinder.Session

open Header Text

/-! Visits of top-level declarations. A visit gives the USRs of the bindings that the
declaration leads to, and the same ones when it is repeated. -/

def isFunction (d : Declaration) : Bool := d.kind == .function

/-- Why a function is not bound: the reason, what the log says, and the message. -/
structure Refusal where
  reason : Reason
  logged : String
  message : String

/-! Functions. -/

def functionParameters (frameNumber : Nat) (owner : String) :
    Nat → List Nat → Step (List Parameter)
  | _, [] => return []
  | index, number :: rest => do
      let c ← cursor number
      debug "func" ("===== parameter: " ++ c.describe)
      let type ← resolveParameter declare frameNumber c
      let store ← getStore
      if !store.isIncomplete type && store.isUnsupported type then
        debug "func" ("Unimplemented type: " ++ store.shownType (store.base type))
      let name ← parameterName (← getPolicy).functions owner index c.spelling
      let others ← functionParameters frameNumber owner (index + 1) rest
      return { name, type, nativeName := c.spelling } :: others

def functionRefusal? (c : Cursor) (store : Store) (result : CType) (f : Frame) :
    Option Refusal :=
  if c.inlined && c.storage != .external then
    some ⟨.inlineFunction, "inline function", "inline functions are not supported"⟩
  else if store.isIncomplete result || f.incompleteParameter then
    some ⟨.incompleteByValue, "incomplete struct pass/return by value",
      "incomplete struct pass/return by value not supported"⟩
  else if store.isUnsupported result || f.unsupportedParameter then
    some ⟨.unimplementedType, "unsupported return or parameter type",
      "function has unsupported return type or parameter type"⟩
  else none

def extraParameters (signature : CallSignature) : List Parameter :=
  signature.types.zipIdx.map fun entry =>
    { name := "va" ++ toString entry.2, type := entry.1 }

/-- What a policy says of a function besides its name. -/
structure Exposure where
  address : Bool
  type : Bool
  leaf : Bool

def exposure (policy : Policy) (name : String) : Except SelectionError Exposure := do
  let address ← policy.functions.exposesAddress name
  let type ← policy.functionTypes.includesName name
  return ⟨address, type, ← policy.leafFunctions.includesName name⟩

def bindFunction (native : Native) (exposure : Exposure) (c : Cursor) (name doc : String)
    (result : CType) (params : List Parameter) (signature : CallSignature) : Declaration :=
  { usr := c.usr ++ signature.suffix, nativeName := c.spelling
    name := name ++ signature.suffix, doc
    body := .function
      { result, params, extra := extraParameters signature, suffix := signature.suffix
        variadic := c.type.isVariadic
        exposesAddress := exposure.address
        exposesType := exposure.type
        leaf := exposure.leaf
        native } }

/-- One binding for each signature; signatures of one suffix share theirs. -/
def publishFunctions (frameNumber : Nat) : List Declaration → Step Unit
  | [] => return ()
  | d :: rest => do
      if !(← getStore).contains d.usr then publish d
      note frameNumber d.usr
      publishFunctions frameNumber rest

/-- The USRs of the signatures' bindings. -/
def signatureUsrs (c : Cursor) (signatures : List CallSignature) : List String :=
  signatures.map fun signature => c.usr ++ signature.suffix

def isFunctionAt (store : Store) (usr : String) : Bool :=
  ((store.lookup? usr).map isFunction).getD false

def addFunction (c : Cursor) (signatures : List CallSignature) (ignored : Bool)
    (frameNumber : Nat) : Step (List String) := do
  debug "func" ("++++ Adding Function: " ++ c.describe)
  let result ← resolve declare c.result
  let params ← functionParameters frameNumber c.spelling 0 c.arguments
  match functionRefusal? c (← getStore) result (← frame frameNumber) with
  | some refusal =>
      debug "func" ("---- Removed Function, reason: " ++ refusal.logged ++ ": " ++ c.describe)
      diagnose c.spelling c.usr refusal.reason refusal.message
      drop c.usr
      return []
  | none =>
      if ignored then
        diagnose c.spelling c.usr .variadicMismatch
          "variadic-argument config given for a function that is not variadic"
      let doc ← docOf c
      let policy ← getPolicy
      let name ← selected (policy.functions.rename c.spelling)
      let exposure ← selected (exposure policy c.spelling)
      publishFunctions frameNumber <|
        signatures.map (bindFunction policy.native exposure c name doc result params)
      noted frameNumber

def visitFunction (number : Nat) : Step (List String) := do
  let c ← cursor number
  let policy ← getPolicy
  let (signatures, ignored) := policy.signatures.specialize c.spelling c.type.isVariadic
  withFrame c.spelling fun frameNumber => do
    let store ← getStore
    let usrs := signatureUsrs c signatures
    if !(← selected (policy.functions.includes c.usr c.spelling)) then
      return usrs.filter (isFunctionAt store)
    if usrs.all (isFunctionAt store) then return usrs
    if ← isDropped c.usr then return []
    addFunction c signatures ignored frameNumber

/-! Compounds. -/

def visitRecord (number : Nat) : Step (List String) := do
  let c ← cursor number
  withFrame c.spelling fun _ => do
    if (← published? c.usr Declaration.isCompound).isSome then return [c.usr]
    -- reached through the typedef or the field that names it
    if c.anonymous then return []
    if ← selected ((recordSelection (← getPolicy) c.kind).includes c.usr c.spelling) then
      buildRecord declare number
      return [c.usr]
    return []

/-- The constants of an unnamed enumeration are bound one by one. -/
def visitConstants : List Nat → Step (List String)
  | [] => return []
  | number :: rest => do
      let c ← cursor number
      let selection := (← getPolicy).unnamedEnums
      if (← published? c.usr (·.kind == .constant)).isSome then
        return c.usr :: (← visitConstants rest)
      if !(← selected (selection.includes c.usr c.spelling)) then
        return ← visitConstants rest
      let name ← selected (selection.rename c.spelling)
      publish
        { usr := c.usr, nativeName := c.spelling, name, doc := ← docOf c
          body := .constant "int" (.int c.value) }
      debug "enum" ("++++ Adding Constant from unnamed enum: " ++ c.describe)
      return c.usr :: (← visitConstants rest)

def visitEnumeration (number : Nat) : Step (List String) := do
  let c ← cursor number
  withFrame c.spelling fun _ => do
    if c.anonymous then
      -- a typedef's enumeration is bound under the name of the typedef
      if (← get).typedefNamed.any (·.1 == c.usr) then return []
      return ← visitConstants (← childrenOf number .enumConstant)
    if (← published? c.usr (·.kind == .enumeration)).isSome then return [c.usr]
    if ← selected ((← getPolicy).enums.includes c.usr c.spelling) then
      buildEnumeration number
      return [c.usr]
    return []

def visitInterface (number : Nat) : Step (List String) := do
  let c ← cursor number
  withFrame c.spelling fun _ => do
    if (← published? c.usr (·.kind == .interface)).isSome then return [c.usr]
    if ← selected ((← getPolicy).interfaces.includes c.usr c.spelling) then
      buildInterface declare number
      return [c.usr]
    return []

/-! Typedefs, globals and macro constants. -/

def addTypedef (number : Nat) (c : Cursor) : Step (List String) := do
  buildTypedef declare number
  let store ← getStore
  if ((store.underlying? c.usr).map store.isUnsupported).getD false then
    debug "typedef" ("---- Removed Typedef, reason: unsupported type: " ++ c.describe)
    diagnose c.spelling c.usr .unimplementedType "typedef of an unsupported type"
    return []
  return [c.usr]

def visitTypedef (number : Nat) : Step (List String) := do
  let c ← cursor number
  withFrame c.spelling fun _ => do
    if (← published? c.usr Declaration.isTypedef).isSome then return [c.usr]
    if (Primitive.wellKnown? c.spelling).isSome then
      debug "typedef" ("Typedef " ++ c.spelling ++ " maps to a primitive type")
      return []
    if ← selected ((← getPolicy).typedefs.includes c.usr c.spelling) then
      return ← addTypedef number c
    return []

def globalRefusal? (store : Store) (type : CType) : Option Refusal :=
  if store.isUnsupported type then
    some ⟨.unimplementedType, "unsupported type", "global variable has unsupported type"⟩
  else if store.isIncomplete type then
    some ⟨.incompleteByValue, "incomplete struct", "global variable of incomplete struct type"⟩
  else none

def addGlobal (c : Cursor) : Step (List String) := do
  debug "var" ("++++ Adding Global: " ++ c.describe)
  let type ← resolve declare c.type
  match globalRefusal? (← getStore) type with
  | some refusal =>
      debug "var" ("---- Removed Global, reason: " ++ refusal.logged ++ ": " ++ c.describe)
      diagnose c.spelling c.usr refusal.reason refusal.message
      drop c.usr
      return []
  | none =>
      let selection := (← getPolicy).globals
      let name ← selected (selection.rename c.spelling)
      publish
        { usr := c.usr, nativeName := c.spelling, name, doc := ← docOf c
          body := .global type c.type.isConst
            (← selected (selection.exposesAddress c.spelling)) }
      return [c.usr]

/-- A global with internal linkage has no symbol. -/
def visitGlobal (number : Nat) : Step (List String) := do
  let c ← cursor number
  withFrame c.spelling fun _ => do
    if (← published? c.usr (·.kind == .global)).isSome then return [c.usr]
    if c.storage == .static then return []
    if !(← selected ((← getPolicy).globals.includes c.usr c.spelling)) then return []
    if ← isDropped c.usr then return []
    addGlobal c

/-- The tokens of a macro after its name. -/
def macroBody (c : Cursor) : List String :=
  match c.tokens with
  | first :: rest => if first == c.spelling then rest else first :: rest
  | [] => []

def addMacro (c : Cursor) : Step (List String) := do
  let body := macroBody c
  match Literal.ofTokens? body with
  | .error error => throw (.literal error)
  | .ok none =>
      debug "macro" ("Skipped macro " ++ c.spelling ++ ": not a simple constant: " ++
        String.intercalate " " body)
      return []
  | .ok (some literal) =>
      let name ← selected ((← getPolicy).macros.rename c.spelling)
      publish
        { usr := c.usr, nativeName := c.spelling, name, doc := ← docOf c
          body := .constant literal.rawType literal.scalar }
      debug "macro" ("++++ Adding Macro Constant: " ++ c.spelling ++ " = " ++
        literal.scalar.logged)
      return [c.usr]

def visitMacro (number : Nat) : Step (List String) := do
  let c ← cursor number
  withFrame c.spelling fun _ => do
    if (← published? c.usr (·.kind == .constant)).isSome then return [c.usr]
    if c.functionLike then return []
    if !(← selected ((← getPolicy).macros.includes c.usr c.spelling)) then return []
    addMacro c

def visit (number : Nat) : Step (List String) := do
  let c ← cursor number
  match c.kind with
  | .function => visitFunction number
  | .struct | .union => visitRecord number
  | .enumeration => visitEnumeration number
  | .typedef => visitTypedef number
  | .global => visitGlobal number
  | .macroDefinition => visitMacro number
  | .interface => visitInterface number
  | _ =>
      debug "parser" ("Ignored cursor: " ++ c.describe)
      return []

end LuaBinder.Session
