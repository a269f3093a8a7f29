import LuaBinder.Session.State

namespace LuaBinder.Session

open Header Text

/-! Native types as bound types. A type without a safe binding becomes an unsupported
type, and whoever uses it decides what that means. -/

/-- The sorts of declarations that types lead to. -/
inductive Form where
  | typedef
  | record
  | enumeration
  | interface
  deriving DecidableEq, Repr

/-- Publishes what a type refers to, unless it is published already, and gives its
USR. -/
abbrev Declare := Form → Nat → Step String

def unsupported (spelling reason : String) : Step CType := do
  debug "types" ("Unimplemented type " ++ quoted spelling ++ ": " ++ reason)
  return .unsupported (reason ++ ": " ++ spelling)

def formOf? : CursorKind → Option Form
  | .struct | .union => some .record
  | .enumeration => some .enumeration
  | .interface => some .interface
  | _ => none

def resolveCompound (declare : Declare) (facts : TypeFacts TypeKind) : Step CType := do
  match facts.declaration with
  | none => unsupported facts.spelling "compound type without declaration"
  | some number =>
      let kind := (← cursor number).kind
      match formOf? kind with
      | some form => return .compound (← declare form number)
      | none => unsupported facts.spelling ("unsupported compound " ++ kind.name)

/-- A typedef of the system headers stands for a primitive type. -/
def resolveTypedef (declare : Declare) (number : Nat) : Step CType := do
  match Primitive.wellKnown? (← cursor number).spelling with
  | some primitive => return .primitive primitive
  | none => return .typedef (← declare .typedef number)

/-- Only a pointer to a class is a pointer; any other object is an `id`. -/
def resolveObject (declare : Declare) : NativeType → Step CType
  | .known facts _ _ _ _ _ _ => do
      if facts.kind == .interface then
        return .pointer (← resolveCompound declare facts) false
      else return .primitive .objcId
  | .absent => return .primitive .objcId

/-- Parameters are passed by value, so each needs a layout. -/
def isUsableSignature (store : Store) (params : List (String × CType)) (result : CType) :
    Bool :=
  (params.all fun p => !store.isUnsupported p.2 && !store.isIncomplete p.2) &&
    !store.isUnsupported result

def finishFunction (facts : TypeFacts TypeKind) (params : List (String × CType))
    (result : CType) : Step CType := do
  if isUsableSignature (← getStore) params result then
    return .function result (.ofList params) false
  else unsupported facts.spelling "function type with unsupported signature"

mutual

def resolve (declare : Declare) : NativeType → Step CType
  | .absent => unsupported "" ("unsupported type kind " ++ TypeKind.other.name)
  | .known facts pointee element named result canonical arguments =>
      match facts.kind.primitive?, facts.kind.unsupported? with
      | some primitive, _ => return .primitive primitive
      | none, some reason => unsupported facts.spelling reason
      | none, none =>
          match facts.kind with
          | .pointer => do return .pointer (← resolve declare pointee) pointee.isConst
          | .objectPointer => resolveObject declare pointee
          | .constantArray => do return .array (← resolve declare element) (some facts.count)
          | .incompleteArray => do return .array (← resolve declare element) none
          | .elaborated => resolve declare named
          | .typedef =>
              match facts.declaration with
              | some number => resolveTypedef declare number
              | none =>
                  -- its own canonical type, which leads nowhere
                  if canonical.facts?.isNone then throw .tooDeep
                  else resolve declare canonical
          | .record => resolveCompound declare facts
          | .enumeration => resolveCompound declare facts
          | .interface => resolveCompound declare facts
          | .functionNoPrototype => do
              return .function (← resolve declare result) .nil false
          | .functionPrototype =>
              if facts.variadic then unsupported facts.spelling "variadic function type"
              else do
                let params ← resolveAll declare 0 arguments
                finishFunction facts params (← resolve declare result)
          | .unexposed =>
              if NativeType.kind canonical == .unexposed || canonical.facts?.isNone then
                unsupported facts.spelling "unexposed type"
              else resolve declare canonical
          | kind => unsupported facts.spelling ("unsupported type kind " ++ kind.name)

/-- Parameters of a function type are numbered. -/
def resolveAll (declare : Declare) : Nat → TypeTrees TypeKind → Step (List (String × CType))
  | _, .nil => return []
  | index, .cons first rest => do
      let type ← resolve declare first
      return ("arg" ++ toString index, type) :: (← resolveAll declare (index + 1) rest)

end

end LuaBinder.Session
