import LuaBinder.Session.Resolve

namespace LuaBinder.Session

open Header Text

/-! Building declarations. A declaration is published before what it is made of is
resolved, so that whatever leads back to it finds it. -/

/-- The anonymous compound that a typedef names, if its type is one. -/
def anonymousTag? (forest : Forest) : NativeType → Option Nat
  | .absent => none
  | .known facts _ _ named _ _ _ =>
      match facts.kind with
      | .elaborated => anonymousTag? forest named
      | .record | .enumeration =>
          facts.declaration.filter fun number => (forest.cursor number).anonymous
      | _ => none

def nameOf (c : Cursor) : Step String := do
  if c.anonymous then typedefName c.usr else return c.spelling

/-- A compound without a name yet is not renamed. -/
def renameUnlessEmpty (selection : Selection) (name : String) : Step String :=
  if name == "" then return "" else selected (selection.rename name)

/-! Typedefs. -/

def buildTypedef (declare : Declare) (number : Nat) : Step Unit := do
  let c ← cursor number
  let name ← selected ((← getPolicy).typedefs.rename c.spelling)
  publish
    { usr := c.usr, nativeName := c.spelling, name, doc := ← docOf c
      body := .typedef none }
  debug "typedef" ("++++ Adding Typedef: " ++ c.describe)
  let forest ← read
  match anonymousTag? forest c.underlying with
  | some tag => nameByTypedef (forest.cursor tag).usr c.spelling
  | none => pure ()
  let type ← resolve declare c.underlying
  amend c.usr fun _ => .typedef (some type)

/-! Structs and unions. -/

def recordSelection (policy : Policy) (kind : CursorKind) : Selection :=
  if kind == .union then policy.unions else policy.structs

def recordKind (kind : CursorKind) : RecordKind := if kind == .union then .union else .struct

/-- A complete record that holds the given compound by value, with the member that
does. -/
def heldMember? (store : Store) (usr : String) (d : Declaration) : Option Member :=
  match d.body with
  | .record _ false members => members.find? fun m => store.held? m.type == some usr
  | _ => none

def incompleteMember (name : String) : String :=
  "member " ++ quoted name ++ " is an incomplete struct by value"

def clearRecord : Body → Body
  | .record kind _ _ => .record kind true []
  | body => body

/-- Takes the layout from a record, and then from every complete record that holds it
by value. -/
def makeOpaque : Nat → String → String → Step Unit
  | 0, _, _ => throw .tooDeep
  | fuel + 1, usr, problem => do
      amend usr clearRecord
      let name := ((← lookup? usr).map (·.nativeName)).getD ""
      diagnose (if name == "" then usr else name) usr .unsupportedMember
        (problem ++ "; generated as opaque")
      (← getStore).keys.forM fun holder => do
        match ← lookup? holder with
        | none => return ()
        | some d =>
            match heldMember? (← getStore) usr d with
            | none => return ()
            | some m =>
                debug "struct" ("---- Removed " ++ d.kind.name ++
                  " members, reason: member " ++ quoted m.name ++ " became opaque")
                makeOpaque fuel holder (incompleteMember m.name)

def isFlexibleArray : CType → Bool
  | .array _ none => true
  | _ => false

/-- Why a record with such a member has no layout. -/
def memberProblem? (store : Store) (name : String) (type : CType) : Option String :=
  if store.isUnsupported type then
    some ("member " ++ quoted name ++ " has unsupported type")
  else if store.isIncomplete type then some (incompleteMember name)
  else if isFlexibleArray type then some ("flexible array member " ++ quoted name)
  else none

def buildMember (selection : Selection) (record : String) (index : Nat) (c : Cursor)
    (type : CType) : Step Member := do
  if c.spelling != "" && !c.anonymous then
    let name ← selected (selection.renameMember record c.spelling)
    return { name, type, nativeName := c.spelling, doc := ← docOf c }
  else return { name := "anonymous" ++ toString index, type, doc := ← docOf c }

/-- The members in order, or the first reason why there is no layout. -/
def buildMembers (declare : Declare) (selection : Selection) (record : String) :
    Nat → List Nat → Step (Except String (List Member))
  | _, [] => return .ok []
  | index, number :: rest => do
      let c ← cursor number
      if c.bitfield then return .error ("bit-field member " ++ quoted c.spelling)
      let type ← resolve declare c.type
      match memberProblem? (← getStore) c.spelling type with
      | some problem => return .error problem
      | none =>
          let member ← buildMember selection record index c type
          match ← buildMembers declare selection record (index + 1) rest with
          | .ok members => return .ok (member :: members)
          | .error problem => return .error problem

def childrenOf (number : Nat) (kind : CursorKind) : Step (List Nat) := do
  let forest ← read
  return (forest.cursor number).children.filter fun child =>
    (forest.cursor child).kind == kind

def setMembers (members : List Member) : Body → Body
  | .record kind incomplete _ => .record kind incomplete members
  | body => body

def buildRecord (declare : Declare) (number : Nat) : Step Unit := do
  let c ← cursor number
  let definition := if c.definition.isNone && c.isDefinition then some number else c.definition
  let nativeName ← nameOf c
  let name ← renameUnlessEmpty (recordSelection (← getPolicy) c.kind) nativeName
  let documented ← cursor (definition.getD number)
  let kind := recordKind c.kind
  let word := kind.declarationKind.name
  publish
    { usr := c.usr, nativeName, name, doc := ← docOf documented
      body := .record kind definition.isNone [] }
  match definition with
  | none => debug "struct" ("++++ Adding opaque " ++ word ++ ": " ++ c.describe)
  | some defined =>
      debug "struct" ("++++ Adding " ++ word ++ ": " ++ c.describe)
      let selection := recordSelection (← getPolicy) (← cursor defined).kind
      let fields ← childrenOf defined .field
      match ← buildMembers declare selection nativeName 0 fields with
      | .ok members => amend c.usr (setMembers members)
      | .error problem =>
          debug "struct" ("---- Removed " ++ word ++ " members, reason: " ++ problem ++
            ": " ++ c.describe)
          makeOpaque ((← getStore).size + 1) c.usr problem

/-! Enumerations. -/

def addConstant (constant : EnumConstant) : Body → Body
  | .enumeration incomplete constants => .enumeration incomplete (constants ++ [constant])
  | body => body

def buildConstant (selection : Selection) (usr enumeration : String) (number : Nat) :
    Step Unit := do
  let c ← cursor number
  let name ← selected (selection.renameMember enumeration c.spelling)
  let doc ← docOf c
  amend usr (addConstant { nativeName := c.spelling, name, value := c.value, doc })

def buildEnumeration (number : Nat) : Step Unit := do
  let c ← cursor number
  let selection := (← getPolicy).enums
  let defined := c.definition.getD number
  let definition ← cursor defined
  let nativeName ← nameOf c
  let name ← renameUnlessEmpty selection nativeName
  publish
    { usr := c.usr, nativeName, name, doc := ← docOf definition
      body := .enumeration (!definition.isDefinition) [] }
  debug "enum" ("++++ Adding Enum: " ++ c.describe)
  (← childrenOf defined .enumConstant).forM (buildConstant selection c.usr nativeName)

/-! Functions and methods share their parameters. -/

/-- Resolves a parameter and notes in the frame if it has no layout or no binding. -/
def resolveParameter (declare : Declare) (frameNumber : Nat) (c : Cursor) : Step CType := do
  let type ← resolve declare c.type
  let store ← getStore
  if store.isIncomplete type then
    changeFrame frameNumber fun f => { f with incompleteParameter := true }
  else if store.isUnsupported type then
    changeFrame frameNumber fun f => { f with unsupportedParameter := true }
  return type

/-- A parameter without a name is numbered. -/
def parameterName (selection : Selection) (owner : String) (index : Nat)
    (spelling : String) : Step String := do
  let name ←
    if spelling == "" then pure "" else selected (selection.renameMember owner spelling)
  return if name == "" then "arg" ++ toString index else name

/-! Interfaces. -/

def methodParameters (declare : Declare) (frameNumber : Nat) (owner : String) :
    Nat → List Nat → Step (List Parameter)
  | _, [] => return []
  | index, number :: rest => do
      let c ← cursor number
      let type ← resolveParameter declare frameNumber c
      let name ← parameterName (← getPolicy).interfaces owner index c.spelling
      let others ← methodParameters declare frameNumber owner (index + 1) rest
      return { name, type, nativeName := c.spelling } :: others

/-- A selector as a name: colons become underscores, those at the end go. -/
def methodName (selector : String) : String :=
  let spread := selector.toList.map fun c => if c == ':' then '_' else c
  String.ofList (dropLast (· == '_') spread)

def buildMethod (declare : Declare) (owner : String) (number : Nat) :
    Step (Option Method) := do
  let c ← cursor number
  let title := owner ++ "." ++ c.spelling
  withFrame title fun frameNumber => do
    let result ← resolve declare c.result
    let params ← methodParameters declare frameNumber owner 0 c.arguments
    let found ← frame frameNumber
    let store ← getStore
    if store.isIncomplete result || found.incompleteParameter then
      diagnose title c.usr .incompleteByValue
        "incomplete struct pass/return by value not supported"
      return none
    if store.isUnsupported result || found.unsupportedParameter then
      diagnose title c.usr .unimplementedType
        "method has unsupported return type or parameter type"
      return none
    let name ← selected ((← getPolicy).interfaces.renameMember owner (methodName c.spelling))
    return some
      { selector := c.spelling, name, result, params
        ofClass := c.kind == .classMethod, doc := ← docOf c }

def setSuperclass (superclass : String) : Body → Body
  | .interface incomplete _ methods => .interface incomplete (some superclass) methods
  | body => body

def addMethod (method : Method) : Body → Body
  | .interface incomplete superclass methods =>
      .interface incomplete superclass (methods ++ [method])
  | body => body

def buildInterfacePart (declare : Declare) (usr owner : String) (child : Nat) :
    Step Unit := do
  let c ← cursor child
  match c.kind, c.referenced with
  | .superclass, some superclass => do
      let parent ← declare .interface superclass
      amend usr (setSuperclass parent)
  | .superclass, none => return ()
  | kind, _ =>
      if kind.isMethod then
        match ← buildMethod declare owner child with
        | some method => amend usr (addMethod method)
        | none => return ()

def buildInterface (declare : Declare) (number : Nat) : Step Unit := do
  let c ← cursor number
  let name ← selected ((← getPolicy).interfaces.rename c.spelling)
  let documented ← cursor (c.definition.getD number)
  publish
    { usr := c.usr, nativeName := c.spelling, name, doc := ← docOf documented
      body := .interface c.definition.isNone none [] }
  match c.definition with
  | none => debug "objc" ("++++ Adding opaque ObjC interface: " ++ c.describe)
  | some defined =>
      debug "objc" ("++++ Adding ObjC interface: " ++ c.describe)
      (← cursor defined).children.forM (buildInterfacePart declare c.usr c.spelling)

/-! All together. -/

def build (declare : Declare) (form : Form) (number : Nat) : Step Unit :=
  match form with
  | .typedef => buildTypedef declare number
  | .record => buildRecord declare number
  | .enumeration => buildEnumeration number
  | .interface => buildInterface declare number

/-- Each nested build publishes a USR of its own, so no more builds are ever nested
than there are declarations and numbers that stand for none. -/
def declareWithin : Nat → Declare
  | 0, _, _ => throw .tooDeep
  | fuel + 1, form, number => do
      let c ← cursor number
      if (← getStore).contains c.usr then return c.usr
      withFrame c.spelling fun _ => build (declareWithin fuel) form number
      return c.usr

def declare : Declare := fun form number => do
  declareWithin ((← read).size + 2) form number

/-- The bound form of a native type. -/
def resolveType (type : NativeType) : Step CType := resolve declare type

end LuaBinder.Session
