import LuaBinder.LuaModule.Code
import LuaBinder.LuaModule.Fault
import LuaBinder.LuaModule.Order

namespace LuaBinder.LuaModule

/-! The C declarations of a module. -/

def objectivePrelude : List String :=
  ["typedef struct objc_object *id;", "typedef struct objc_selector *SEL;",
    "typedef struct objc_class *Class;"]

def isObjectiveType : CType → Bool
  | .primitive .objcId => true
  | .primitive .objcSelector => true
  | .primitive .objcClass => true
  | _ => false

/-- The types that a declaration is made of. A typedef may still lack its own. -/
def ownTypes (d : Declaration) : Except Fault (List CType) :=
  match d.body with
  | .function f => .ok (f.result :: f.allParams.map (·.type))
  | .record _ _ members => .ok (members.map (·.type))
  | .typedef (some type) => .ok [type]
  | .typedef none => .error .untypedBase
  | .global type _ _ => .ok [type]
  | _ => .ok []

/-- Whether the names of the Objective-C runtime are needed. -/
def usesObjective (store : Store) : List Binding → Except Fault Bool
  | [] => .ok false
  | binding :: rest =>
      if binding.2.kind == .interface then .ok true
      else do
        let types ← ownTypes binding.2
        if types.any fun type => isObjectiveType (store.base type) then return true
        usesObjective store rest

/-- Pointers to these may appear anywhere. -/
def forward (binding : Binding) : List String :=
  let d := binding.2
  match d.body with
  | .record _ _ _ => [d.spelling ++ ";"]
  | .enumeration true _ => [d.spelling ++ ";"]
  | .interface _ _ _ => ["typedef struct objc_object " ++ d.nativeName ++ ";"]
  | _ => []

def braced (d : Declaration) (lines : List String) : Code :=
  Code.block (d.spelling ++ " \x7b") "\x7d;" (Code.ofLines lines)

def conventionKeyword? : Option String → Option String
  | some "stdcall" => some "__stdcall"
  | some "fastcall" => some "__fastcall"
  | _ => none

def prototype (store : Store) (d : Declaration) (f : Function) : String :=
  let name :=
    match conventionKeyword? f.native.convention with
    | some keyword => keyword ++ " " ++ d.nativeName
    | none => d.nativeName
  let params := Params.ofList (f.params.map fun p => (p.name, p.type))
  store.declare (.function f.result params f.variadic) name

/-- The name by which the address of a global is reached. -/
def addressAlias (d : Declaration) : String := d.nativeName ++ "__ffi_address"

def globalLines (store : Store) (d : Declaration) (type : CType)
    (const exposesAddress : Bool) : List String :=
  let name := if const then "const " ++ d.nativeName else d.nativeName
  let own := "extern " ++ store.declare type name ++ ";"
  if exposesAddress then
    let aliased := store.declare (.array type (some 1)) (addressAlias d)
    [own, "extern " ++ aliased ++ " __asm__(" ++ string d.nativeName ++ ");"]
  else [own]

def enumConstant (c : EnumConstant) : Except Fault String := do
  return c.nativeName ++ " = " ++ (← orFault (unlessOverlong (Number.decimal c.value))) ++ ","

/-- The definition of one declaration. The bindings of one native function share its
prototype, so only the first one writes it; `seen` are the functions so far. -/
def definition (store : Store) (seen : List String) (d : Declaration) : Except Fault Code :=
  match d.body with
  | .record _ false members =>
      .ok (braced d (members.map fun m => store.declare m.type m.name ++ ";"))
  | .record _ true _ => .ok []
  | .enumeration incomplete constants =>
      if incomplete || constants.isEmpty then .ok []
      else (constants.mapM enumConstant).map (braced d)
  | .typedef (some type) =>
      .ok (Code.line ("typedef " ++ store.declare type d.nativeName ++ ";"))
  | .typedef none => .error .untypedDeclarator
  | .function f =>
      if seen.contains d.nativeName then .ok []
      else .ok (Code.line (prototype store d f ++ ";"))
  | .global type const exposesAddress =>
      .ok (Code.ofLines (globalLines store d type const exposesAddress))
  | .interface _ _ _ => .ok []
  | .constant _ _ => .ok []

def definitions (store : Store) : List String → List Binding → Except Fault Code
  | _, [] => .ok []
  | seen, binding :: rest => do
      let d := binding.2
      let own ← definition store seen d
      let seen := if d.kind == .function then d.nativeName :: seen else seen
      return own ++ (← definitions store seen rest)

def cdef (store : Store) (bindings : List Binding) : Except Fault Code := do
  let objective ← usesObjective store bindings
  let prelude := if objective then objectivePrelude else []
  let defined ← definitions store [] (dependencyOrder store bindings)
  return Code.ofLines (prelude ++ bindings.flatMap forward) ++ defined

end LuaBinder.LuaModule
