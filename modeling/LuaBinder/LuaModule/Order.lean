import LuaBinder.Declaration.Store
import LuaBinder.LuaModule.Layout

namespace LuaBinder.LuaModule

/-! The order of declarations in C: each after what it needs, otherwise as given. -/

/-- The declarations whose layout a type needs; a typedef is one of them. -/
def byValueWith (unfold : String → List String) : CType → List String
  | .compound key => [key]
  | .typedef key => key :: unfold key
  | .array element _ => byValueWith unfold element
  | _ => []

def byValueWithin (store : Store) : Nat → CType → List String
  | 0, _ => []
  | fuel + 1, type =>
      byValueWith
        (fun key => ((store.underlying? key).map (byValueWithin store fuel)).getD []) type

def byValue (store : Store) (type : CType) : List String :=
  byValueWithin store (store.size + 1) type

/-- Typedefs and enumerations cannot be declared ahead. -/
def needsDefinition (d : Declaration) : Bool :=
  match d.body with
  | .typedef _ => true
  | .enumeration _ _ => true
  | _ => false

def byName (store : Store) (type : CType) : List String :=
  type.mentions.filter fun key => ((store.lookup? key).map needsDefinition).getD false

def dependencies (store : Store) (d : Declaration) : List String :=
  match d.body with
  | .record _ _ members =>
      members.flatMap fun m => byName store m.type ++ byValue store m.type
  | .typedef (some type) => byName store type
  | .function f => byName store f.result ++ f.params.flatMap fun p => byName store p.type
  | .global type _ _ => byName store type ++ byValue store type
  | _ => []

/-- Appends a declaration after those it depends on. `active` holds the declarations
that wait for this one. -/
def visit (store : Store) (bindings : List Binding) :
    (fuel : Nat) → (active : List String) → List Binding → Binding → List Binding
  | 0, _, ordered, _ => ordered
  | fuel + 1, active, ordered, binding =>
      if ordered.any (·.1 == binding.1) || active.contains binding.1 then ordered
      else
        let needed := (dependencies store binding.2).filterMap fun key =>
          bindings.find? (·.1 == key)
        let before := needed.foldl
          (visit store bindings fuel (binding.1 :: active)) ordered
        before ++ [binding]

def dependencyOrder (store : Store) (bindings : List Binding) : List Binding :=
  bindings.foldl (visit store bindings (bindings.length + 1) []) []

end LuaBinder.LuaModule
