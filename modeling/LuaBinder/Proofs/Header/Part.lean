import LuaBinder.Proofs.Header.Reference

namespace LuaBinder.Header

/-! The types that a type is built from, and the typedefs that it is another name of. -/

mutual

/-- The type and all types that it is built from, as far as they are given. -/
def TypeTree.parts : TypeTree κ → List (TypeTree κ)
  | .absent => []
  | .known facts pointee element named result canonical arguments =>
      .known facts pointee element named result canonical arguments ::
        (pointee.parts ++ element.parts ++ named.parts ++ result.parts ++ canonical.parts ++
          arguments.parts)

def TypeTrees.parts : TypeTrees κ → List (TypeTree κ)
  | .nil => []
  | .cons first rest => first.parts ++ rest.parts

end

theorem TypeTrees.forall_parts_cons {holds : TypeTree κ → Prop} {first : TypeTree κ}
    {rest : TypeTrees κ} : (∀ part ∈ (cons first rest).parts, holds part) ↔
      (∀ part ∈ first.parts, holds part) ∧ ∀ part ∈ rest.parts, holds part := by
  simp only [parts, List.forall_mem_append]

namespace TypeTree

/-- What holds of all parts of a type holds of the parts of all that it is built from. -/
theorem forall_parts_known {holds : TypeTree κ → Prop} {facts : TypeFacts κ}
    {pointee element named result canonical : TypeTree κ} {arguments : TypeTrees κ} :
    (∀ part ∈ (known facts pointee element named result canonical arguments).parts, holds part) ↔
      holds (known facts pointee element named result canonical arguments) ∧
        (∀ part ∈ pointee.parts, holds part) ∧ (∀ part ∈ element.parts, holds part) ∧
        (∀ part ∈ named.parts, holds part) ∧ (∀ part ∈ result.parts, holds part) ∧
        (∀ part ∈ canonical.parts, holds part) ∧ ∀ part ∈ arguments.parts, holds part := by
  simp only [parts, List.forall_mem_cons, List.forall_mem_append, and_assoc]

variable {type child : TypeTree κ}

/-- The types right below. -/
def children (type : TypeTree κ) : List (TypeTree κ) :=
  [type.pointee, type.element, type.named, type.result, type.canonical] ++ type.arguments

theorem mem_parts_self {number : Nat} (declared : type.declaration? = some number) :
    type ∈ type.parts := by
  cases type with
  | absent => simp [declaration?, facts?] at declared
  | known => simp [parts]

theorem parts_subset_of_mem : (types : TypeTrees κ) → type ∈ types.toList →
    type.parts ⊆ types.parts
  | .nil, listed => by simp [TypeTrees.toList] at listed
  | .cons first rest, listed => by
      rcases List.mem_cons.mp listed with rfl | listed
      · exact List.subset_append_left _ _
      · exact List.subset_append_of_subset_right _ (parts_subset_of_mem rest listed)

theorem parts_subset_of_child (below : child ∈ type.children) : child.parts ⊆ type.parts := by
  intro part member
  cases type with
  | absent =>
      have absent : child = .absent := by
        simpa [children, pointee, element, named, result, canonical, arguments] using below
      simp [absent, parts] at member
  | known facts _ _ _ _ other arguments =>
      simp only [children, List.mem_append, List.mem_cons, List.not_mem_nil, or_false] at below
      rcases below with (rfl | rfl | rfl | rfl | rfl) | listed
      · simp [parts, show part ∈ _ from member]
      · simp [parts, show part ∈ _ from member]
      · simp [parts, show part ∈ _ from member]
      · simp [parts, show part ∈ _ from member]
      · cases other with
        | absent => exact member
        | known =>
            rw [parts]
            simp [show part ∈ (TypeTree.known ..).parts from member]
      · have found := parts_subset_of_mem arguments listed member
        simp [parts, found]

end TypeTree

mutual

theorem TypeTree.kinds_eq : (type : TypeTree κ) →
    type.kinds = type.parts.filterMap fun part => part.facts?.map (·.kind)
  | .absent => rfl
  | .known _ pointee element named result canonical arguments => by
      simp [TypeTree.kinds, TypeTree.parts, TypeTree.facts?, pointee.kinds_eq, element.kinds_eq,
        named.kinds_eq, result.kinds_eq, canonical.kinds_eq, arguments.kinds_eq]

theorem TypeTrees.kinds_eq : (types : TypeTrees κ) →
    types.kinds = types.parts.filterMap fun part => part.facts?.map (·.kind)
  | .nil => rfl
  | .cons first rest => by simp [TypeTrees.kinds, TypeTrees.parts, first.kinds_eq, rest.kinds_eq]

end

namespace NativeType

theorem hasBareFunction_iff {type : NativeType} :
    type.HasBareFunction ↔ ∃ part ∈ type.parts, NativeType.kind part = .functionNoPrototype := by
  rw [HasBareFunction, TypeTree.kinds_eq, List.mem_filterMap]
  refine exists_congr fun part => and_congr_right fun _ => ?_
  cases part with
  | absent => simp [kind, TypeTree.facts?]
  | known => simp [kind, TypeTree.facts?]

theorem hasBareFunction_of_kind {type : NativeType} (kind : type.kind = .functionNoPrototype) :
    type.HasBareFunction := by
  cases type with
  | absent => cases kind
  | known => exact hasBareFunction_known.mpr (.inl kind)

theorem HasBareFunction.of_part {type part : NativeType} (bare : part.HasBareFunction)
    (within : part.parts ⊆ type.parts) : type.HasBareFunction := by
  obtain ⟨inner, listed, kind⟩ := hasBareFunction_iff.mp bare
  exact hasBareFunction_iff.mpr ⟨inner, within listed, kind⟩

/-- A typedef without a declaration that has no other canonical type. -/
def IsOwnTypedef (type : NativeType) : Prop :=
  type.kind = .typedef ∧ type.declaration? = none ∧ type.canonical = type

/-- The typedef below layers that do not name anything. -/
def alias? : NativeType → Option Nat
  | .absent => none
  | .known facts pointee element named _ canonical _ =>
      match facts.kind with
      | .pointer | .objectPointer => alias? pointee
      | .constantArray | .incompleteArray => alias? element
      | .elaborated => alias? named
      | .typedef =>
          match facts.declaration with
          | some number => some number
          | none => alias? canonical
      | .unexposed => alias? canonical
      | _ => none

variable {type : NativeType}

theorem alias?_pointee (kind : type.kind = .pointer ∨ type.kind = .objectPointer) :
    type.alias? = NativeType.alias? type.pointee := by
  cases type with
  | absent => rfl
  | known facts =>
      change facts.kind = _ ∨ facts.kind = _ at kind
      rcases kind with kind | kind <;> simp [alias?, kind, TypeTree.pointee]

theorem alias?_element (kind : type.kind = .constantArray ∨ type.kind = .incompleteArray) :
    type.alias? = NativeType.alias? type.element := by
  cases type with
  | absent => rfl
  | known facts =>
      change facts.kind = _ ∨ facts.kind = _ at kind
      rcases kind with kind | kind <;> simp [alias?, kind, TypeTree.element]

theorem alias?_named (kind : type.kind = .elaborated) :
    type.alias? = NativeType.alias? type.named := by
  cases type with
  | absent => rfl
  | known facts =>
      change facts.kind = _ at kind
      simp [alias?, kind, TypeTree.named]

theorem alias?_canonical
    (kind : type.kind = .unexposed ∨ type.kind = .typedef ∧ type.declaration? = none) :
    type.alias? = NativeType.alias? type.canonical := by
  cases type with
  | absent => rfl
  | known facts _ _ _ _ other =>
      change facts.kind = _ ∨ facts.kind = _ ∧ facts.declaration = none at kind
      cases other with
      | absent => rfl
      | known =>
          rcases kind with kind | ⟨kind, undeclared⟩
          · rw [alias?]
            simp [kind, TypeTree.canonical]
          · rw [alias?]
            simp [kind, undeclared, TypeTree.canonical]

theorem alias?_declared {number : Nat} (kind : type.kind = .typedef)
    (declared : type.declaration? = some number) : type.alias? = some number := by
  cases type with
  | absent => simp [TypeTree.declaration?, TypeTree.facts?] at declared
  | known facts =>
      change facts.kind = _ at kind
      change facts.declaration = _ at declared
      simp [alias?, kind, declared]

end NativeType

namespace Forest

/-- One typedef is another name of what the other one stands for, up to pointers and
arrays. -/
def Aliases (forest : Forest) (usr other : String) : Prop :=
  ∃ number target, (forest.cursor number).usr = usr ∧
    (forest.cursor number).underlying.alias? = some target ∧
    (forest.cursor target).usr = other

end Forest

end LuaBinder.Header
