import LuaBinder.Proofs.CType.Placeholders
import LuaBinder.Proofs.Session.Emission
import LuaBinder.Proofs.Session.Fares.Running
import LuaBinder.Proofs.Session.Returning

namespace LuaBinder

open Header Session

/-! Where unsupported types remain inside of resolved types. -/

theorem Resolution.propagates {forest : Forest} {native : NativeType} {type : CType}
    (resolution : Resolution forest native type) : type.Propagates native.HasBareFunction := by
  have below {native child : NativeType} (listed : child ∈ native.children)
      (bare : child.HasBareFunction) : native.HasBareFunction :=
    bare.of_part (TypeTree.parts_subset_of_child listed)
  induction resolution with
  | primitive | typedef | compound => simp [CType.Propagates, CType.placeholders]
  | unsupported => exact fun _ found => .inl (by rw [List.mem_singleton.mp found]; rfl)
  | pointer _ _ induction => exact (induction.imp (below (by simp [TypeTree.children]))).pointer
  | array _ _ induction => exact (induction.imp (below (by simp [TypeTree.children]))).array
  | elaborated _ _ induction => exact induction.imp (below (by simp [TypeTree.children]))
  | canonical _ _ induction => exact induction.imp (below (by simp [TypeTree.children]))
  | bareFunction kind => exact .bareFunction (NativeType.hasBareFunction_of_kind kind)
  | function origin listed each _ usable others induction =>
      simp only [isUsableSignature, Bool.and_eq_true, List.all_eq_true, Bool.not_eq_true']
        at usable
      refine .function (induction.imp (below (by simp [TypeTree.children])))
        (fun p member => (others p member).imp (below ?_)) usable.2
        fun p member => (usable.1 p member).1
      simp [TypeTree.children, listed p member]

/-- A function type without a prototype stands in a type of some declaration. -/
def Header.Forest.HasBareFunction (forest : Forest) : Prop :=
  ∃ number, ∃ native ∈ (forest.cursor number).types, NativeType.HasBareFunction native

namespace Session

open Store

variable {forest : Forest}

/-! What a run emits. -/

theorem propagates_of_plain {type : CType} {bare : Prop} (plain : type.IsPlain) :
    type.Propagates bare := by
  intro reason found
  obtain ⟨primitive, core⟩ := plain
  rw [← CType.placeholders_core, core] at found
  exact absurd found List.not_mem_nil

section

variable {policy : Policy} {top : List Nat} {bindings : List String} {usr : String}
  {body : Body} {type : CType}

theorem propagates_of_run (plain : policy.signatures.IsPlain)
    (succeeded : ((runAll top).run forest { policy }).1 = .ok bindings)
    (found : ((runAll top).run forest { policy }).2.store.body? usr = some body)
    (member : type ∈ spelledTypes body) : type.Propagates forest.HasBareFunction := by
  have ended := (ended_of_run succeeded).1
  rcases spelled_cases member with written | ⟨f, rfl, p, listed, rfl⟩
  · have described := (Sources.settled_ofCommands forest policy [.run top]).described
    obtain ⟨native, parts, resolution⟩ :=
      (described.body? found).yielded type (Body.mem_types_of_mem_written written)
    refine resolution.propagates.imp fun bare => ?_
    obtain ⟨part, within, kind⟩ := NativeType.hasBareFunction_iff.mp bare
    obtain ⟨whole, drawn | ⟨number, own⟩, inside⟩ := parts part within
    · simp [Sources.ofCommands] at drawn
    · exact ⟨number, whole, own, NativeType.hasBareFunction_iff.mpr ⟨part, inside, kind⟩⟩
  · exact propagates_of_plain (plain p.type (ended.appends usr f found p listed))

end

/-- A resolved type has unsupported parts without being unsupported itself exactly if they stand
in the results of function types without parameters, and then it came from a function type
without a prototype. What a run emits is written with no other unsupported parts. -/
theorem unsupported_parts_hidden_iff (forest : Forest) :
    (∀ (s : Session) (native : NativeType) (type : CType),
      ((resolveType native).run forest s).1 = .ok type →
      let store := ((resolveType native).run forest s).2.store
      type.Propagates native.HasBareFunction ∧
        (type.placeholders ≠ [] ∧ store.isUnsupported type = false ↔
          type.barePlaceholders ≠ [])) ∧
    ∀ (policy : Policy) (top : List Nat) (bindings : List String),
      policy.signatures.IsPlain →
      ((runAll top).run forest { policy }).1 = .ok bindings →
      let store := ((runAll top).run forest { policy }).2.store
      ∀ usr ∈ bindings, ∀ body, store.body? usr = some body → ∀ type ∈ spelledTypes body,
        type.placeholders ⊆ type.barePlaceholders ∧
          (type.placeholders ≠ [] → forest.HasBareFunction) := by
  constructor
  · intro s native type resolved store
    have resolution : Resolution forest native type :=
      Step.Ensures.of_ok (resolve_returns declare_names native s) resolved
    exact ⟨resolution.propagates, resolution.propagates.hides_iff⟩
  · intro policy top bindings plain succeeded store usr listed body found type member
    obtain ⟨ended, rfl⟩ := ended_of_run succeeded
    have propagates := propagates_of_run plain succeeded found member
    have covers := covers_of_spelled ended.appends plain found member ended.covered
      (emits_of_mem_emitted ended.closed listed found)
    have hidden (reason : String) (inside : reason ∈ type.placeholders) :
        forest.HasBareFunction ∧ reason ∈ type.barePlaceholders := by
      refine (propagates reason inside).resolve_left fun core => ?_
      obtain ⟨key, named, -⟩ := covers.whole (isUnsupported_of_placeholder core)
      simp [core] at named
    refine ⟨fun reason inside => (hidden reason inside).2, fun some => ?_⟩
    obtain ⟨reason, inside⟩ := List.exists_mem_of_ne_nil _ some
    exact (hidden reason inside).1

def bareUsr : String := "c:g"

/-- The type of `long double (*g)();` -/
def bareNative : NativeType :=
  .pointerTo <| .function .functionNoPrototype (.ofKind .longDouble) .nil

def bareForest : Forest := ⟨#[
  { kind := .global, spelling := "g", usr := bareUsr, type := bareNative }]⟩

def bareResolved : Except Error CType × Session :=
  (resolveType bareNative).run bareForest { policy := {} }

def bareRun : Except Error (List String) × Session :=
  (runAll [0]).run bareForest { policy := {} }

def bareType : CType :=
  .pointer (.function (.unsupported "long double: ") .nil false) false

/-- The type counts as supported, and the text of its unsupported part is written. -/
theorem bareForest_hides_unsupported_result :
    bareResolved.1 = .ok bareType ∧ bareType.placeholders ≠ [] ∧
      bareResolved.2.store.isUnsupported bareType = false ∧ bareNative.HasBareFunction ∧
      bareRun.1 = .ok [bareUsr] ∧
      bareRun.2.store.body? bareUsr = some (.global bareType false false) ∧
      bareForest.HasBareFunction ∧
      bareRun.2.store.declare bareType "g" =
        "/* unimplemented: long double:  */ void (*g)(void)" := by
  have resolved : bareResolved.1 = .ok bareType := by decide +kernel
  have succeeded : bareRun.1 = .ok [bareUsr] := by decide +kernel
  have found : bareRun.2.store.body? bareUsr = some (.global bareType false false) := rfl
  have text : bareRun.2.store.declare bareType "g" =
      "/* unimplemented: long double:  */ void (*g)(void)" := by decide +kernel
  have hidden : bareType.barePlaceholders ≠ [] := by decide
  unfold bareResolved bareRun at *
  obtain ⟨types, runs⟩ := unsupported_parts_hidden_iff bareForest
  obtain ⟨propagates, hides⟩ := types _ _ _ resolved
  obtain ⟨some, supported⟩ := hides.mpr hidden
  have emitted := runs _ _ _ SignatureTable.isPlain_nil succeeded bareUsr
    (List.mem_singleton.mpr rfl) _ found bareType (List.mem_singleton.mpr rfl)
  obtain ⟨reason, inside⟩ := List.exists_mem_of_ne_nil _ some
  have bare := (propagates.hidden supported inside).1
  exact ⟨resolved, some, supported, bare, succeeded, found, emitted.2 some, text⟩

end Session

end LuaBinder
