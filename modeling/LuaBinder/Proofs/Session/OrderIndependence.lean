import LuaBinder.Proofs.Session.Agreeing.Running
import Mathlib.Data.List.Perm.Basic

namespace LuaBinder

open Header Session

namespace Forecast

variable {forecast : Forecast} {forest : Forest} {view store : Store} {policy : Policy}
  {top : List Nat} {bindings : List String}

/-- What is emitted, and what the bindings come to, can be told beforehand. -/
structure Foretells (forecast : Forecast) (bindings : List String) (store : Store) :
    Prop where
  emitted : ∀ key, key ∈ bindings ↔
    forecast.Reaches key ∧ forecast.view.isUnsupported (.typedef key) = false
  status : ∀ key ∈ bindings, store.status key = forecast.view.status key
  kind : ∀ key ∈ bindings, ∃ body, store.body? key = some body ∧
    forecast.sources.Presents key body.kind

theorem Completes.foretells (completes : forecast.Completes store)
    (coherent : forecast.Coherent) (closed : store.Closed)
    (settled : ∀ key, store.body? key ≠ some (.typedef none))
    (described : forecast.sources.Describe store) :
    forecast.Foretells (emitted store) store := by
  have published (key : String) (listed : key ∈ emitted store) : key ∈ store.keys := by
    obtain ⟨d, found, -⟩ := (mem_emitted_iff closed).mp listed
    exact Store.mem_keys_of_body? (by rw [Store.body?, found]; rfl)
  have supported (key : String) (own : key ∈ store.keys) :
      key ∈ emitted store ↔ forecast.view.isUnsupported (.typedef key) = false := by
    have seen := completes.agrees.consult coherent
      (show (CType.typedef key).mentions ⊆ store.keys by simpa [CType.mentions] using own)
      (by simp)
    rw [mem_emitted_iff_supported closed settled own, seen.1]
  refine { emitted := fun key => ⟨fun listed => ?_, fun given => ?_⟩, status := ?_, kind := ?_ }
  · have own := published key listed
    exact ⟨completes.mem_keys_iff.mp own, (supported key own).mp listed⟩
  · exact (supported key (completes.mem_keys_iff.mpr given.1)).mpr given.2
  · exact fun key listed => completes.agrees.finished key (published key listed) (by simp)
  · intro key listed
    obtain ⟨body, found⟩ := Store.exists_body? (published key listed)
    exact ⟨body, found, (described.body? found).presented⟩

theorem foretells_run (coherent : (Sources.ofCommands forest policy []).Coherent view)
    (apart : forest.ValuesApart policy)
    (tagged : (Sources.ofCommands forest policy []).TagsNamed top)
    (succeeded : ((runAll top).run forest { policy }).1 = .ok bindings) :
    (ofRun (.ofCommands forest policy []) view policy top).Foretells bindings
      ((runAll top).run forest { policy }).2.store := by
  have allowed : policy ∈ (Sources.ofCommands forest policy []).policies := List.mem_cons_self
  have started : (Sources.ofCommands forest policy []).Settled { policy } :=
    ⟨sound_start policy, .empty, allowed⟩
  have completes := Step.Ensures.of_ok (runAll_completes coherent allowed apart tagged) succeeded
  have ended := (Step.Ensures.of_ok (Sources.runAll_lands started top) succeeded).1
  obtain ⟨grown, visits, naming, rfl⟩ := visits_of_run succeeded
  exact completes.foretells coherent ended.closed (not_pending_of_visits visits naming)
    ended.described

end Forecast

/-! Two orders. -/

section

variable {forest : Forest} {view : Store} {policy : Policy} {top others : List Nat}

theorem Session.any_typedefNames_perm (permuted : top.Perm others) (usr : String) :
    (typedefNames forest top).any (·.1 == usr) =
      (typedefNames forest others).any (·.1 == usr) := by
  rw [Bool.eq_iff_iff, any_typedefNames, any_typedefNames]
  simp only [permuted.mem_iff]

theorem Sources.TagsNamed.perm {sources : Sources} (tagged : sources.TagsNamed top)
    (permuted : top.Perm others) : sources.TagsNamed others := by
  intro number member kind anonymous named
  rw [← any_typedefNames_perm permuted]
  exact tagged number (permuted.mem_iff.mpr member) kind anonymous named

theorem Header.Forest.starts_congr {names more : List (String × String)} {number : Nat}
    (same : ∀ usr, names.any (·.1 == usr) = more.any (·.1 == usr)) :
    forest.starts view policy names number = forest.starts view policy more number := by
  simp only [starts, same]

/-- What a run reaches does not depend on the order of its declarations. -/
theorem Forecast.reaches_perm {sources : Sources} {key : String} (permuted : top.Perm others) :
    (ofRun sources view policy top).Reaches key ↔
      (ofRun sources view policy others).Reaches key := by
  have starts (first : String) : (ofRun sources view policy top).starts first ↔
      (ofRun sources view policy others).starts first := by
    simp only [ofRun, permuted.mem_iff,
      Forest.starts_congr (any_typedefNames_perm permuted)]
  simp only [Reaches, starts]
  rfl

end

namespace Session

variable {forest : Forest} {view : Store} {policy : Policy} {top others : List Nat}
  {bindings rebound : List String}

/-- `struct Node { struct Node *next; struct Value value; }; void push(struct Node *node);`,
where `struct Value` is defined elsewhere. -/
def sealedForest : Forest := ⟨#[
  { kind := .struct, spelling := "Node", usr := "c:Node", children := [1, 2]
    definition := some 0 },
  { kind := .field, spelling := "next", usr := "c:Node@next"
    type := .pointerTo (.declared .record 0) },
  { kind := .field, spelling := "value", usr := "c:Node@value", type := .declared .record 3 },
  { kind := .struct, spelling := "Value", usr := "c:Value", isDefinition := false },
  { kind := .function, spelling := "push", usr := "c:push", arguments := [5]
    type := .function .functionPrototype (.ofKind .void)
      (.cons (NativeType.pointerTo (.declared .record 0)) .nil)
    result := .ofKind .void },
  { kind := .parameter, spelling := "node", usr := "c:push@node"
    type := .pointerTo (.declared .record 0) }]⟩

/-- What a run comes to serves as the view. -/
def sealedView : Store := ((runAll [3, 0, 4]).run sealedForest { policy := {} }).2.store

theorem coherent_sealed : (Sources.ofCommands sealedForest {} []).Coherent sealedView :=
  Sources.coherent_of_listed ["c:Value"] (by decide +kernel)
    (Forest.oneReport_of_nodup (by decide +kernel) (by decide +kernel)) (by decide +kernel)
    (by decide +kernel) (by decide +kernel) (by decide +kernel) (by decide +kernel)

theorem sealed_first : ((runAll [3, 0, 4]).run sealedForest { policy := {} }).1 =
    .ok ["c:Value", "c:Node", "c:push"] := by decide +kernel

theorem sealed_second : ((runAll [4, 0, 3]).run sealedForest { policy := {} }).1 =
    .ok ["c:Node", "c:Value", "c:push"] := by decide +kernel

/-- Runs over the same declarations in two orders do not emit the same. -/
def DependsOnOrder (forest : Forest) (policy : Policy) (top others : List Nat) : Prop :=
  ∃ bindings rebound, ((runAll top).run forest { policy }).1 = .ok bindings ∧
    ((runAll others).run forest { policy }).1 = .ok rebound ∧
    ∃ usr ∈ bindings, usr ∉ rebound

/-- `struct A { struct B *b; int flags : 3; }; struct B { struct A a; struct C *c; };`,
where `struct C` is defined elsewhere. -/
def crossedForest : Forest := ⟨#[
  { kind := .struct, spelling := "A", usr := "c:A", children := [1, 2], definition := some 0 },
  { kind := .field, spelling := "b", usr := "c:A@b", type := .pointerTo (.declared .record 3) },
  { kind := .field, spelling := "flags", usr := "c:A@flags", type := .ofKind .int
    bitfield := true },
  { kind := .struct, spelling := "B", usr := "c:B", children := [4, 5], definition := some 3 },
  { kind := .field, spelling := "a", usr := "c:B@a", type := .declared .record 0 },
  { kind := .field, spelling := "c", usr := "c:B@c", type := .pointerTo (.declared .record 6) },
  { kind := .struct, spelling := "C", usr := "c:C", isDefinition := false }]⟩

/-- `void log(int level, ...); struct S *log_int(void);` -/
def suffixForest : Forest := ⟨#[
  { kind := .function, spelling := "log", usr := "c:log", result := .ofKind .void
    type := .known { TypeFacts.plain .functionPrototype none with variadic := true }
      .absent .absent .absent (NativeType.ofKind .void) .absent .nil },
  { kind := .function, spelling := "log_int", usr := "c:log_int"
    type := .function .functionPrototype (.pointerTo (.declared .record 2)) .nil
    result := .pointerTo (.declared .record 2) },
  { kind := .struct, spelling := "S", usr := "c:S", isDefinition := false }]⟩

/-- A signature of the one function is bound under the USR of the other function. -/
theorem suffixForest_depends_on_order :
    DependsOnOrder suffixForest { signatures := [("log", [⟨"_int", [.primitive .int32]⟩])] }
      [1, 0] [0, 1] :=
  ⟨["c:S", "c:log_int"], ["c:log_int"], by decide +kernel, by decide +kernel, "c:S",
    by decide, by decide⟩

/-- `typedef enum { X } T; T g;`, where the typedef is not at the top. -/
def hiddenName : Forest := ⟨#[
  { kind := .enumeration, usr := "c:E", anonymous := true, children := [1]
    definition := some 0 },
  { kind := .enumConstant, spelling := "X", usr := "c:E@X" },
  { kind := .typedef, spelling := "T", usr := "c:T"
    underlying := .elaborated (.declared .enumeration 0) },
  { kind := .global, spelling := "g", usr := "c:g", type := .declared .typedef 2 }]⟩

/-- The constants are bound one by one if no typedef has been seen to name their
enumeration. -/
theorem hiddenName_depends_on_order : DependsOnOrder hiddenName {} [0, 3] [3, 0] :=
  ⟨["c:E@X", "c:T", "c:E", "c:g"], ["c:T", "c:E", "c:g"], by decide +kernel,
    by decide +kernel, "c:E@X", by decide, by decide⟩

end Session

end LuaBinder
