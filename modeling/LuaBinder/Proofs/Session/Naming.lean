import LuaBinder.Proofs.Session.Visiting
import Mathlib.Data.List.Forall2

namespace LuaBinder

open Header Session

/-! A run gives names to nameless compounds at its end. Nothing else of a declaration
changes, so every type still stands for the same. -/

theorem toString_injective {number other : Nat} (same : toString number = toString other) :
    number = other := by
  have digits := congrArg (fun text => Nat.ofDigitChars 10 text.toList 0) same
  simpa [Nat.toString_eq_ofList_toDigits] using digits

/-- Nothing changes, or a nameless compound gets a name. -/
def Declaration.Names (before after : Declaration) : Prop :=
  after = before ∨ before.isCompound = true ∧ before.nativeName = "" ∧
    ∃ name, name ≠ "" ∧ after = { before with nativeName := name, name }

theorem Declaration.Names.body {before after : Declaration} (names : before.Names after) :
    after.body = before.body := by
  rcases names with rfl | ⟨-, -, name, -, rfl⟩ <;> rfl

namespace Store

variable {store named : Store} {key : String} {type last : CType} {steps : Nat}
  {peel : CType → CType} {d : Declaration}

/-- The same keys in the same order, with names for nameless compounds. -/
def NamedAs (store named : Store) : Prop :=
  List.Forall₂ (fun before after => after.1 = before.1 ∧ before.2.Names after.2)
    store.entries named.entries

theorem namedAs_nameAll (counts : List (String × Nat)) (entries : List (String × Declaration)) :
    NamedAs ⟨entries⟩ ⟨nameAll counts entries⟩ := by
  unfold NamedAs
  induction entries generalizing counts with
  | nil => exact .nil
  | cons entry rest induction =>
      obtain ⟨key, d⟩ := entry
      rw [nameAll]
      split
      · rename_i nameless
        simp only [Bool.and_eq_true, beq_iff_eq] at nameless
        refine .cons ⟨rfl, .inr ⟨nameless.1, nameless.2, _, ?_, rfl⟩⟩ (induction _)
        simp
      · exact .cons ⟨rfl, .inl rfl⟩ (induction counts)

namespace NamedAs

variable (naming : store.NamedAs named)
include naming

theorem keys_eq : named.keys = store.keys := by
  unfold NamedAs at naming
  unfold keys
  generalize store.entries = before, named.entries = after at naming ⊢
  induction naming with
  | nil => rfl
  | cons same _ induction => simp [same.1, induction]

theorem exists_lookup? (found : named.lookup? key = some d) :
    ∃ before, store.lookup? key = some before ∧ before.Names d := by
  unfold NamedAs at naming
  unfold lookup? at found ⊢
  generalize store.entries = before, named.entries = after at naming found ⊢
  induction naming with
  | nil => simp at found
  | @cons before after _ _ same _ induction =>
      by_cases own : before.1 = key
      · obtain rfl : after.2 = d := by simpa [same.1, own] using found
        exact ⟨before.2, by simp [own], same.2⟩
      · simp only [List.find?_cons, same.1, beq_eq_false_iff_ne.mpr own] at found ⊢
        exact induction found

theorem body?_eq : named.body? key = store.body? key := by
  cases located : named.lookup? key with
  | none =>
      rw [body?_eq_none_iff.mpr (lookup?_eq_none_iff.mp located)]
      exact (body?_eq_none_iff.mpr (naming.keys_eq ▸ lookup?_eq_none_iff.mp located)).symm
  | some d =>
      obtain ⟨before, located', names⟩ := naming.exists_lookup? located
      simp [body?, located, located', names.body]

/-- Only compounds get names. -/
theorem lookup?_eq (found : store.lookup? key = some d) (other : d.isCompound = false) :
    named.lookup? key = some d := by
  have published : key ∈ named.keys := naming.keys_eq ▸ mem_keys_of_lookup? found
  obtain ⟨body, located⟩ := exists_body? published
  obtain ⟨after, located, -⟩ := Option.map_eq_some_iff.mp located
  obtain ⟨before, located', names⟩ := naming.exists_lookup? located
  obtain rfl := Option.some.inj (found.symm.trans located')
  rcases names with rfl | ⟨compound, -⟩
  · exact located
  · simp [other] at compound

theorem unfolds_iff : named.Unfolds peel steps type last ↔ store.Unfolds peel steps type last :=
  unfolds_congr fun _ => by rw [underlying?_eq, underlying?_eq, naming.body?_eq]

theorem isUnsupported_eq : named.isUnsupported type = store.isUnsupported type := by
  refine isUnsupported_congr fun key => ?_
  rw [underlying?_eq, underlying?_eq, naming.body?_eq]

theorem isIncomplete_eq : named.isIncomplete type = store.isIncomplete type := by
  rw [Bool.eq_iff_iff, isIncomplete_iff, isIncomplete_iff]
  simp only [naming.unfolds_iff, naming.body?_eq]

theorem closed (closed : store.Closed) : named.Closed where
  nodup := naming.keys_eq ▸ closed.nodup
  known := by
    intro key body found
    rw [naming.body?_eq] at found
    exact naming.keys_eq ▸ closed.known key body found

theorem passesValues (passes : store.PassesValues) : named.PassesValues := by
  intro key body found type member
  rw [naming.body?_eq] at found
  have passable := passes key body found type member
  exact ⟨naming.isUnsupported_eq ▸ passable.supported,
    naming.isIncomplete_eq ▸ passable.complete⟩

end NamedAs

end Store

namespace Session

open Store

variable {forest : Forest} {s : Session}

theorem visitAll_runs (top : List Nat) (s : Session) (sound : s.Sound) :
    VisitRuns forest (fun _ => True) s (visitAll top) := by
  induction top generalizing s with
  | nil => exact .pure
  | cons number rest induction =>
      refine VisitRuns.bind ((visit_runs sound).mono fun _ _ => trivial) sound ?_
      exact fun _ middle sound => induction middle sound

/-- A run visits everything at the top, and names what is nameless only if no visit
fails. -/
theorem runAll_runs (top : List Nat) (sound : s.Sound) :
    Runs forest s (runAll top)
      (fun bindings ended => ∃ grown, Visits forest (fun _ => True) s.policy s.store grown ∧
        grown.NamedAs ended ∧ bindings = emitted ended)
      s.store.Advances := by
  refine Runs.look rfl ?_
  have quiet : Step.Quiet (modify fun s : Session =>
      { s with typedefNamed := typedefNames forest top }) :=
    fun _ _ => ⟨⟨rfl, rfl, Nat.le_refl _⟩, rfl⟩
  refine Runs.bind (.of_quiet quiet (.refl sound.closed)) fun _ begun kept same => ?_
  have visits : VisitRuns forest (fun _ => True) begun (visitAll top) :=
    visitAll_runs top begun (sound.of_kept kept (same ▸ sound.closed))
  rw [VisitRuns, kept.policy, same] at visits
  refine Runs.bind visits fun _ grown _ visits => ?_
  have advances := visits.advances sound.closed
  refine Runs.look rfl ?_
  dsimp only
  split
  · exact ⟨Kept.refl _, advances⟩
  have names : Runs forest grown nameAnonymous (fun _ named => grown.store.NamedAs named)
      s.store.Advances := ⟨⟨rfl, rfl, Nat.le_refl _⟩, namedAs_nameAll [] _⟩
  refine Runs.bind names fun _ ended _ named => Runs.look rfl (Runs.look rfl ?_)
  refine ⟨⟨rfl, rfl, Nat.le_refl _⟩, grown.store, visits, named, rfl⟩

instance [DecidableEq α] (result : Except ε α) (value : α) : Decidable (result = .ok value) :=
  match result with
  | .ok found => decidable_of_iff (found = value) (by simp)
  | .error _ => .isFalse (by simp)

theorem sound_start (policy : Policy) : Sound { policy } where
  closed := closed_empty
  framed := by simp [Framed]

/-- What a run of its own that succeeds has done. -/
theorem visits_of_run {policy : Policy} {top : List Nat} {bindings : List String}
    (succeeded : ((runAll top).run forest { policy }).1 = .ok bindings) :
    ∃ grown, Visits forest (fun _ => True) policy {} grown ∧
      grown.NamedAs ((runAll top).run forest { policy }).2.store ∧
      bindings = emitted ((runAll top).run forest { policy }).2.store := by
  have runs : Runs forest { policy } (runAll top) _ _ := runAll_runs top (sound_start policy)
  exact (Step.Ensures.of_ok runs succeeded).2

end Session

end LuaBinder
