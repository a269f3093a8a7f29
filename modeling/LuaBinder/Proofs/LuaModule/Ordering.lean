import LuaBinder.Proofs.LuaModule.Search

namespace LuaBinder.LuaModule

open Relation

/-! The order keeps what is in order already, so that a second ordering changes nothing
where only single declarations depend on themselves. -/

/-- Each listed declaration comes after the others that it depends on. -/
def InOrder (store : Store) (bindings : List Binding) : Prop :=
  ∀ key other, Depends store bindings key other → other ≠ key →
    (keysOf bindings).idxOf other < (keysOf bindings).idxOf key

variable {store : Store} {bindings ordered starts rest : List Binding} {active : List String}
  {binding : Binding} {fuel : Nat} {key other : String}

theorem visit_known (known : binding.1 ∈ keysOf ordered ∨ binding.1 ∈ active) :
    visit store bindings fuel active ordered binding = ordered := by
  cases fuel with
  | zero => rfl
  | succ fuel => rw [visit_succ, if_pos known]

theorem foldl_visit_known
    (known : ∀ start ∈ starts, start.1 ∈ keysOf ordered ∨ start.1 ∈ active) :
    starts.foldl (visit store bindings fuel active) ordered = ordered := by
  induction starts with
  | nil => rfl
  | cons first rest induction =>
      rw [List.foldl_cons, visit_known (known first List.mem_cons_self)]
      exact induction fun start member => known start (List.mem_cons_of_mem first member)

/-- A declaration is listed at once if the others that it depends on are listed. -/
theorem visit_ready (fresh : binding.1 ∉ keysOf ordered)
    (ready : ∀ needed ∈ needs store bindings binding.2,
      needed.1 = binding.1 ∨ needed.1 ∈ keysOf ordered) :
    visit store bindings (fuel + 1) [] ordered binding = ordered ++ [binding] := by
  have new : ¬ (binding.1 ∈ keysOf ordered ∨ binding.1 ∈ ([] : List String)) := by
    simpa using fresh
  have settled : (needs store bindings binding.2).foldl
      (visit store bindings fuel [binding.1]) ordered = ordered := by
    apply foldl_visit_known
    intro needed member
    exact ((ready needed member).imp_left fun same => by simp [same]).symm
  rw [visit_succ, if_neg new, settled]

/-- The rest of a list in order is appended as it stands. -/
theorem foldl_visit_inOrder (distinct : (keysOf bindings).Nodup)
    (sorted : InOrder store bindings) (split : bindings = ordered ++ rest) :
    rest.foldl (visit store bindings (fuel + 1) []) ordered = bindings := by
  induction rest generalizing ordered with
  | nil => simp [split]
  | cons first rest induction =>
      have there : (first.1, first.2) ∈ bindings := by simp [split]
      have fresh : first.1 ∉ keysOf ordered := by
        rw [split, keysOf_append, List.nodup_append] at distinct
        exact fun known => distinct.2.2 first.1 known first.1 List.mem_cons_self rfl
      have place : (keysOf bindings).idxOf first.1 = (keysOf ordered).length := by
        rw [split, keysOf_append, List.idxOf_append_of_notMem fresh]
        simp
      have ready : ∀ needed ∈ needs store bindings first.2,
          needed.1 = first.1 ∨ needed.1 ∈ keysOf ordered := by
        intro needed member
        have depends : Depends store bindings first.1 needed.1 :=
          (depends_iff_mem_needs distinct there).mpr (mem_keysOf member)
        refine or_iff_not_imp_left.mpr fun differs => ?_
        have before := sorted first.1 needed.1 depends differs
        by_contra absent
        rw [place, split, keysOf_append, List.idxOf_append_of_notMem absent] at before
        omega
      rw [List.foldl_cons, visit_ready fresh ready]
      exact induction (by rw [split, List.append_assoc, List.singleton_append])

theorem dependencyOrder_of_inOrder (distinct : (keysOf bindings).Nodup)
    (sorted : InOrder store bindings) : dependencyOrder store bindings = bindings :=
  foldl_visit_inOrder distinct sorted rfl

/-- What depends on what does not depend on the order of the list. -/
theorem depends_congr (same : starts.Perm bindings) :
    Depends store starts key other ↔ Depends store bindings key other := by
  simp only [Depends, keysOf, same.mem_iff, (same.map _).mem_iff]

/-- No two different declarations depend on each other, at whatever distance. -/
def Acyclic (store : Store) (bindings : List Binding) : Prop :=
  ∀ key other, Depends store bindings key other → other ≠ key →
    ¬ TransGen (Depends store bindings) other key

theorem not_leads_iff (depends : Depends store bindings key other) :
    ¬ Leads store bindings other key ↔ ¬ TransGen (Depends store bindings) other key := by
  rw [Leads, reflTransGen_iff_eq_or_transGen, not_or, and_iff_right_iff_imp]
  rintro apart rfl
  exact apart (.single depends)

theorem inOrder_dependencyOrder (distinct : (keysOf bindings).Nodup)
    (acyclic : Acyclic store bindings) : InOrder store (dependencyOrder store bindings) := by
  intro key other depends differ
  have depends := (depends_congr (dependencyOrder_perm distinct)).mp depends
  apply idxOf_lt_of_depends distinct depends
  rw [not_leads_iff depends]
  exact acyclic key other depends differ

/-- The order lists the same declarations, each after those it depends on that do not
depend on it in turn. A list in order stays as it is, and so does the order of a list
without a cycle. -/
theorem dependencyOrder_orders (store : Store) (bindings : List Binding)
    (distinct : (keysOf bindings).Nodup) :
    (dependencyOrder store bindings).Perm bindings ∧
    (∀ key other, Depends store bindings key other →
      ¬ TransGen (Depends store bindings) other key →
      (keysOf (dependencyOrder store bindings)).idxOf other <
        (keysOf (dependencyOrder store bindings)).idxOf key) ∧
    (InOrder store bindings → dependencyOrder store bindings = bindings) ∧
    (Acyclic store bindings →
      dependencyOrder store (dependencyOrder store bindings) =
        dependencyOrder store bindings) := by
  refine ⟨dependencyOrder_perm distinct, fun key other depends apart => ?_,
    dependencyOrder_of_inOrder distinct, fun acyclic => ?_⟩
  · exact idxOf_lt_of_depends distinct depends ((not_leads_iff depends).mpr apart)
  · have once : (keysOf (dependencyOrder store bindings)).Nodup :=
      ((dependencyOrder_perm distinct).map _).nodup_iff.mpr distinct
    exact dependencyOrder_of_inOrder once (inOrder_dependencyOrder distinct acyclic)

/-- A structure with one member, another structure. -/
def holding (name held : String) : Declaration :=
  { usr := name, nativeName := name, name := name,
    body := .record .struct false [{ name := held, type := .compound held }] }

/-- A structure in front of two that hold each other. -/
def holderOfRing : List Binding :=
  [("h", holding "h" "a"), ("a", holding "a" "b"), ("b", holding "b" "a")]

theorem holderOfRing_ordered :
    (dependencyOrder ⟨holderOfRing⟩ holderOfRing).Perm holderOfRing ∧
    (keysOf (dependencyOrder ⟨holderOfRing⟩ holderOfRing)).idxOf "a" <
      (keysOf (dependencyOrder ⟨holderOfRing⟩ holderOfRing)).idxOf "h" := by
  obtain ⟨same, before, -, -⟩ :=
    dependencyOrder_orders ⟨holderOfRing⟩ holderOfRing (by decide)
  refine ⟨same, before "h" "a"
    ⟨holding "h" "a", by simp [holderOfRing], by decide, by decide⟩ fun back => ?_⟩
  -- the two of the ring reach only each other, so neither reaches the holder
  have stays {key other : String} (depends : Depends ⟨holderOfRing⟩ holderOfRing key other)
      (inside : key ≠ "h") : other ≠ "h" := by
    obtain ⟨d, listed, needed, -⟩ := depends
    simp only [holderOfRing, List.mem_cons, Prod.mk.injEq, List.not_mem_nil, or_false]
      at listed
    rcases listed with ⟨rfl, rfl⟩ | ⟨rfl, rfl⟩ | ⟨rfl, rfl⟩
    · exact absurd rfl inside
    · rintro rfl
      exact absurd needed (by decide)
    · rintro rfl
      exact absurd needed (by decide)
  have apart {key : String}
      (leads : TransGen (Depends ⟨holderOfRing⟩ holderOfRing) "a" key) : key ≠ "h" := by
    induction leads with
    | single depends => exact stays depends (by decide)
    | tail _ depends induction => exact stays depends induction
  exact apart back rfl

end LuaBinder.LuaModule
