import LuaBinder.Proofs.LuaModule.Search

namespace LuaBinder.LuaModule

open Relation

/-! Which of two declarations the search lists first, when nothing that leads to the one
is part of a cycle. -/

/-- The search is through with `early` before it is through with `late`: the first
declaration that leads to either of them leads to `early` alone, or it leads to both and
the search is so among those that it depends on. -/
inductive MeetsFirst (store : Store) (bindings : List Binding) (early late : String) :
    List String → Prop
  | alone {key : String} {rest : List String} (leads : Leads store bindings key early)
      (apart : ¬ Leads store bindings key late) :
      MeetsFirst store bindings early late (key :: rest)
  | within {key : String} {d : Declaration} {rest : List String} (listed : (key, d) ∈ bindings)
      (leads : Leads store bindings key early) (also : Leads store bindings key late)
      (inner : MeetsFirst store bindings early late (keysOf (needs store bindings d))) :
      MeetsFirst store bindings early late (key :: rest)
  | later {key : String} {rest : List String} (apart : ¬ Leads store bindings key early)
      (other : ¬ Leads store bindings key late)
      (onward : MeetsFirst store bindings early late rest) :
      MeetsFirst store bindings early late (key :: rest)

/-- What is listed depends on what is listed or waits. -/
def Complete (store : Store) (bindings : List Binding) (active : List String)
    (ordered : List Binding) : Prop :=
  ∀ key ∈ keysOf ordered, ∀ other, Depends store bindings key other →
    other ∈ active ∨ other ∈ keysOf ordered

variable {store : Store} {bindings ordered added : List Binding} {active starts : List String}
  {key other : String}

theorem Complete.append (complete : Complete store bindings active ordered)
    (search : Search store bindings active starts ordered added) :
    Complete store bindings active (ordered ++ added) := by
  intro key member other depends
  rw [keysOf_append, List.mem_append] at member
  rcases member with member | member
  · refine (complete key member other depends).imp_right fun there => ?_
    rw [keysOf_append]
    exact List.mem_append_left _ there
  · exact search.closed key member other depends

/-- All that a listed declaration leads to is listed, if none of it waits. -/
theorem Complete.mem (complete : Complete store bindings active ordered)
    (member : key ∈ keysOf ordered) (clear : ∀ waits ∈ active, ¬ Leads store bindings key waits)
    (leads : Leads store bindings key other) : other ∈ keysOf ordered := by
  induction leads with
  | refl => exact member
  | tail onward depends induction =>
      rcases complete _ induction _ depends with waits | found
      · exact absurd (onward.tail depends) (clear _ waits)
      · exact found

theorem Search.mem_of_leads (search : Search store bindings active [key] ordered added)
    (complete : Complete store bindings active ordered)
    (clear : ∀ waits ∈ active, ¬ Leads store bindings key waits)
    (leads : Leads store bindings key other) : other ∈ keysOf (ordered ++ added) := by
  have start := (search.arrived key (List.mem_singleton_self key)).resolve_left
    fun waits => clear key waits .refl
  exact (complete.append search).mem start clear leads

theorem Search.not_mem (search : Search store bindings active [key] ordered added)
    (absent : other ∉ keysOf ordered) (apart : ¬ Leads store bindings key other) :
    other ∉ keysOf (ordered ++ added) := by
  rw [keysOf_append, List.mem_append, not_or]
  refine ⟨absent, fun member => ?_⟩
  obtain ⟨start, given, leads⟩ := search.reached other member
  exact apart (List.mem_singleton.mp given ▸ leads)

theorem idxOf_lt_of_mem {keys : List String} {early late : String} (member : early ∈ keys)
    (absent : late ∉ keys) : keys.idxOf early < keys.idxOf late := by
  rw [List.idxOf_of_notMem absent]
  exact List.idxOf_lt_length_iff.mpr member

/-- A declaration leads to itself and to what those lead to that it depends on. -/
theorem leads_iff (distinct : (keysOf bindings).Nodup) {d : Declaration}
    (listed : (key, d) ∈ bindings) :
    Leads store bindings key other ↔ key = other ∨
      ∃ needed ∈ needs store bindings d, Leads store bindings needed.1 other := by
  rw [Leads, ReflTransGen.cases_head_iff]
  refine or_congr_right ⟨?_, ?_⟩
  · intro given
    obtain ⟨next, depends, leads⟩ := given
    obtain ⟨needed, member, rfl⟩ :=
      List.mem_map.mp ((depends_iff_mem_needs distinct listed).mp depends)
    exact ⟨needed, member, leads⟩
  · intro given
    obtain ⟨needed, member, leads⟩ := given
    exact ⟨needed.1, (depends_iff_mem_needs distinct listed).mpr (mem_keysOf member), leads⟩

namespace MeetsFirst

variable {early late : String} {rest : List String}

theorem iff_within (distinct : (keysOf bindings).Nodup) {d : Declaration}
    (listed : (key, d) ∈ bindings) (leads : Leads store bindings key early)
    (also : Leads store bindings key late) :
    MeetsFirst store bindings early late (key :: rest) ↔
      MeetsFirst store bindings early late (keysOf (needs store bindings d)) := by
  constructor
  · intro meets
    cases meets with
    | alone _ apart => exact absurd also apart
    | within same _ _ inner => rwa [eq_of_mem_of_key distinct listed same]
    | later apart => exact absurd leads apart
  · exact .within listed leads also

theorem iff_later (apart : ¬ Leads store bindings key early)
    (other : ¬ Leads store bindings key late) :
    MeetsFirst store bindings early late (key :: rest) ↔
      MeetsFirst store bindings early late rest := by
  constructor
  · intro meets
    cases meets with
    | alone leads => exact absurd leads apart
    | within _ leads => exact absurd leads apart
    | later _ _ onward => exact onward
  · exact .later apart other

theorem not_of_late (apart : ¬ Leads store bindings key early)
    (leads : Leads store bindings key late) :
    ¬ MeetsFirst store bindings early late (key :: rest) := by
  intro meets
  cases meets with
  | alone given => exact absurd given apart
  | within _ given => exact absurd given apart
  | later _ other => exact absurd leads other

end MeetsFirst

/-- An order has the two as a search from these starts meets them. -/
def Decided (store : Store) (bindings : List Binding) (early late : String)
    (starts order : List String) : Prop :=
  (MeetsFirst store bindings early late starts → order.idxOf early < order.idxOf late) ∧
    (¬ MeetsFirst store bindings early late starts → order.idxOf late < order.idxOf early)

namespace Decided

variable {early late : String} {order : List String} {rest : List String}

theorem append (decided : Decided store bindings early late rest order) (further : List String) :
    Decided store bindings early late rest (order ++ further) :=
  ⟨fun meets => idxOf_append_lt (decided.1 meets),
    fun misses => idxOf_append_lt (decided.2 misses)⟩

theorem congr {others : List String} (decided : Decided store bindings early late others order)
    (same : MeetsFirst store bindings early late rest ↔
      MeetsFirst store bindings early late others) :
    Decided store bindings early late rest order :=
  ⟨fun meets => decided.1 (same.mp meets), fun misses => decided.2 (mt same.mpr misses)⟩

end Decided

/-- A search that has met neither declaration, and of what it may still meet nothing
waits. -/
structure Undecided (store : Store) (bindings : List Binding) (early late : String)
    (active : List String) (ordered starts : List Binding) : Prop where
  known : starts ⊆ bindings
  path : active.Nodup
  within : active ⊆ keysOf bindings
  waiting : ∀ waits ∈ active, ∀ start ∈ starts, Leads store bindings waits start.1
  clear : ∀ start ∈ starts, ∀ waits ∈ active, ¬ Leads store bindings start.1 waits
  once : (keysOf ordered).Nodup
  complete : Complete store bindings active ordered
  noEarly : early ∉ keysOf ordered
  noLate : late ∉ keysOf ordered

namespace Undecided

variable {early late : String} {first : Binding} {rest : List Binding} {fuel : Nat}

theorem exists_search_head (distinct : (keysOf bindings).Nodup)
    (enough : bindings.length < fuel + active.length)
    (undecided : Undecided store bindings early late active ordered (first :: rest)) :
    ∃ added, visit store bindings fuel active ordered first = ordered ++ added ∧
      Search store bindings active [first.1] ordered added :=
  exists_search_visit distinct (undecided.known List.mem_cons_self) undecided.path
    undecided.within enough
    (fun waits member => undecided.waiting waits member first List.mem_cons_self)
    undecided.once

theorem exists_search_rest (distinct : (keysOf bindings).Nodup)
    (enough : bindings.length < fuel + active.length)
    (undecided : Undecided store bindings early late active ordered (first :: rest))
    (once : (keysOf added).Nodup) :
    ∃ further, rest.foldl (visit store bindings fuel active) added = added ++ further ∧
      Search store bindings active (keysOf rest) added further := by
  refine exists_search_foldl (fun binding member ordered once => ?_) once
  have tail := List.mem_cons_of_mem first member
  exact exists_search_visit distinct (undecided.known tail) undecided.path undecided.within
    enough (fun waits there => undecided.waiting waits there binding tail) once

/-- The search of the first declaration met neither. -/
theorem tail (undecided : Undecided store bindings early late active ordered (first :: rest))
    (search : Search store bindings active [first.1] ordered added)
    (noEarly : ¬ Leads store bindings first.1 early)
    (noLate : ¬ Leads store bindings first.1 late) :
    Undecided store bindings early late active (ordered ++ added) rest where
  known := List.Subset.trans (List.subset_cons_self first rest) undecided.known
  path := undecided.path
  within := undecided.within
  waiting waits member start given :=
    undecided.waiting waits member start (List.mem_cons_of_mem _ given)
  clear start given := undecided.clear start (List.mem_cons_of_mem _ given)
  once := search.distinct
  complete := undecided.complete.append search
  noEarly := search.not_mem undecided.noEarly noEarly
  noLate := search.not_mem undecided.noLate noLate

/-- The search goes into what the first declaration depends on. -/
theorem inner (distinct : (keysOf bindings).Nodup)
    (undecided : Undecided store bindings early late active ordered (first :: rest))
    (acyclic : ∀ other, Depends store bindings first.1 other →
      ¬ Leads store bindings other first.1) :
    Undecided store bindings early late (first.1 :: active) ordered
      (needs store bindings first.2) := by
  have there : (first.1, first.2) ∈ bindings := undecided.known List.mem_cons_self
  have depends {needed : Binding} (member : needed ∈ needs store bindings first.2) :
      Depends store bindings first.1 needed.1 :=
    (depends_iff_mem_needs distinct there).mpr (mem_keysOf member)
  have clear := undecided.clear first List.mem_cons_self
  constructor
  case known =>
    exact fun needed member => ((mem_needs_iff distinct).mp member).2
  case path =>
    exact List.nodup_cons.mpr ⟨fun waits => clear _ waits .refl, undecided.path⟩
  case within =>
    exact List.cons_subset.mpr ⟨mem_keysOf there, undecided.within⟩
  case waiting =>
    intro waits member needed given
    rcases List.mem_cons.mp member with rfl | member
    · exact .single (depends given)
    · exact (undecided.waiting waits member first List.mem_cons_self).tail (depends given)
  case clear =>
    intro needed given waits member
    rcases List.mem_cons.mp member with rfl | member
    · exact acyclic _ (depends given)
    · exact fun leads => clear waits member (.head (depends given) leads)
  case once =>
    exact undecided.once
  case complete =>
    exact fun key member other depends =>
      (undecided.complete key member other depends).imp_left (List.mem_cons_of_mem _)
  case noEarly =>
    exact undecided.noEarly
  case noLate =>
    exact undecided.noLate

/-- If the first declaration leads to both, something that it depends on leads to one of them. -/
theorem exists_below (distinct : (keysOf bindings).Nodup) (differ : early ≠ late)
    (undecided : Undecided store bindings early late active ordered (first :: rest))
    (leads : Leads store bindings first.1 early) (also : Leads store bindings first.1 late) :
    ∃ needed ∈ needs store bindings first.2,
      Leads store bindings needed.1 early ∨ Leads store bindings needed.1 late := by
  have there : (first.1, first.2) ∈ bindings := undecided.known List.mem_cons_self
  by_cases same : first.1 = early
  · obtain ⟨needed, member, leads⟩ := ((leads_iff distinct there).mp also).resolve_left
      fun equal => differ (same.symm.trans equal)
    exact ⟨needed, member, .inr leads⟩
  · obtain ⟨needed, member, leads⟩ := ((leads_iff distinct there).mp leads).resolve_left same
    exact ⟨needed, member, .inl leads⟩

theorem fresh (undecided : Undecided store bindings early late active ordered (first :: rest))
    (leads : Leads store bindings first.1 early) :
    ¬ (first.1 ∈ keysOf ordered ∨ first.1 ∈ active) := by
  have clear := undecided.clear first List.mem_cons_self
  rintro (known | waits)
  · exact undecided.noEarly (undecided.complete.mem known clear leads)
  · exact clear _ waits .refl

/-- The search of a declaration that leads to one of the two alone lists that one only. -/
theorem decided_of_early
    (undecided : Undecided store bindings early late active ordered (first :: rest))
    (search : Search store bindings active [first.1] ordered added)
    (leads : Leads store bindings first.1 early) (apart : ¬ Leads store bindings first.1 late) :
    Decided store bindings early late (first.1 :: keysOf rest) (keysOf (ordered ++ added)) := by
  have clear := undecided.clear first List.mem_cons_self
  refine ⟨fun _ => idxOf_lt_of_mem ?_ ?_, fun misses => absurd (.alone leads apart) misses⟩
  · exact search.mem_of_leads undecided.complete clear leads
  · exact search.not_mem undecided.noLate apart

theorem decided_of_late
    (undecided : Undecided store bindings early late active ordered (first :: rest))
    (search : Search store bindings active [first.1] ordered added)
    (apart : ¬ Leads store bindings first.1 early) (leads : Leads store bindings first.1 late) :
    Decided store bindings early late (first.1 :: keysOf rest) (keysOf (ordered ++ added)) := by
  have clear := undecided.clear first List.mem_cons_self
  refine ⟨fun meets => absurd meets (MeetsFirst.not_of_late apart leads),
    fun _ => idxOf_lt_of_mem ?_ ?_⟩
  · exact search.mem_of_leads undecided.complete clear leads
  · exact search.not_mem undecided.noEarly apart

end Undecided

/-- Whichever of the two a search can meet, it lists first the one that it meets first. -/
theorem foldl_decides (distinct : (keysOf bindings).Nodup) {early late : String}
    (differ : early ≠ late)
    (acyclic : ∀ key other, Leads store bindings key late → Depends store bindings key other →
      ¬ Leads store bindings other key)
    (fuel : Nat) :
    ∀ (starts ordered : List Binding) (active : List String),
      bindings.length < fuel + active.length →
      Undecided store bindings early late active ordered starts →
      (∃ start ∈ starts, Leads store bindings start.1 early ∨
        Leads store bindings start.1 late) →
      Decided store bindings early late (keysOf starts)
        (keysOf (starts.foldl (visit store bindings fuel active) ordered)) := by
  -- The fuel outlasts the path of waiting declarations, which are distinct bindings.
  induction fuel with
  | zero =>
      intro starts ordered active enough undecided
      have short := undecided.path.length_le_of_subset undecided.within
      simp only [keysOf, List.length_map] at short
      omega
  | succ fuel deeper =>
      intro starts
      induction starts with
      | nil => simp
      | cons first rest onward =>
          intro ordered active enough undecided meets
          obtain ⟨added, found, search⟩ := undecided.exists_search_head distinct enough
          obtain ⟨further, done, -⟩ :=
            undecided.exists_search_rest distinct enough search.distinct
          rw [keysOf_cons, List.foldl_cons, found]
          by_cases leads : Leads store bindings first.1 early <;>
            by_cases also : Leads store bindings first.1 late
          · -- both lie below the declaration: they are decided before it is listed itself
            have inner := deeper (needs store bindings first.2) ordered (first.1 :: active)
              (by simp only [List.length_cons]; omega)
              (undecided.inner distinct fun other => acyclic first.1 other also)
              (undecided.exists_below distinct differ leads also)
            rw [visit_succ, if_neg (undecided.fresh leads)] at found
            rw [← found] at done ⊢
            rw [done, keysOf_append, keysOf_append]
            exact ((inner.congr (MeetsFirst.iff_within distinct (undecided.known List.mem_cons_self)
              leads also)).append _).append _
          · rw [done, keysOf_append]
            exact (undecided.decided_of_early search leads also).append _
          · rw [done, keysOf_append]
            exact (undecided.decided_of_late search leads also).append _
          · -- neither does: the search has still met none of the two
            have remaining : ∃ start ∈ rest, Leads store bindings start.1 early ∨
                Leads store bindings start.1 late := by
              obtain ⟨start, given, either⟩ := meets
              rcases List.mem_cons.mp given with rfl | given
              · exact (either.elim leads also).elim
              · exact ⟨start, given, either⟩
            exact (onward (ordered ++ added) active enough
              (undecided.tail search leads also) remaining).congr (MeetsFirst.iff_later leads also)

/-- Of two listed declarations the order has first the one that the search meets first. -/
theorem dependencyOrder_decides (distinct : (keysOf bindings).Nodup) {early late : String}
    (differ : early ≠ late)
    (acyclic : ∀ key other, Leads store bindings key late → Depends store bindings key other →
      ¬ Leads store bindings other key)
    (listed : early ∈ keysOf bindings) :
    Decided store bindings early late (keysOf bindings)
      (keysOf (dependencyOrder store bindings)) := by
  obtain ⟨start, there, rfl⟩ := List.mem_map.mp listed
  refine foldl_decides distinct differ acyclic (bindings.length + 1) bindings [] []
    (by simp) ?_ ⟨start, there, .inl .refl⟩
  constructor <;> simp [keysOf, Complete]

end LuaBinder.LuaModule
