import LuaBinder.LuaModule.Order
import Mathlib.Data.List.Nodup
import Mathlib.Data.List.Basic
import Mathlib.Logic.Relation

namespace LuaBinder.LuaModule

open Relation

/-! The order of declarations comes from a search in depth: a declaration is listed as
soon as the search of those it depends on has ended. -/

theorem idxOf_append_lt {front back : List String} {early late : String}
    (before : front.idxOf early < front.idxOf late) :
    (front ++ back).idxOf early < (front ++ back).idxOf late := by
  have found : early ∈ front :=
    List.idxOf_lt_length_iff.mp (Nat.lt_of_lt_of_le before List.idxOf_le_length)
  rw [List.idxOf_append_of_mem found]
  by_cases other : late ∈ front
  · rwa [List.idxOf_append_of_mem other]
  · have within := List.idxOf_lt_length_iff.mpr found
    rw [List.idxOf_append_of_notMem other]
    omega

def keysOf (bindings : List Binding) : List String := bindings.map (·.1)

@[simp] theorem keysOf_append (front back : List Binding) :
    keysOf (front ++ back) = keysOf front ++ keysOf back :=
  List.map_append

@[simp] theorem keysOf_cons (binding : Binding) (rest : List Binding) :
    keysOf (binding :: rest) = binding.1 :: keysOf rest :=
  rfl

theorem mem_keysOf {bindings : List Binding} {binding : Binding}
    (listed : binding ∈ bindings) : binding.1 ∈ keysOf bindings :=
  List.mem_map_of_mem listed

/-- A listed declaration depends on another one of the list. -/
def Depends (store : Store) (bindings : List Binding) (key other : String) : Prop :=
  ∃ d, (key, d) ∈ bindings ∧ other ∈ dependencies store d ∧ other ∈ keysOf bindings

abbrev Leads (store : Store) (bindings : List Binding) : String → String → Prop :=
  ReflTransGen (Depends store bindings)

/-- The listed declarations that one depends on. -/
def needs (store : Store) (bindings : List Binding) (d : Declaration) : List Binding :=
  (dependencies store d).filterMap fun key => bindings.find? (·.1 == key)

variable {store : Store} {bindings : List Binding}

theorem eq_of_mem_of_key (distinct : (keysOf bindings).Nodup) {key : String}
    {d other : Declaration} (first : (key, d) ∈ bindings) (second : (key, other) ∈ bindings) :
    d = other :=
  congrArg Prod.snd (List.inj_on_of_nodup_map distinct first second rfl)

theorem mem_needs_iff (distinct : (keysOf bindings).Nodup) {d : Declaration}
    {binding : Binding} :
    binding ∈ needs store bindings d ↔
      binding.1 ∈ dependencies store d ∧ binding ∈ bindings := by
  simp only [needs, List.mem_filterMap]
  constructor
  · intro given
    obtain ⟨key, needed, found⟩ := given
    obtain rfl : binding.1 = key := by simpa using List.find?_some found
    exact ⟨needed, List.mem_of_find?_eq_some found⟩
  · intro given
    obtain ⟨needed, listed⟩ := given
    refine ⟨binding.1, needed, ?_⟩
    have some : (bindings.find? (·.1 == binding.1)).isSome := by
      simpa using ⟨binding.2, listed⟩
    obtain ⟨other, found⟩ := Option.isSome_iff_exists.mp some
    have same : other.1 = binding.1 := by simpa using List.find?_some found
    rw [found, List.inj_on_of_nodup_map distinct (List.mem_of_find?_eq_some found) listed same]

theorem depends_iff_mem_needs (distinct : (keysOf bindings).Nodup) {key other : String}
    {d : Declaration} (listed : (key, d) ∈ bindings) :
    Depends store bindings key other ↔ other ∈ keysOf (needs store bindings d) := by
  constructor
  · intro depends
    obtain ⟨own, found, needed, known⟩ := depends
    obtain rfl := eq_of_mem_of_key distinct listed found
    obtain ⟨binding, there, rfl⟩ := List.mem_map.mp known
    exact mem_keysOf ((mem_needs_iff distinct).mpr ⟨needed, there⟩)
  · intro member
    obtain ⟨binding, needed, rfl⟩ := List.mem_map.mp member
    obtain ⟨depended, there⟩ := (mem_needs_iff distinct).mp needed
    exact ⟨d, listed, depended, mem_keysOf there⟩

theorem visit_succ (fuel : Nat) (active : List String) (ordered : List Binding)
    (binding : Binding) :
    visit store bindings (fuel + 1) active ordered binding =
      if binding.1 ∈ keysOf ordered ∨ binding.1 ∈ active then ordered
      else (needs store bindings binding.2).foldl
        (visit store bindings fuel (binding.1 :: active)) ordered ++ [binding] := by
  have same : (ordered.any (·.1 == binding.1) || active.contains binding.1) = true ↔
      binding.1 ∈ keysOf ordered ∨ binding.1 ∈ active := by
    simp [keysOf, List.any_eq_true]
  simp only [visit, same, needs]

/-- What a search from the starts adds, while the declarations on its path wait. -/
structure Search (store : Store) (bindings : List Binding) (active starts : List String)
    (ordered added : List Binding) : Prop where
  listed : added ⊆ bindings
  distinct : (keysOf (ordered ++ added)).Nodup
  apart : ∀ key ∈ keysOf added, key ∉ active
  reached : ∀ key ∈ keysOf added, ∃ start ∈ starts, Leads store bindings start key
  arrived : ∀ start ∈ starts, start ∈ active ∨ start ∈ keysOf (ordered ++ added)
  closed : ∀ key ∈ keysOf added, ∀ other, Depends store bindings key other →
    other ∈ active ∨ other ∈ keysOf (ordered ++ added)
  settled : ∀ key ∈ keysOf added, ∀ other, Depends store bindings key other →
    Leads store bindings other key ∨
      (keysOf (ordered ++ added)).idxOf other < (keysOf (ordered ++ added)).idxOf key

namespace Search

variable {active starts more : List String} {ordered added further : List Binding}

theorem none (distinct : (keysOf ordered).Nodup)
    (arrived : ∀ start ∈ starts, start ∈ active ∨ start ∈ keysOf ordered) :
    Search store bindings active starts ordered [] where
  listed := List.nil_subset _
  distinct := by simpa using distinct
  apart := by simp [keysOf]
  reached := by simp [keysOf]
  arrived := by simpa using arrived
  closed := by simp [keysOf]
  settled := by simp [keysOf]

theorem append (first : Search store bindings active starts ordered added)
    (second : Search store bindings active more (ordered ++ added) further) :
    Search store bindings active (starts ++ more) ordered (added ++ further) where
  listed := List.append_subset.mpr ⟨first.listed, second.listed⟩
  distinct := by simpa [List.append_assoc] using second.distinct
  apart := by
    intro key member
    rcases List.mem_append.mp (keysOf_append _ _ ▸ member) with member | member
    · exact first.apart key member
    · exact second.apart key member
  reached := by
    intro key member
    rcases List.mem_append.mp (keysOf_append _ _ ▸ member) with member | member
    · obtain ⟨start, given, leads⟩ := first.reached key member
      exact ⟨start, List.mem_append_left _ given, leads⟩
    · obtain ⟨start, given, leads⟩ := second.reached key member
      exact ⟨start, List.mem_append_right _ given, leads⟩
  arrived := by
    intro start given
    rw [← List.append_assoc, keysOf_append]
    rcases List.mem_append.mp given with given | given
    · exact (first.arrived start given).imp_right (List.mem_append_left _)
    · exact (second.arrived start given).imp_right fun there => by rwa [← keysOf_append]
  closed := by
    intro key member other depends
    rw [← List.append_assoc, keysOf_append]
    rcases List.mem_append.mp (keysOf_append _ _ ▸ member) with member | member
    · exact (first.closed key member other depends).imp_right (List.mem_append_left _)
    · exact (second.closed key member other depends).imp_right fun there => by
        rwa [← keysOf_append]
  settled := by
    intro key member other depends
    rw [← List.append_assoc, keysOf_append]
    rcases List.mem_append.mp (keysOf_append _ _ ▸ member) with member | member
    · exact (first.settled key member other depends).imp_right idxOf_append_lt
    · exact (second.settled key member other depends).imp_right fun before => by
        rwa [← keysOf_append]

/-- A declaration is listed after the search of those that it depends on. -/
theorem close (distinct : (keysOf bindings).Nodup) {binding : Binding}
    (there : binding ∈ bindings)
    (waiting : ∀ key ∈ active, Leads store bindings key binding.1)
    (fresh : binding.1 ∉ keysOf ordered) (off : binding.1 ∉ active)
    (inner : Search store bindings (binding.1 :: active)
      (keysOf (needs store bindings binding.2)) ordered added) :
    Search store bindings active [binding.1] ordered (added ++ [binding]) := by
  have absent : binding.1 ∉ keysOf (ordered ++ added) := by
    rw [keysOf_append, List.mem_append, not_or]
    exact ⟨fresh, fun member => inner.apart _ member List.mem_cons_self⟩
  have whole : keysOf (ordered ++ (added ++ [binding])) =
      keysOf (ordered ++ added) ++ [binding.1] := by
    rw [← List.append_assoc, keysOf_append]
    rfl
  have cases_added {key : String} (member : key ∈ keysOf (added ++ [binding])) :
      key ∈ keysOf added ∨ key = binding.1 := by
    simpa [keysOf] using member
  have direct {other : String} (depends : Depends store bindings binding.1 other) :
      other ∈ binding.1 :: active ∨ other ∈ keysOf (ordered ++ added) :=
    inner.arrived other ((depends_iff_mem_needs distinct there).mp depends)
  have spread {other : String} (given : other ∈ binding.1 :: active ∨
      other ∈ keysOf (ordered ++ added)) :
      other ∈ active ∨ other ∈ keysOf (ordered ++ added) ++ [binding.1] := by
    rw [List.mem_cons] at given
    rcases given with (rfl | given) | given
    · exact .inr (by simp)
    · exact .inl given
    · exact .inr (List.mem_append_left _ given)
  constructor
  case listed =>
    exact List.append_subset.mpr ⟨inner.listed, by simpa using there⟩
  case distinct =>
    rw [whole]
    exact List.nodup_append.mpr ⟨inner.distinct, List.nodup_singleton _, by
      rintro key member other same rfl
      exact absent (List.mem_singleton.mp same ▸ member)⟩
  case apart =>
    intro key member
    rcases cases_added member with member | rfl
    · exact fun waits => inner.apart key member (List.mem_cons_of_mem _ waits)
    · exact off
  case reached =>
    intro key member
    refine ⟨binding.1, List.mem_singleton_self _, ?_⟩
    rcases cases_added member with member | rfl
    · obtain ⟨start, given, leads⟩ := inner.reached key member
      exact .head ((depends_iff_mem_needs distinct there).mpr given) leads
    · exact .refl
  case arrived =>
    intro start given
    rw [whole, List.mem_singleton.mp given]
    exact .inr (by simp)
  case closed =>
    intro key member other depends
    rw [whole]
    rcases cases_added member with member | rfl
    · exact spread (inner.closed key member other depends)
    · exact spread (direct depends)
  case settled =>
    intro key member other depends
    rw [whole]
    rcases cases_added member with member | rfl
    · exact (inner.settled key member other depends).imp_right idxOf_append_lt
    · rcases direct depends with waits | found
      · rcases List.mem_cons.mp waits with rfl | waits
        · exact .inl .refl
        · exact .inl (waiting other waits)
      · refine .inr ?_
        rw [List.idxOf_append_of_mem found, List.idxOf_append_of_notMem absent]
        have within := List.idxOf_lt_length_iff.mpr found
        omega

end Search

section

variable {active : List String} {ordered : List Binding} {fuel : Nat}

/-- Searches one after the other, each while the same declarations wait. -/
theorem exists_search_foldl {step : List Binding → Binding → List Binding}
    (each : ∀ binding ∈ starts, ∀ ordered, (keysOf ordered).Nodup →
      ∃ added, step ordered binding = ordered ++ added ∧
        Search store bindings active [binding.1] ordered added)
    (distinct : (keysOf ordered).Nodup) :
    ∃ added, starts.foldl step ordered = ordered ++ added ∧
      Search store bindings active (keysOf starts) ordered added := by
  induction starts generalizing ordered with
  | nil => exact ⟨[], by simp, .none distinct (by simp [keysOf])⟩
  | cons first rest induction =>
      obtain ⟨added, found, search⟩ := each first List.mem_cons_self ordered distinct
      obtain ⟨further, done, searches⟩ := induction
        (fun binding member => each binding (List.mem_cons_of_mem _ member)) search.distinct
      exact ⟨added ++ further, by rw [List.foldl_cons, found, done, List.append_assoc],
        search.append searches⟩

/-- The path of a search has no declaration twice, so the bound suffices. -/
theorem exists_search_visit (distinct : (keysOf bindings).Nodup) {binding : Binding}
    (there : binding ∈ bindings) (path : active.Nodup) (within : active ⊆ keysOf bindings)
    (enough : bindings.length < fuel + active.length)
    (waiting : ∀ key ∈ active, Leads store bindings key binding.1)
    (once : (keysOf ordered).Nodup) :
    ∃ added, visit store bindings fuel active ordered binding = ordered ++ added ∧
      Search store bindings active [binding.1] ordered added := by
  induction fuel generalizing active ordered binding with
  | zero =>
      have short := path.length_le_of_subset within
      simp only [keysOf, List.length_map] at short
      omega
  | succ fuel induction =>
      rw [visit_succ]
      split
      · rename_i known
        refine ⟨[], by simp, .none once ?_⟩
        simpa [or_comm] using known
      · rename_i new
        rw [not_or] at new
        have inner : ∃ added, (needs store bindings binding.2).foldl
            (visit store bindings fuel (binding.1 :: active)) ordered = ordered ++ added ∧
            Search store bindings (binding.1 :: active)
              (keysOf (needs store bindings binding.2)) ordered added := by
          refine exists_search_foldl (fun other needed ordered once => ?_) once
          have depends : Depends store bindings binding.1 other.1 :=
            (depends_iff_mem_needs distinct there).mpr (mem_keysOf needed)
          refine induction ((mem_needs_iff distinct).mp needed).2
            (List.nodup_cons.mpr ⟨new.2, path⟩)
            (List.cons_subset.mpr ⟨mem_keysOf there, within⟩) ?_ ?_ once
          · simp only [List.length_cons]
            omega
          · intro key waits
            rcases List.mem_cons.mp waits with rfl | waits
            · exact .single depends
            · exact (waiting key waits).tail depends
        obtain ⟨added, found, search⟩ := inner
        exact ⟨added ++ [binding], by rw [found, List.append_assoc],
          search.close distinct there waiting new.1 new.2⟩

/-- The whole order is a search from each declaration in turn. -/
theorem dependencyOrder_search (distinct : (keysOf bindings).Nodup) :
    Search store bindings [] (keysOf bindings) [] (dependencyOrder store bindings) := by
  have searched : ∃ added, bindings.foldl (visit store bindings (bindings.length + 1) []) [] =
      [] ++ added ∧ Search store bindings [] (keysOf bindings) [] added := by
    refine exists_search_foldl (fun binding there ordered once => ?_) List.nodup_nil
    exact exists_search_visit distinct there List.nodup_nil (List.nil_subset _) (by simp)
      (by simp) once
  obtain ⟨added, found, search⟩ := searched
  rw [dependencyOrder, found, List.nil_append]
  exact search

end

/-- The order loses nothing and repeats nothing. -/
theorem dependencyOrder_perm (distinct : (keysOf bindings).Nodup) :
    (dependencyOrder store bindings).Perm bindings := by
  have search : Search store bindings [] _ _ _ := dependencyOrder_search distinct
  have once : (dependencyOrder store bindings).Nodup := List.Nodup.of_map _ search.distinct
  refine (List.perm_ext_iff_of_nodup once (List.Nodup.of_map _ distinct)).mpr fun binding => ?_
  constructor
  · exact fun member => search.listed member
  · intro there
    have arrived : binding.1 ∈ keysOf (dependencyOrder store bindings) := by
      simpa using search.arrived binding.1 (mem_keysOf there)
    obtain ⟨other, member, same⟩ := List.mem_map.mp arrived
    rwa [← List.inj_on_of_nodup_map distinct (search.listed member) there same]

/-- What a declaration depends on comes before it, unless that leads back to it. -/
theorem idxOf_lt_of_depends (distinct : (keysOf bindings).Nodup) {key other : String}
    (depends : Depends store bindings key other) (apart : ¬ Leads store bindings other key) :
    (keysOf (dependencyOrder store bindings)).idxOf other <
      (keysOf (dependencyOrder store bindings)).idxOf key := by
  obtain ⟨d, there, -⟩ := id depends
  have member : key ∈ keysOf (dependencyOrder store bindings) :=
    mem_keysOf ((dependencyOrder_perm distinct).mem_iff.mpr there)
  have search : Search store bindings [] _ _ _ := dependencyOrder_search distinct
  simpa using (search.settled key member other depends).resolve_left apart

end LuaBinder.LuaModule
