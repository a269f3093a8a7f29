import LuaBinder.Proofs.LuaModule.Names
import LuaBinder.Proofs.LuaModule.Sections

namespace LuaBinder.LuaModule

/-! Who gets the names of a module: the first candidate that needs them. -/

/-- The section that a declaration belongs to. An enumeration without known constants has
none. -/
def sectionOf? (d : Declaration) : Option Section :=
  match d.body with
  | .function _ => some .functions
  | .enumeration incomplete _ => if incomplete then none else some .enums
  | .constant _ _ => some .constants
  | .record _ _ _ => some .types
  | .typedef _ => some .types
  | .global _ _ _ => some .globals
  | .interface _ _ _ => some .classes

theorem admits_eq (s : Section) (d : Declaration) :
    s.admits d = decide (sectionOf? d = some s) := by
  unfold Section.admits sectionOf?
  cases d.body with
  | enumeration incomplete constants => cases s <;> cases incomplete <;> rfl
  | _ => cases s <;> rfl

theorem admits_iff {s : Section} {d : Declaration} :
    s.admits d = true ↔ sectionOf? d = some s := by
  rw [admits_eq, decide_eq_true_eq]

/-- Section by section, and in each as the bindings are listed. -/
theorem candidates_eq (bindings : List Binding) :
    candidates bindings = Section.all.flatMap fun s =>
      (bindings.filter fun binding => sectionOf? binding.2 = some s).map fun binding =>
        ⟨s, binding⟩ := by
  simp only [candidates, admits_eq]

theorem mem_candidates_iff {bindings : List Binding} {c : Candidate} :
    c ∈ candidates bindings ↔ c.binding ∈ bindings ∧ sectionOf? c.binding.2 = some c.place := by
  rw [candidates_eq, List.mem_flatMap]
  constructor
  · rintro ⟨s, -, listed⟩
    obtain ⟨binding, admitted, rfl⟩ := List.mem_map.mp listed
    simpa using admitted
  · rintro ⟨listed, belongs⟩
    exact ⟨c.place, c.place.mem_all, List.mem_map.mpr ⟨c.binding, by simp [listed, belongs], rfl⟩⟩

/-- The entries at the chosen positions. -/
def pick (chosen : Nat → Bool) (entries : List α) : List α :=
  (entries.zipIdx.filter fun entry => chosen entry.2).map Prod.fst

theorem pick_concat (chosen : Nat → Bool) (entries : List α) (entry : α) :
    pick chosen (entries ++ [entry]) =
      pick chosen entries ++ if chosen entries.length then [entry] else [] := by
  rw [pick, List.zipIdx_append, List.filter_append, List.map_append, ← pick]
  cases taken : chosen entries.length <;> simp [taken]

theorem mem_pick {chosen : Nat → Bool} {entries : List α} {entry : α} :
    entry ∈ pick chosen entries ↔ ∃ position, entries[position]? = some entry ∧
      chosen position = true := by
  simp only [pick, List.mem_map, List.mem_filter, Prod.exists, List.mem_zipIdx_iff_getElem?]
  constructor
  · rintro ⟨_, position, ⟨found, taken⟩, rfl⟩
    exact ⟨position, found, taken⟩
  · rintro ⟨position, found, taken⟩
    exact ⟨entry, position, ⟨found, taken⟩, rfl⟩

theorem pick_congr {chosen other : Nat → Bool} {entries : List α}
    (same : ∀ position < entries.length, chosen position = other position) :
    pick chosen entries = pick other entries := by
  refine congrArg (List.map Prod.fst) (List.filter_congr fun entry member => ?_)
  exact same _ (List.snd_lt_of_mem_zipIdx member)

namespace Layout

/-- Whether the candidate at a position gets its names when its turn comes. -/
def servedAt (cs : List Candidate) (position : Nat) : Bool :=
  match cs[position]? with
  | none => false
  | some c => !c.names.any ((cs.take position).foldl grant {}).taken.contains

theorem servedAt_concat (cs : List Candidate) (c : Candidate) {position : Nat}
    (listed : position < cs.length) :
    servedAt (cs ++ [c]) position = servedAt cs position := by
  rw [servedAt, servedAt, List.getElem?_append_left listed,
    List.take_append_of_le_length (Nat.le_of_lt listed)]

theorem servedAt_length (cs : List Candidate) (c : Candidate) :
    servedAt (cs ++ [c]) cs.length = !c.names.any (cs.foldl grant {}).taken.contains := by
  simp [servedAt]

theorem foldl_grant (cs : List Candidate) :
    (cs.foldl grant {}).exposed = pick (servedAt cs) cs ∧
      (cs.foldl grant {}).refused = pick (fun position => !servedAt cs position) cs := by
  induction cs using List.reverseRecOn with
  | nil => exact ⟨rfl, rfl⟩
  | append_singleton cs c induction =>
      have earlier : pick (servedAt (cs ++ [c])) cs = pick (servedAt cs) cs :=
        pick_congr fun position listed => servedAt_concat cs c listed
      have skipped : pick (fun position => !servedAt (cs ++ [c]) position) cs =
          pick (fun position => !servedAt cs position) cs :=
        pick_congr fun position listed => congrArg Bool.not (servedAt_concat cs c listed)
      rw [pick_concat, pick_concat, earlier, skipped, servedAt_length, List.foldl_concat, grant,
        ← induction.1, ← induction.2]
      cases c.names.any (cs.foldl grant {}).taken.contains <;> simp

/-- Who is served, by positions: a candidate none of whose names is needed by one that is
served before it. -/
def Serves (cs : List Candidate) (served : Nat → Bool) : Prop :=
  ∀ position c, cs[position]? = some c →
    (served position = true ↔ ∀ earlier < position, served earlier = true →
      ∀ other, cs[earlier]? = some other → List.Disjoint c.names other.names)

theorem servedAt_take (cs : List Candidate) {position earlier : Nat}
    (before : earlier < position) : servedAt (cs.take position) earlier = servedAt cs earlier := by
  rw [servedAt, servedAt, List.getElem?_take_of_lt before, List.take_take,
    Nat.min_eq_left (Nat.le_of_lt before)]

theorem serves_servedAt (cs : List Candidate) : Serves cs (servedAt cs) := by
  intro position c found
  have taken (name : String) : name ∈ ((cs.take position).foldl grant {}).taken ↔
      ∃ earlier < position, servedAt cs earlier = true ∧
        ∃ other, cs[earlier]? = some other ∧ name ∈ other.names := by
    rw [Layout.taken, (foldl_grant _).1, List.mem_flatMap]
    constructor
    · rintro ⟨other, picked, named⟩
      obtain ⟨earlier, located, served⟩ := mem_pick.mp picked
      have before : earlier < position := (List.getElem?_eq_some_iff.mp located).1.trans_le
        (List.length_take_le _ _)
      rw [servedAt_take cs before] at served
      rw [List.getElem?_take_of_lt before] at located
      exact ⟨earlier, before, served, other, located, named⟩
    · rintro ⟨earlier, before, served, other, located, named⟩
      refine ⟨other, mem_pick.mpr ⟨earlier, ?_, ?_⟩, named⟩
      · rwa [List.getElem?_take_of_lt before]
      · rwa [servedAt_take cs before]
  rw [servedAt, found]
  simp only [Bool.not_eq_true', ← Bool.not_eq_true, List.any_eq_true, List.contains_iff_mem, taken]
  constructor
  · intro free earlier before served other located name own needed
    exact free ⟨name, own, earlier, before, served, other, located, needed⟩
  · rintro disjoint ⟨name, own, earlier, before, served, other, located, needed⟩
    exact disjoint earlier before served other located own needed

theorem mem_within_iff {layout : Layout} {s : Section} {binding : Binding} :
    binding ∈ layout.within s ↔ ⟨s, binding⟩ ∈ layout.exposed := by
  rw [within, List.mem_map]
  constructor
  · rintro ⟨c, here, rfl⟩
    obtain ⟨exposed, place⟩ := List.mem_filter.mp here
    obtain rfl := eq_of_beq place
    exact exposed
  · exact fun exposed => ⟨_, List.mem_filter.mpr ⟨exposed, beq_self_eq_true s⟩, rfl⟩

theorem name_mem_names (c : Candidate) : c.binding.2.name ∈ c.names := by
  rw [Candidate.names]
  cases c.place <;> exact List.mem_cons_self

theorem names_sublist_taken (cs : List Candidate) :
    (cs.map (·.binding.2.name)).Sublist (cs.flatMap Candidate.names) := by
  induction cs with
  | nil => exact List.Sublist.slnil
  | cons c rest induction =>
      exact (List.singleton_sublist.mpr (name_mem_names c)).append induction

/-- A layout in which each name is with the first that needs it. The candidates are considered
one after the other, and exactly those are exposed none of whose names is needed by one that is
exposed before. So no name is granted twice; every exposed binding stands once, under its own
name, in the section that it belongs to; and every other candidate was in the way of one that is
exposed. -/
structure FirstServed (bindings : List Binding) (layout : Layout) : Prop where
  turns : ∃ served, Serves (candidates bindings) served ∧
    layout.exposed = pick served (candidates bindings) ∧
    layout.refused = pick (fun position => !served position) (candidates bindings)
  apart : layout.taken.Nodup
  placed : ∀ s, ∀ binding ∈ layout.within s,
    binding ∈ bindings ∧ sectionOf? binding.2 = some s ∧ binding.2.name ∈ layout.taken
  once : ((Section.all.flatMap layout.within).map fun binding => binding.2.name).Nodup
  settled : ∀ binding ∈ bindings, ∀ s, sectionOf? binding.2 = some s →
    binding ∈ layout.within s ∨ ⟨s, binding⟩ ∈ layout.refused
  barred : ∀ c ∈ layout.refused, ∃ winner ∈ layout.exposed, ∃ name ∈ c.names, name ∈ winner.names

theorem mem_exposed_or_refused {bindings : List Binding} {c : Candidate}
    (listed : c ∈ candidates bindings) :
    c ∈ (Layout.of bindings).exposed ∨ c ∈ (Layout.of bindings).refused := by
  obtain ⟨position, found⟩ := List.mem_iff_getElem?.mp listed
  rw [Layout.of, (foldl_grant _).1, (foldl_grant _).2, mem_pick, mem_pick]
  cases served : servedAt (candidates bindings) position with
  | true => exact .inl ⟨position, found, served⟩
  | false => exact .inr ⟨position, found, by rw [served]; rfl⟩

theorem exists_winner {bindings : List Binding} {c : Candidate}
    (refused : c ∈ (Layout.of bindings).refused) :
    ∃ winner ∈ (Layout.of bindings).exposed, ∃ name ∈ c.names, name ∈ winner.names := by
  rw [Layout.of, (foldl_grant _).2] at refused
  obtain ⟨position, found, skipped⟩ := mem_pick.mp refused
  have serves := serves_servedAt (candidates bindings) position c found
  rw [Bool.not_eq_true'] at skipped
  rw [skipped] at serves
  by_contra free
  refine absurd (serves.mpr fun earlier _ served other located name own needed => free ?_)
    Bool.false_ne_true
  refine ⟨other, ?_, name, own, needed⟩
  rw [Layout.of, (foldl_grant _).1]
  exact mem_pick.mpr ⟨earlier, located, served⟩

end Layout

end LuaBinder.LuaModule
