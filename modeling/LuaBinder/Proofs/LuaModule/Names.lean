import LuaBinder.LuaModule.Layout
import Mathlib.Data.List.Nodup
import Mathlib.Data.List.Pairwise
import Mathlib.Data.List.Perm.Basic

namespace LuaBinder.LuaModule

/-! The names that a layout grants are distinct, and so are the fields that they are for. -/

/-- The fields of `M` for a declaration that has its names. -/
def fieldsOf (d : Declaration) : List String :=
  match d.body with
  | .global _ const _ => ("get_" ++ d.name) :: if const then [] else ["set_" ++ d.name]
  | _ => [d.name]

theorem getter_ne_setter (name : String) : "get_" ++ name ≠ "set_" ++ name := by
  intro same
  have texts := congrArg String.toList same
  simp at texts

theorem accessor_ne (front name : String) (given : front ≠ "") : name ≠ front ++ name := by
  intro same
  have texts := congrArg (List.length ∘ String.toList) same
  have empty : front.toList ≠ [] := by simpa using given
  have positive := List.length_pos_iff.mpr empty
  simp only [Function.comp_apply, String.toList_append, List.length_append] at texts
  omega

namespace Candidate

def Admitted (c : Candidate) : Prop := c.place.admits c.binding.2 = true

theorem nodup_names (c : Candidate) : c.names.Nodup := by
  have getter := accessor_ne "get_" c.binding.2.name (by decide)
  have setter := accessor_ne "set_" c.binding.2.name (by decide)
  have apart := getter_ne_setter c.binding.2.name
  rw [names]
  cases c.place <;> simp [Section.needs, getter, setter, apart]

/-- The fields for a candidate that has its names. -/
def fields (c : Candidate) : List String := fieldsOf c.binding.2

theorem Admitted.fields_sublist {c : Candidate} (admitted : c.Admitted) :
    c.fields.Sublist c.names := by
  obtain ⟨place, key, d⟩ := c
  simp only [Admitted, Section.admits] at admitted
  simp only [fields, names, Section.needs, fieldsOf]
  cases place <;> cases body : d.body <;> simp_all

end Candidate

namespace Layout

/-- No two names that are granted are the same, and all candidates were admitted. -/
structure Granting (layout : Layout) : Prop where
  nodup : layout.taken.Nodup
  admitted : ∀ c ∈ layout.exposed, c.Admitted

theorem Granting.grant {layout : Layout} (granting : layout.Granting) {c : Candidate}
    (admitted : c.Admitted) : (layout.grant c).Granting := by
  rw [Layout.grant]
  split_ifs with taken
  · exact ⟨granting.nodup, granting.admitted⟩
  · constructor
    · rw [Layout.taken, List.flatMap_append, List.flatMap_singleton]
      refine List.Nodup.append granting.nodup c.nodup_names fun name held wanted => taken ?_
      exact List.any_eq_true.mpr ⟨name, wanted, List.contains_iff_mem.mpr held⟩
    · exact List.forall_mem_append.mpr
        ⟨granting.admitted, List.forall_mem_singleton.mpr admitted⟩

theorem admitted_candidates (bindings : List Binding) : ∀ c ∈ candidates bindings, c.Admitted := by
  intro c member
  obtain ⟨s, -, listed⟩ := List.mem_flatMap.mp member
  obtain ⟨binding, admitted, rfl⟩ := List.mem_map.mp listed
  exact (List.mem_filter.mp admitted).2

theorem Granting.foldl {cs : List Candidate} (admitted : ∀ c ∈ cs, c.Admitted)
    {layout : Layout} (granting : layout.Granting) : (cs.foldl Layout.grant layout).Granting := by
  induction cs generalizing layout with
  | nil => exact granting
  | cons c rest induction =>
      obtain ⟨first, others⟩ := List.forall_mem_cons.mp admitted
      exact induction others (granting.grant first)

theorem granting_of (bindings : List Binding) : (Layout.of bindings).Granting :=
  Granting.foldl (admitted_candidates bindings)
    ⟨List.nodup_nil, fun _ member => nomatch member⟩

theorem exposed_foldl_subset (cs : List Candidate) (layout : Layout) :
    (cs.foldl Layout.grant layout).exposed ⊆ layout.exposed ++ cs := by
  induction cs generalizing layout with
  | nil => simp
  | cons c rest induction =>
      refine List.Subset.trans (induction (layout.grant c)) ?_
      rw [Layout.grant]
      split_ifs
      · exact List.append_subset.mpr ⟨List.subset_append_left _ _,
          List.subset_append_of_subset_right _ (List.subset_cons_self c rest)⟩
      · rw [List.append_assoc, List.singleton_append]
        exact List.Subset.refl _

theorem mem_of_within {bindings : List Binding} {s : Section} {binding : Binding}
    (member : binding ∈ (Layout.of bindings).within s) :
    binding ∈ bindings ∧ s.admits binding.2 = true ∧ ⟨s, binding⟩ ∈ (Layout.of bindings).exposed := by
  obtain ⟨c, here, rfl⟩ := List.mem_map.mp member
  obtain ⟨exposed, place⟩ := List.mem_filter.mp here
  obtain rfl := eq_of_beq place
  have candidate : c ∈ candidates bindings := exposed_foldl_subset (candidates bindings) {} exposed
  obtain ⟨place, -, listed⟩ := List.mem_flatMap.mp candidate
  obtain ⟨binding, admitted, rfl⟩ := List.mem_map.mp listed
  obtain ⟨given, admits⟩ := List.mem_filter.mp admitted
  exact ⟨given, admits, exposed⟩

/-- The sections together show the exposed candidates, each in its place. -/
theorem flatMap_within_perm (layout : Layout) :
    (Section.all.flatMap layout.within).Perm (layout.exposed.map (·.binding)) := by
  have split : layout.within = fun s =>
      layout.exposed.flatMap fun c => if c.place == s then [c.binding] else [] := by
    funext s
    rw [within]
    induction layout.exposed with
    | nil => rfl
    | cons c rest induction =>
        rw [List.filter_cons, List.flatMap_cons]
        split_ifs with here
        · rw [List.map_cons, induction, List.singleton_append]
        · exact induction
  rw [split]
  induction layout.exposed with
  | nil => simp [Section.all]
  | cons c rest induction =>
      have own : (Section.all.flatMap fun s => if c.place == s then [c.binding] else []) =
          [c.binding] := by
        cases c.place <;> simp [Section.all]
      simp only [List.flatMap_cons, List.map_cons]
      refine (List.flatMap_append_perm _ _ _).symm.trans ?_
      rw [own]
      exact induction.append_left [c.binding]

/-- Section by section, the fields of every granted candidate come once. -/
theorem perm_within (layout : Layout) :
    (Section.all.flatMap fun s => (layout.within s).flatMap fun binding => fieldsOf binding.2).Perm
      (layout.exposed.flatMap Candidate.fields) := by
  have gathered := (flatMap_within_perm layout).flatMap_right fun binding => fieldsOf binding.2
  rwa [List.flatMap_assoc, List.flatMap_map] at gathered

theorem fields_sublist_taken {cs : List Candidate} (admitted : ∀ c ∈ cs, c.Admitted) :
    (cs.flatMap Candidate.fields).Sublist (cs.flatMap Candidate.names) := by
  induction cs with
  | nil => exact List.Sublist.slnil
  | cons c rest induction =>
      obtain ⟨first, others⟩ := List.forall_mem_cons.mp admitted
      exact first.fields_sublist.append (induction others)

/-- A granted name stands for a field of the candidate that has it, or of none. -/
theorem mem_fields_iff {layout : Layout} (granting : layout.Granting) {c : Candidate}
    (exposed : c ∈ layout.exposed) {name : String} (named : name ∈ c.names) :
    name ∈ layout.exposed.flatMap Candidate.fields ↔ name ∈ c.fields := by
  refine ⟨fun member => ?_, fun own => List.mem_flatMap.mpr ⟨c, exposed, own⟩⟩
  obtain ⟨other, listed, own⟩ := List.mem_flatMap.mp member
  by_cases same : c = other
  · rwa [same]
  · have symmetric : Std.Symm (Function.onFun List.Disjoint Candidate.names) :=
      ⟨fun _ _ disjoint name first second => disjoint second first⟩
    have apart : List.Disjoint c.names other.names :=
      (List.nodup_flatMap.mp granting.nodup).2.forall exposed listed same
    exact absurd ((granting.admitted other listed).fields_sublist.mem own) (apart named)

end Layout

end LuaBinder.LuaModule
