import LuaBinder.Proofs.Session.Nesting

namespace LuaBinder

open Header

/-! Two numbers that bound how deep builds nest: what is left to publish, and the
records that are left to clear. -/

namespace Header.Forest

variable {forest : Forest} {store grown : Store} {number : Nat}

/-- The numbers of the declarations that are not published; the last one stands for all
that refer to none. -/
def unpublished (forest : Forest) (store : Store) : List Nat :=
  (List.range (forest.size + 1)).filter fun number =>
    (forest.cursor number).usr ∉ store.keys

theorem length_unpublished_le (forest : Forest) (store : Store) :
    (forest.unpublished store).length ≤ forest.size + 1 := by
  simpa [unpublished] using
    List.length_filter_le (fun number => decide ((forest.cursor number).usr ∉ store.keys))
      (List.range (forest.size + 1))

theorem unpublished_sublist (extended : store.keys ⊆ grown.keys) :
    (forest.unpublished grown).Sublist (forest.unpublished store) := by
  refine List.monotone_filter_right _ fun number absent => ?_
  simp only [decide_eq_true_eq] at absent ⊢
  exact fun published => absent (extended published)

/-- All numbers beyond the forest refer to the same. -/
theorem exists_mem_range (forest : Forest) (number : Nat) :
    ∃ other ∈ List.range (forest.size + 1), forest.cursor other = forest.cursor number := by
  by_cases inside : number < forest.size + 1
  · exact ⟨number, by simpa using inside, rfl⟩
  · refine ⟨forest.size, by simp, ?_⟩
    have past : forest.cursors.size ≤ number := by simp only [size] at inside; omega
    simp [cursor, size, Array.getElem?_eq_none past]

theorem length_unpublished_lt (extended : store.keys ⊆ grown.keys)
    (absent : (forest.cursor number).usr ∉ store.keys)
    (published : (forest.cursor number).usr ∈ grown.keys) :
    (forest.unpublished grown).length < (forest.unpublished store).length := by
  have sublist : (forest.unpublished grown).Sublist (forest.unpublished store) :=
    unpublished_sublist extended
  refine Nat.lt_of_le_of_ne sublist.length_le fun same => ?_
  obtain ⟨other, inside, equal⟩ := exists_mem_range forest number
  have pending : other ∈ forest.unpublished store := by
    simp [unpublished, equal, absent, List.mem_range.mp inside]
  rw [← sublist.eq_of_length same] at pending
  simp [unpublished, equal, published] at pending

end Header.Forest

namespace Store

variable {store : Store} {cleared : List String} {key : String} {members : List Member}

def isCompleteRecord : Body → Bool
  | .record _ false _ => true
  | _ => false

def completeRecords (store : Store) : List String :=
  (store.entries.filter fun entry => isCompleteRecord entry.2.body).map (·.1)

theorem length_completeRecords_le : store.completeRecords.length ≤ store.size := by
  simpa [completeRecords, size] using List.length_filter_le _ store.entries

theorem isCompleteRecord_clearRecord (body : Body) :
    isCompleteRecord (Session.clearRecord body) = false := by
  cases body <;> rfl

theorem completeRecords_clear :
    (store.clear cleared).completeRecords = store.completeRecords.filter (· ∉ cleared) := by
  unfold completeRecords clear mapBodies
  rw [List.filter_map, List.filter_map, List.map_map, List.filter_filter]
  congr 1
  refine List.filter_congr fun entry _ => ?_
  by_cases member : entry.1 ∈ cleared
  · simp [member, isCompleteRecord_clearRecord]
  · simp [member]

theorem length_completeRecords_clear_le :
    (store.clear cleared).completeRecords.length ≤ store.completeRecords.length := by
  rw [completeRecords_clear]
  exact List.length_filter_le _ _

theorem Complete.mem_completeRecords (complete : store.Complete key members) :
    key ∈ store.completeRecords := by
  obtain ⟨kind, found⟩ := complete
  obtain ⟨d, located, body⟩ := Option.map_eq_some_iff.mp found
  refine List.mem_map.mpr ⟨(key, d), ?_, rfl⟩
  simp [mem_entries_of_lookup? located, body, isCompleteRecord]

theorem Complete.length_completeRecords_clear_lt (complete : store.Complete key members) :
    (store.clear [key]).completeRecords.length < store.completeRecords.length := by
  rw [completeRecords_clear, List.length_filter_lt_length_iff_exists]
  exact ⟨key, complete.mem_completeRecords, by simp⟩

end Store

namespace Session

open Store

variable {forest : Forest} {s : Session}

@[simp] theorem ensures_diagnose {name usr message : String} {reason : Reason}
    {good : Unit → Session → Prop} {bad : Error → Session → Prop} :
    (diagnose name usr reason message).Ensures forest s good bad ↔
      good () ((diagnose name usr reason message).run forest s).2 := Iff.rfl

/-- At most so many records are complete. -/
def Clearable (fuel : Nat) (s : Session) : Prop := s.store.completeRecords.length ≤ fuel

theorem clearHolder_succeeds {fuel : Nat} {usr holder : String}
    (nested : ∀ usr problem s, (s.store.clear [usr]).completeRecords.length < fuel →
      (makeOpaque fuel usr problem).Ensures forest s (fun _ _ => True) fun _ _ => False)
    (clearable : s.Clearable fuel) :
    (clearHolder fuel usr holder).Ensures forest s (fun _ after => after.Clearable fuel)
      fun _ _ => False := by
  simp only [clearHolder, Step.ensures_bind, ensures_lookup?]
  cases found : s.store.lookup? holder with
  | none => exact clearable
  | some d =>
      simp only [Step.ensures_bind, ensures_getStore]
      cases held : heldMember? s.store usr d with
      | none => exact clearable
      | some m =>
          obtain ⟨members, complete, -⟩ := holds_of_heldMember? found held
          have fewer := complete.length_completeRecords_clear_lt
          simp only [Step.ensures_bind, ensures_debug]
          refine ((makeOpaque_ensures fuel holder _ _).and (nested holder _ _ ?_)).imp ?_ ?_
          · exact Nat.lt_of_lt_of_le fewer clearable
          · intro _ after given
            obtain ⟨⟨-, cleared, result, -⟩, -⟩ := given
            rw [Clearable, result]
            exact Nat.le_trans length_completeRecords_clear_le clearable
          · exact fun _ _ failed => failed.2

/-- A holder is complete before it is cleared, so as many nested clearings are enough as
there are complete records. -/
theorem makeOpaque_succeeds (fuel : Nat) (usr problem : String) (s : Session)
    (enough : (s.store.clear [usr]).completeRecords.length < fuel) :
    (makeOpaque fuel usr problem).Ensures forest s (fun _ _ => True) fun _ _ => False := by
  induction fuel generalizing usr problem s with
  | zero => omega
  | succ fuel induction =>
      simp only [makeOpaque, Step.ensures_bind, ensures_amend, ensures_lookup?,
        modify_clearRecord, ensures_diagnose, ensures_getStore]
      refine (ensures_forM _ (fun _ current => current.Clearable fuel)
        (Nat.lt_succ_iff.mp enough)
        fun _ holder _ _ _ clearable => clearHolder_succeeds induction clearable).imp ?_ ?_
      · exact fun _ _ _ => trivial
      · exact fun _ _ failed => failed

/-- The fuel that a build gives to the clearing of a record is enough. -/
theorem makeOpaque_succeeds_of_size (usr problem : String) (s : Session) :
    (makeOpaque (s.store.size + 1) usr problem).Ensures forest s (fun _ _ => True)
      fun _ _ => False := by
  refine makeOpaque_succeeds _ usr problem s (Nat.lt_succ_of_le ?_)
  exact Nat.le_trans length_completeRecords_clear_le length_completeRecords_le

end Session

end LuaBinder
