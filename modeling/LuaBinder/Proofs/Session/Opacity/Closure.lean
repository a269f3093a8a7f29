import LuaBinder.Proofs.Declaration.ByValue
import LuaBinder.Proofs.Session.Conduct
import LuaBinder.Proofs.Session.Fuel

namespace LuaBinder

open Relation

/-! A record that loses its layout takes along exactly those that embed it, directly or
through others, and each of them is reported once. -/

namespace Store

variable {store : Store} {key holder held : String} {members : List Member}
  {cleared others : List String}

/-- A complete record has a member that carries the compound. -/
def Embeds (store : Store) (holder held : String) : Prop :=
  ∃ members, store.Complete holder members ∧ ∃ m ∈ members, store.Carries m.type held

theorem embeds_eq_holds : store.Embeds = store.Holds := by
  funext holder held
  simp only [Embeds, Holds, held?_eq_some_iff_carries]

def hasLayout (store : Store) (key : String) : Bool := (store.body? key).any isCompleteRecord

theorem hasLayout_iff : store.hasLayout key = true ↔ ∃ members, store.Complete key members := by
  unfold hasLayout Complete
  cases found : store.body? key with
  | none => simp
  | some body => rcases body with _ | ⟨kind, _ | _, members⟩ | _ <;> simp [isCompleteRecord]

theorem hasLayout_clear :
    (store.clear cleared).hasLayout key = (store.hasLayout key && key ∉ cleared) := by
  unfold hasLayout
  rw [body?_clear]
  by_cases member : key ∈ cleared
  · cases store.body? key <;> simp [member, isCompleteRecord_clearRecord]
  · simp [member]

theorem Complete.body?_clear (complete : store.Complete key members) (member : key ∈ cleared) :
    ∃ kind, store.body? key = some (.record kind false members) ∧
      (store.clear cleared).body? key = some (.record kind true []) := by
  obtain ⟨kind, found⟩ := complete
  exact ⟨kind, found, by simp [Store.body?_clear, member, found, Session.clearRecord]⟩

/-- Whatever leads to a complete record is complete. -/
theorem hasLayout_of_embeds (complete : store.hasLayout held = true)
    (embeds : ReflTransGen store.Embeds holder held) : store.hasLayout holder = true := by
  cases embeds using ReflTransGen.head_induction_on with
  | refl => exact complete
  | head first _ =>
      obtain ⟨members, own, -⟩ := first
      exact hasLayout_iff.mpr ⟨members, own⟩

theorem clear_congr (same : ∀ key, key ∈ cleared ↔ key ∈ others) :
    store.clear cleared = store.clear others := by
  simp only [clear, same]

theorem Clears.mem_iff (clears : store.Clears held cleared) :
    key ∈ cleared ↔ ReflTransGen store.Embeds key held := by
  rw [embeds_eq_holds]
  exact ⟨clears.holding key, clears.mem⟩

end Store

namespace Session

open Header Store

variable {forest : Forest} {s middle after : Session} {told more : List Diagnostic}
  {usr holder problem : String} {fuel : Nat}

/-- Each record that has lost its layout is reported, once, and nothing else is. -/
structure Reports (s after : Session) (told : List Diagnostic) : Prop where
  diagnostics : after.diagnostics = s.diagnostics ++ told
  reason : ∀ d ∈ told, d.reason = .unsupportedMember
  balance : ∀ key, (told.map (·.usr)).count key + (after.store.hasLayout key).toNat =
    (s.store.hasLayout key).toNat
  lines : after.log.filter LogRecord.tellsRecord = s.log.filter LogRecord.tellsRecord

namespace Reports

theorem refl (s : Session) : Reports s s [] where
  diagnostics := (List.append_nil _).symm
  reason := by simp
  balance := by simp
  lines := rfl

theorem trans (first : Reports s middle told) (second : Reports middle after more) :
    Reports s after (told ++ more) where
  diagnostics := by rw [second.diagnostics, first.diagnostics, List.append_assoc]
  reason := by
    intro d member
    exact (List.mem_append.mp member).elim (first.reason d) (second.reason d)
  balance := by
    intro key
    have before := first.balance key
    have later := second.balance key
    rw [List.map_append, List.count_append]
    omega
  lines := second.lines.trans first.lines

theorem log {line : LogRecord} (silent : line.tellsRecord = false) :
    Reports s { s with log := s.log ++ [line] } [] where
  diagnostics := (List.append_nil _).symm
  reason := by simp
  balance := by simp
  lines := by simp [silent]

/-- The record itself is cleared and reported first. -/
theorem clear (complete : s.store.hasLayout usr = true) {d : Diagnostic} (own : d.usr = usr)
    (reason : d.reason = .unsupportedMember) :
    Reports s { s with store := s.store.clear [usr], diagnostics := s.diagnostics ++ [d] }
      [d] where
  diagnostics := rfl
  reason := by simpa using reason
  balance := by
    intro key
    by_cases same : key = usr
    · subst same
      simp [own, hasLayout_clear, complete]
    · have differs : ¬ usr = key := fun equal => same equal.symm
      simp [own, hasLayout_clear, same, differs]
  lines := rfl

/-- The reports are those of the records that have been cleared. -/
theorem count_eq {cleared : List String} (reports : Reports s after told)
    (result : after.store = s.store.clear cleared)
    (complete : ∀ key ∈ cleared, s.store.hasLayout key = true) (key : String) :
    (told.map (·.usr)).count key = if key ∈ cleared then 1 else 0 := by
  have balance := reports.balance key
  rw [result, hasLayout_clear] at balance
  by_cases member : key ∈ cleared
  · simpa [member, complete key member] using balance
  · simpa [member] using balance

end Reports

theorem Step.Ensures.exists_ok {step : Step Unit} {good : Unit → Session → Prop}
    {bad : Error → Session → Prop} (ensured : step.Ensures forest s good bad)
    (fails : ∀ error after, ¬ bad error after) :
    (step.run forest s).1 = .ok () ∧ good () (step.run forest s).2 := by
  unfold Step.Ensures at ensured
  split at ensured
  · rename_i value after result
    rw [result]
    exact ⟨rfl, ensured⟩
  · exact absurd ensured (fails _ _)

/-- What the clearing of records does to diagnostics and log, also when it fails. -/
def Step.Reporting (step : Step Unit) (forest : Forest) (s : Session) : Prop :=
  step.Ensures forest s (fun _ after => ∃ told, Reports s after told)
    fun _ after => ∃ told, Reports s after told

theorem clearHolder_reporting
    (nested : ∀ usr problem s, s.store.hasLayout usr = true →
      (makeOpaque fuel usr problem).Reporting forest s) :
    (clearHolder fuel usr holder).Reporting forest s := by
  unfold clearHolder Step.Reporting
  refine Step.Ensures.look rfl ?_
  cases found : s.store.lookup? holder with
  | none => exact ⟨[], .refl s⟩
  | some d =>
      refine Step.Ensures.look rfl ?_
      cases held : heldMember? s.store usr d with
      | none => exact ⟨[], .refl s⟩
      | some m =>
          obtain ⟨members, complete, -⟩ := holds_of_heldMember? found held
          simp only [Step.ensures_bind, ensures_debug]
          refine (nested holder _ _ ?_).imp ?_ ?_
          · exact hasLayout_iff.mpr ⟨members, complete⟩
          all_goals
            intro _ after given
            obtain ⟨told, reports⟩ := given
            refine ⟨told, (Reports.log ?_).trans reports⟩
            simp [LogRecord.tellsRecord, List.isPrefixOf]

/-- A holder that is to be cleared is complete at that time, however often it is met. -/
theorem makeOpaque_reporting (fuel : Nat) (usr problem : String) (s : Session)
    (complete : s.store.hasLayout usr = true) :
    (makeOpaque fuel usr problem).Reporting forest s := by
  induction fuel generalizing usr problem s with
  | zero => exact ⟨[], .refl s⟩
  | succ fuel induction =>
      simp only [Step.Reporting, makeOpaque, Step.ensures_bind, ensures_amend, ensures_lookup?,
        modify_clearRecord, ensures_diagnose, ensures_getStore]
      -- only the keys are those of the start: each holder is looked up when its turn comes
      refine ensures_forM _ (fun _ current => ∃ told, Reports s current told) ?_
        fun before holder rest whole current invariant => ?_
      · refine ⟨_, (Reports.clear complete rfl rfl).trans (Reports.log ?_)⟩
        simp [LogRecord.tellsRecord]
      · obtain ⟨told, reports⟩ := invariant
        refine (clearHolder_reporting induction).imp ?_ ?_
        all_goals
          intro _ after given
          obtain ⟨more, further⟩ := given
          exact ⟨told ++ more, reports.trans further⟩

/-- The records that lose their layouts are those that the given one is embedded in, at
whatever distance, and the record itself. Each of them is reported once, and nothing else
changes. -/
theorem makeOpaque_clears_embedding (forest : Forest) (s : Session) (usr problem : String)
    (members : List Member) (fuel : Nat)
    (acyclic : ∀ key, ¬ TransGen s.store.Renames key key)
    (complete : s.store.Complete usr members) (enough : s.store.size < fuel) :
    (∀ type, ∃ steps last, s.store.Unfolds CType.element steps type last) ∧
    ((makeOpaque fuel usr problem).run forest s).1 = .ok () ∧
    ∃ told : List Diagnostic,
      ((makeOpaque fuel usr problem).run forest s).2.diagnostics = s.diagnostics ++ told ∧
      (∀ d ∈ told, d.reason = .unsupportedMember) ∧
      (told.map (·.usr)).Nodup ∧
      (∀ key, key ∈ told.map (·.usr) ↔ ReflTransGen s.store.Embeds key usr) ∧
      ((makeOpaque fuel usr problem).run forest s).2.store = s.store.clear (told.map (·.usr)) ∧
      ∀ key ∈ told.map (·.usr), ∃ kind members,
        s.store.body? key = some (.record kind false members) ∧
        ((makeOpaque fuel usr problem).run forest s).2.store.body? key =
          some (.record kind true []) := by
  refine ⟨exists_unfolds_element acyclic, ?_⟩
  have laid : s.store.hasLayout usr = true := hasLayout_iff.mpr ⟨members, complete⟩
  have short : (s.store.clear [usr]).completeRecords.length < fuel :=
    Nat.lt_of_le_of_lt (Nat.le_trans length_completeRecords_clear_le
      length_completeRecords_le) enough
  have opaques : Opaques forest usr s (makeOpaque fuel usr problem) :=
    makeOpaque_ensures fuel usr problem s
  obtain ⟨succeeded, ⟨⟨-, cleared, result, clears⟩, told, reports⟩, -⟩ :=
    ((Step.Ensures.and opaques (makeOpaque_reporting fuel usr problem s laid)).and
      (makeOpaque_succeeds fuel usr problem s short)).exists_ok fun _ _ failed => failed.2
  have each : ∀ key ∈ cleared, s.store.hasLayout key = true := fun key member =>
    hasLayout_of_embeds laid (clears.mem_iff.mp member)
  have once := reports.count_eq result each
  have member (key : String) : key ∈ told.map (·.usr) ↔ key ∈ cleared := by
    rw [← List.count_pos_iff, once]
    split <;> simp_all
  refine ⟨succeeded, told, reports.diagnostics, reports.reason, ?_, ?_, ?_, ?_⟩
  · refine List.nodup_iff_count_le_one.mpr fun key => ?_
    rw [once]
    split <;> omega
  · exact fun key => (member key).trans clears.mem_iff
  · rw [result, clear_congr member]
  · intro key reported
    obtain ⟨own, complete⟩ := hasLayout_iff.mp (each key ((member key).mp reported))
    obtain ⟨kind, before, after⟩ := complete.body?_clear ((member key).mp reported)
    exact ⟨kind, own, before, result ▸ after⟩

def entryOf (usr : String) (body : Body) : String × Declaration :=
  (usr, { usr, nativeName := usr, name := usr, body })

def structOf (usr : String) (type : CType) : String × Declaration :=
  entryOf usr (.record .struct false [{ name := "m", type }])

def rowName : String := "Row"

def rowsName : String := "Rows"

/-- `typedef struct a Row; typedef Row Rows[2];`, with `Rows` in `h`, `h` in `g`, and a pointer
to `a` in `p`. -/
def nestedRows : Session where
  policy := {}
  store := ⟨[
    structOf "g" (.compound "h"),
    structOf "p" (.pointer (.compound "a") false),
    structOf "h" (.typedef rowsName),
    entryOf rowsName (.typedef (some (.array (.typedef rowName) (some 2)))),
    entryOf rowName (.typedef (some (.compound "a"))),
    structOf "a" (.primitive .int)]⟩

theorem nestedRows_clears_embedding :
    ((makeOpaque 7 "a" "bit-field member 'x'").run ⟨#[]⟩ nestedRows).1 = .ok () ∧
    ∀ key, key ∈ ["a", "h", "g"] ↔ ReflTransGen nestedRows.store.Embeds key "a" := by
  have renames {key other : String} (named : nestedRows.store.Renames key other) :
      key = rowsName ∧ other = rowName := by
    obtain ⟨type, found, element⟩ := named
    have each : ∀ key ∈ nestedRows.store.keys, ∀ type ∈ nestedRows.store.underlying? key,
        (key = rowsName ∧ type.element = .typedef rowName) ∨ type.element = .compound "a" := by
      decide
    rcases each key (mem_keys_of_underlying? found) type found with ⟨own, inner⟩ | inner
    · rw [inner] at element
      exact ⟨own, (CType.typedef.inj element).symm⟩
    · rw [inner] at element
      cases element
  have acyclic (key : String) : ¬ TransGen nestedRows.store.Renames key key := by
    intro cycle
    obtain ⟨next, first, -⟩ := TransGen.head'_iff.mp cycle
    obtain ⟨before, -, last⟩ := TransGen.tail'_iff.mp cycle
    exact absurd ((renames first).1.symm.trans (renames last).2) (by decide)
  obtain ⟨-, succeeded, told, reported, -, -, reached, -⟩ :=
    makeOpaque_clears_embedding ⟨#[]⟩ nestedRows "a" "bit-field member 'x'"
      [{ name := "m", type := .primitive .int }] 7 acyclic (by decide) (by decide)
  have usrs : ((makeOpaque 7 "a" "bit-field member 'x'").run ⟨#[]⟩ nestedRows).2.diagnostics.map
      (·.usr) = ["a", "h", "g"] := by
    decide +kernel
  rw [reported] at usrs
  have all : told.map (·.usr) = ["a", "h", "g"] := by simpa [nestedRows] using usrs
  exact ⟨succeeded, all ▸ reached⟩

end Session

end LuaBinder
