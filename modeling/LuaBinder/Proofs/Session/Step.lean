import LuaBinder.Proofs.Declaration.Store
import LuaBinder.Session.Run

namespace LuaBinder.Session

open Header

/-! What a step ensures: one condition for the value it gives and one for the error it
fails with, each with the session it leaves. -/

def Step.Ensures (step : Step α) (forest : Forest) (s : Session)
    (good : α → Session → Prop) (bad : Error → Session → Prop) : Prop :=
  match step.run forest s with
  | (.ok value, after) => good value after
  | (.error error, after) => bad error after

variable {forest : Forest} {s : Session} {good good' : α → Session → Prop}
  {bad bad' : Error → Session → Prop}

namespace Step

theorem Ensures.imp {step : Step α} (ensured : step.Ensures forest s good bad)
    (value : ∀ value after, good value after → good' value after)
    (error : ∀ error after, bad error after → bad' error after) :
    step.Ensures forest s good' bad' := by
  unfold Ensures at ensured ⊢
  split at ensured
  · exact value _ _ ensured
  · exact error _ _ ensured

theorem Ensures.and {step : Step α} (first : step.Ensures forest s good bad)
    (second : step.Ensures forest s good' bad') :
    step.Ensures forest s (fun value after => good value after ∧ good' value after)
      (fun error after => bad error after ∧ bad' error after) := by
  unfold Ensures at first second ⊢
  revert first second
  rcases step.run forest s with ⟨_ | _, after⟩ <;> exact fun first second => ⟨first, second⟩

theorem run_bind (step : Step α) (next : α → Step β) :
    (step >>= next).run forest s =
      match step.run forest s with
      | (.ok value, after) => (next value).run forest after
      | (.error error, after) => (.error error, after) := by
  change ExceptT.bindCont (fun value => next value forest) (step.run forest s).1
    (step.run forest s).2 = _
  rcases step.run forest s with ⟨_ | _, after⟩ <;> rfl

theorem run_bind_of_ok {step : Step α} {next : α → Step β} {value : α} {middle : Session}
    (ran : step.run forest s = (.ok value, middle)) :
    (step >>= next).run forest s = (next value).run forest middle := by
  rw [run_bind, ran]

theorem ensures_bind {step : Step α} {next : α → Step β} {good : β → Session → Prop} :
    (step >>= next).Ensures forest s good bad ↔
      step.Ensures forest s
        (fun value after => (next value).Ensures forest after good bad) bad := by
  unfold Ensures
  rw [run_bind]
  rcases step.run forest s with ⟨_ | _, after⟩ <;> rfl

theorem Ensures.bind {step : Step α} {next : α → Step β} {result : β → Session → Prop}
    (first : step.Ensures forest s good bad)
    (second : ∀ value middle, good value middle →
      (next value).Ensures forest middle result bad) :
    (step >>= next).Ensures forest s result bad :=
  ensures_bind.mpr (first.imp second fun _ _ failed => failed)

/-- What follows a step may depend on the run of the step. -/
theorem Ensures.bind_run {step : Step α} {next : α → Step β} {result : β → Session → Prop}
    (second : ∀ value middle, step.run forest s = (.ok value, middle) →
      (next value).Ensures forest middle result bad)
    (failed : ∀ error after, step.run forest s = (.error error, after) → bad error after) :
    (step >>= next).Ensures forest s result bad := by
  rw [ensures_bind, Ensures]
  split
  · exact second _ _ (by assumption)
  · exact failed _ _ (by assumption)

theorem Ensures.look {step : Step α} {next : α → Step β} {result : β → Session → Prop}
    {value : α} (answers : step.run forest s = (.ok value, s))
    (rest : (next value).Ensures forest s result bad) :
    (step >>= next).Ensures forest s result bad := by
  rw [ensures_bind, Ensures, answers]
  exact rest

/-- A step that has given a value has ensured what it ensures of it. -/
theorem Ensures.of_ok {step : Step α} {value : α} (ensured : step.Ensures forest s good bad)
    (succeeded : (step.run forest s).1 = .ok value) : good value (step.run forest s).2 := by
  unfold Ensures at ensured
  split at ensured
  · rename_i found after result
    rw [result] at succeeded ⊢
    obtain rfl := Except.ok.inj succeeded
    exact ensured
  · rename_i error after result
    rw [result] at succeeded
    cases succeeded

theorem Ensures.run_eq {step : Step α} {value : α} {after : Session}
    (ensured : step.Ensures forest s (fun found ended => found = value ∧ ended = after)
      fun _ _ => False) : step.run forest s = (.ok value, after) := by
  unfold Ensures at ensured
  split at ensured
  · rename_i ran
    rw [ran, ensured.1, ensured.2]
  · exact ensured.elim

theorem ensures_map {step : Step α} {f : α → β} {good : β → Session → Prop} :
    (f <$> step).Ensures forest s good bad ↔
      step.Ensures forest s (fun value after => good (f value) after) bad := by
  rw [map_eq_pure_bind, ensures_bind]
  rfl

theorem ensures_tryCatch {step : Step α} {handler : Error → Step α} :
    (tryCatch step handler).Ensures forest s good bad ↔
      step.Ensures forest s good
        (fun error after => (handler error).Ensures forest after good bad) := by
  have caught : (tryCatch step handler).run forest s =
      match step.run forest s with
      | (.ok value, after) => (.ok value, after)
      | (.error error, after) => (handler error).run forest after := by
    change ExceptT.tryCatch (step forest) (fun error => handler error forest) s = _
    simp only [ExceptT.tryCatch, ExceptT.mk, bind, StateT.bind, Step.run]
    rcases step forest s with ⟨_ | _, after⟩ <;> rfl
  unfold Ensures
  rw [caught]
  rcases step.run forest s with ⟨_ | _, after⟩ <;> rfl

@[simp] theorem ensures_pure {value : α} :
    (pure value : Step α).Ensures forest s good bad ↔ good value s := Iff.rfl

@[simp] theorem ensures_throw {error : Error} :
    (throw error : Step α).Ensures forest s good bad ↔ bad error s := Iff.rfl

end Step

open Step (ensures_bind ensures_pure)

/-! Steps that read. -/

@[simp] theorem ensures_get {good : Session → Session → Prop} :
    (get : Step Session).Ensures forest s good bad ↔ good s s := Iff.rfl

@[simp] theorem ensures_getStore {good : Store → Session → Prop} :
    getStore.Ensures forest s good bad ↔ good s.store s := Iff.rfl

@[simp] theorem ensures_lookup? {usr : String} {good : Option Declaration → Session → Prop} :
    (lookup? usr).Ensures forest s good bad ↔ good (s.store.lookup? usr) s := Iff.rfl

/-! Steps that change the session in one place. -/

@[simp] theorem ensures_modify {change : Session → Session} {good : Unit → Session → Prop} :
    (modify change : Step Unit).Ensures forest s good bad ↔ good () (change s) := Iff.rfl

@[simp] theorem ensures_amend {usr : String} {change : Body → Body}
    {good : Unit → Session → Prop} :
    (amend usr change).Ensures forest s good bad ↔
      good () { s with store := s.store.modify usr fun d => { d with body := change d.body } } :=
  Iff.rfl

@[simp] theorem ensures_debug {source message : String} {good : Unit → Session → Prop} :
    (debug source message).Ensures forest s good bad ↔
      good () { s with log := s.log ++ [⟨.debug, "ffi_gen." ++ source, message⟩] } := Iff.rfl

/-! What a step may do, told by what each of its parts may do. -/

/-- What steps do to a session if they succeed, and if they fail. It holds of a step whose
parts it holds of, wherever the step ends. -/
structure Manner where
  good : Session → Session → Prop
  bad : Error → Session → Session → Prop
  refl (s : Session) : good s s
  trans {s middle after : Session} : good s middle → good middle after → good s after
  fails {error : Error} {s middle after : Session} :
    good s middle → bad error middle after → bad error s after
  selects (error : SelectionError) (s : Session) : bad (.selection error) s s

def Step.Keeps (step : Step α) (forest : Forest) (manner : Manner) : Prop :=
  ∀ s, step.Ensures forest s (fun _ after => manner.good s after)
    fun error after => manner.bad error s after

section

variable {manner : Manner} {middle : Session}

namespace Step

/-- What follows counts from where the first step started. -/
theorem Ensures.onward {step : Step α} (begun : manner.good s middle)
    (rest : step.Ensures forest middle (fun _ after => manner.good middle after)
      fun error after => manner.bad error middle after) :
    step.Ensures forest middle (fun _ after => manner.good s after)
      fun error after => manner.bad error s after :=
  rest.imp (fun _ _ further => manner.trans begun further)
    fun _ _ failed => manner.fails begun failed

theorem Keeps.bind {step : Step α} {next : α → Step β} (first : step.Keeps forest manner)
    (second : ∀ value, (next value).Keeps forest manner) :
    (step >>= next).Keeps forest manner := by
  intro s
  refine Step.Ensures.bind (first s) fun value middle begun => ?_
  exact (second value middle).onward begun

/-- The step only looks at the session. -/
theorem Keeps.look {step : Step α} {next : α → Step β} (view : Session → α)
    (answers : ∀ s, step.run forest s = (.ok (view s), s))
    (second : ∀ s, (next (view s)).Keeps forest manner) : (step >>= next).Keeps forest manner :=
  fun s => Step.Ensures.look (answers s) (second s s)

theorem keeps_pure (value : α) : (pure value : Step α).Keeps forest manner :=
  fun s => manner.refl s

theorem keeps_modify {change : Session → Session}
    (allowed : ∀ s, manner.good s (change s)) :
    (modify change : Step Unit).Keeps forest manner :=
  allowed

theorem keeps_forM {step : α → Step Unit} (items : List α)
    (each : ∀ item ∈ items, (step item).Keeps forest manner) :
    (items.forM step).Keeps forest manner := by
  induction items with
  | nil => exact keeps_pure _
  | cons item rest induction =>
      refine (each item List.mem_cons_self).bind fun _ => ?_
      exact induction fun other member => each other (List.mem_cons_of_mem _ member)

end Step

open Step (keeps_pure)

theorem keeps_selected (result : Except SelectionError α) :
    (selected result).Keeps forest manner := by
  cases result with
  | ok answer => exact keeps_pure answer
  | error error => exact fun s => manner.selects error s

theorem keeps_docOf (c : Cursor) : (docOf c).Keeps forest manner := fun s => manner.refl s

theorem keeps_nameOf (c : Cursor) : (nameOf c).Keeps forest manner := by
  unfold nameOf
  split
  · exact fun s => manner.refl s
  · exact keeps_pure _

theorem keeps_renameUnlessEmpty (selection : Selection) (name : String) :
    (renameUnlessEmpty selection name).Keeps forest manner := by
  unfold renameUnlessEmpty
  split
  · exact keeps_pure _
  · exact keeps_selected _

theorem keeps_parameterName (selection : Selection) (owner : String) (index : Nat)
    (spelling : String) :
    (parameterName selection owner index spelling).Keeps forest manner := by
  unfold parameterName
  split
  · exact (keeps_pure _).bind fun _ => keeps_pure _
  · exact (keeps_selected _).bind fun _ => keeps_pure _

end

/-! Steps that leave the store alone. -/

/-- Nothing changed that nested visits must not change. -/
structure Kept (s after : Session) : Prop where
  policy : after.policy = s.policy
  context : after.context = s.context
  frames : s.frames ≤ after.frames

theorem Kept.refl (s : Session) : Kept s s := ⟨rfl, rfl, Nat.le_refl _⟩

theorem Kept.trans {s middle after : Session} (first : Kept s middle)
    (second : Kept middle after) : Kept s after where
  policy := second.policy.trans first.policy
  context := second.context.trans first.context
  frames := Nat.le_trans first.frames second.frames

theorem Kept.of_store {s after : Session} {store : Store}
    (kept : Kept { s with store } after) : Kept s after :=
  ⟨kept.policy, kept.context, kept.frames⟩

def Error.IsSelection : Error → Prop
  | .selection _ => True
  | _ => False

/-- The step leaves the store and the frames alone, and fails only at a selection. -/
def Step.Quiet (step : Step α) : Prop :=
  ∀ forest s, step.Ensures forest s
    (fun _ after => Kept s after ∧ after.store = s.store)
    (fun error after => error.IsSelection ∧ Kept s after ∧ after.store = s.store)

def quietly : Manner where
  good := fun s after => Kept s after ∧ after.store = s.store
  bad := fun error s after => error.IsSelection ∧ Kept s after ∧ after.store = s.store
  refl := fun s => ⟨.refl s, rfl⟩
  trans := fun first second => ⟨first.1.trans second.1, second.2.trans first.2⟩
  fails := fun first failed => ⟨failed.1, first.1.trans failed.2.1, failed.2.2.trans first.2⟩
  selects := fun _ s => ⟨trivial, .refl s, rfl⟩

theorem Step.quiet_iff {step : Step α} : step.Quiet ↔ ∀ forest, step.Keeps forest quietly :=
  Iff.rfl

theorem Step.Quiet.bind {step : Step α} {next : α → Step β} (first : step.Quiet)
    (second : ∀ value, (next value).Quiet) : (step >>= next).Quiet :=
  quiet_iff.mpr fun forest => (quiet_iff.mp first forest).bind fun value =>
    quiet_iff.mp (second value) forest

theorem quiet_selected (result : Except SelectionError α) : (selected result).Quiet :=
  Step.quiet_iff.mpr fun _ => keeps_selected result

theorem quiet_debug (source message : String) : (debug source message).Quiet :=
  fun _ _ => ⟨⟨rfl, rfl, Nat.le_refl _⟩, rfl⟩

theorem quiet_diagnose (name usr : String) (reason : Reason) (message : String) :
    (diagnose name usr reason message).Quiet :=
  fun _ _ => ⟨⟨rfl, rfl, Nat.le_refl _⟩, rfl⟩

theorem quiet_nameByTypedef (usr name : String) : (nameByTypedef usr name).Quiet := by
  intro forest s
  simp only [nameByTypedef, ensures_modify]
  split
  · exact ⟨Kept.refl s, rfl⟩
  · exact ⟨⟨rfl, rfl, Nat.le_refl _⟩, rfl⟩

theorem quiet_nameOf (c : Cursor) : (nameOf c).Quiet :=
  Step.quiet_iff.mpr fun _ => keeps_nameOf c

theorem quiet_renameUnlessEmpty (selection : Selection) (name : String) :
    (renameUnlessEmpty selection name).Quiet :=
  Step.quiet_iff.mpr fun _ => keeps_renameUnlessEmpty selection name

theorem quiet_parameterName (selection : Selection) (owner : String) (index : Nat)
    (spelling : String) : (parameterName selection owner index spelling).Quiet :=
  Step.quiet_iff.mpr fun _ => keeps_parameterName selection owner index spelling

theorem Step.Quiet.ensures {step : Step α} (quiet : step.Quiet)
    (value : ∀ value after, Kept s after → after.store = s.store → good value after)
    (error : ∀ error after, Kept s after → after.store = s.store → bad error after) :
    step.Ensures forest s good bad :=
  (quiet forest s).imp (fun _ _ kept => value _ _ kept.1 kept.2)
    fun _ _ failed => error _ _ failed.2.1 failed.2.2

/-- An invariant of the items that a loop has gone through. -/
theorem ensures_forM {step : α → Step Unit} (items : List α)
    (invariant : List α → Session → Prop) (start : invariant [] s)
    (next : ∀ before item rest, items = before ++ item :: rest → ∀ s, invariant before s →
      (step item).Ensures forest s (fun _ after => invariant (before ++ [item]) after) bad) :
    (items.forM step).Ensures forest s (fun _ after => invariant items after) bad := by
  suffices general : ∀ before rest, items = before ++ rest → ∀ s, invariant before s →
      (rest.forM step).Ensures forest s (fun _ after => invariant items after) bad from
    general [] items rfl s start
  intro before rest
  induction rest generalizing before with
  | nil =>
      intro whole s holds
      obtain rfl : items = before := by simpa using whole
      exact holds
  | cons item rest induction =>
      intro whole s holds
      rw [List.forM, ensures_bind]
      refine (next before item rest whole s holds).imp (fun _ after holds => ?_) fun _ _ b => b
      exact induction (before ++ [item]) (by simp [whole]) after holds

/-! Publishing, and steps inside a frame of their own. -/

theorem ensures_publish {d : Declaration} {good : Unit → Session → Prop}
    (published : d.usr ∉ s.store.keys → good () { s with store := s.store.push d })
    (duplicate : d.usr ∈ s.store.keys → bad (.duplicate ⟨d.usr⟩) s) :
    (publish d).Ensures forest s good bad := by
  simp only [publish, ensures_bind, ensures_getStore]
  by_cases taken : d.usr ∈ s.store.keys
  · simpa [Store.insert_eq_error taken] using duplicate taken
  · simpa [Store.insert_eq_push taken] using published taken

def entered (s : Session) (name : String) : Session :=
  { s with frames := s.frames + 1, context := { number := s.frames, name } :: s.context }

/-- The session after the innermost frame has been popped. -/
def left (after : Session) : Session := { after with context := after.context.tail }

theorem ensures_pushFrame {name : String} {good : Nat → Session → Prop} :
    (pushFrame name).Ensures forest s good bad ↔ good s.frames (s.entered name) := Iff.rfl

theorem ensures_popFrame {number : Nat} {name : String} {good : Unit → Session → Prop}
    (top : ∃ f rest, s.context = f :: rest ∧ f.number = number) :
    (popFrame number name).Ensures forest s good bad ↔ good () s.left := by
  obtain ⟨f, rest, context, rfl⟩ := top
  simp [popFrame, ensures_bind, Context.pop, context, left]

theorem ensures_withFrame {name : String} {body : Nat → Step α}
    (inside : (body s.frames).Ensures forest (s.entered name)
      (fun value after => (∃ f rest, after.context = f :: rest ∧ f.number = s.frames) ∧
        good value after.left)
      (fun error after => (∃ f rest, after.context = f :: rest ∧ f.number = s.frames) ∧
        bad error after.left)) :
    (withFrame name body).Ensures forest s good bad := by
  simp only [withFrame, ensures_bind, ensures_pushFrame, Step.ensures_tryCatch,
    Step.ensures_map, ensures_pure]
  refine inside.imp ?_ ?_
  all_goals
    intro _ after given
    obtain ⟨top, result⟩ := given
    rw [ensures_popFrame top]
    exact result

/-- A frame that is not on top at the end is an error. -/
theorem ensures_withFrame_of_popped {name : String} {body : Nat → Step α}
    (inside : (body s.frames).Ensures forest (s.entered name)
      (fun value after => ∀ popped context,
        after.context.pop s.frames name = .ok (popped, context) →
          good value { after with context }) fun _ _ => True) :
    (withFrame name body).Ensures forest s good fun _ _ => True := by
  simp only [withFrame, Step.ensures_bind, ensures_pushFrame, Step.ensures_tryCatch,
    Step.ensures_map, Step.ensures_pure]
  refine inside.imp (fun value after given => ?_) fun error after _ => ?_
  all_goals
    simp only [popFrame, Step.ensures_bind, ensures_get]
    split
  · rename_i popped context found
    exact given popped context found
  · trivial
  · trivial
  · trivial

end LuaBinder.Session
