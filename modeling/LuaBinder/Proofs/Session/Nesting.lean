import LuaBinder.Proofs.Session.Building

namespace LuaBinder.Session

open Header Store

variable {forest : Forest} {reach : Nat → Prop} {base : Store} {s outer : Session}

/-! Steps between the push and the pop of a frame. -/

/-- Frames to come get numbers that no frame has. -/
def Framed (s : Session) : Prop := ∀ f ∈ s.context, f.number < s.frames

theorem Framed.of_kept {after : Session} (framed : s.Framed) (kept : Kept s after) :
    after.Framed := by
  intro f member
  rw [kept.context] at member
  exact Nat.lt_of_lt_of_le (framed f member) kept.frames

theorem Framed.entered (framed : s.Framed) (name : String) : (s.entered name).Framed := by
  intro f member
  rcases List.mem_cons.mp member with rfl | member
  · exact Nat.lt_succ_self _
  · exact Nat.lt_succ_of_lt (framed f member)

/-- The store is closed, and frames to come get numbers that no frame has. -/
structure Sound (s : Session) : Prop where
  closed : s.store.Closed
  framed : s.Framed

theorem Sound.of_kept {after : Session} (sound : s.Sound) (kept : Kept s after)
    (closed : after.store.Closed) : after.Sound := ⟨closed, sound.framed.of_kept kept⟩

theorem Sound.entered (sound : s.Sound) (name : String) : (s.entered name).Sound :=
  ⟨sound.closed, sound.framed.entered name⟩

/-- The frames are kept, whether the step succeeds or fails. -/
def Outcome (forest : Forest) (s : Session) (step : Step α) (good : α → Store → Prop)
    (bad : Error → Store → Prop) : Prop :=
  step.Ensures forest s (fun value after => Kept s after ∧ good value after.store)
    (fun error after => Kept s after ∧ bad error after.store)

namespace Outcome

variable {bad worse : Error → Store → Prop}

theorem imp {step : Step α} {good good' : α → Store → Prop}
    (outcome : Outcome forest s step good bad)
    (value : ∀ value store, good value store → good' value store)
    (error : ∀ error store, bad error store → worse error store) :
    Outcome forest s step good' worse :=
  Step.Ensures.imp outcome (fun _ _ result => ⟨result.1, value _ _ result.2⟩)
    fun _ _ failed => ⟨failed.1, error _ _ failed.2⟩

theorem bind {step : Step α} {next : α → Step β} {good : α → Store → Prop}
    {good' : β → Store → Prop} (first : Outcome forest s step good bad)
    (second : ∀ value middle, Kept s middle → good value middle.store →
      Outcome forest middle (next value) good' bad) :
    Outcome forest s (step >>= next) good' bad := by
  refine Step.ensures_bind.mpr (Step.Ensures.imp first ?_ fun _ _ failed => failed)
  intro value middle given
  obtain ⟨kept, result⟩ := given
  refine Step.Ensures.imp (second value middle kept result) ?_ ?_
  all_goals
    intro _ after given
    obtain ⟨keeps, result⟩ := given
    exact ⟨kept.trans keeps, result⟩

theorem look {step : Step α} {next : α → Step β} {good : β → Store → Prop} {value : α}
    (answers : step.run forest s = (.ok value, s))
    (rest : Outcome forest s (next value) good bad) :
    Outcome forest s (step >>= next) good bad :=
  Step.Ensures.look answers rest

theorem amend {usr : String} {change : Body → Body} :
    Outcome forest s (amend usr change)
      (fun _ grown => grown = s.store.amendBody usr change) bad :=
  ⟨⟨rfl, rfl, Nat.le_refl _⟩, modify_eq_amendBody change⟩

theorem forM {step : α → Step Unit} {items : List α} {invariant : Store → Prop}
    (start : invariant s.store)
    (next : ∀ item ∈ items, ∀ current, Kept s current → invariant current.store →
      Outcome forest current (step item) (fun _ grown => invariant grown) bad) :
    Outcome forest s (items.forM step) (fun _ grown => invariant grown) bad := by
  refine ensures_forM items (fun _ current => Kept s current ∧ invariant current.store)
    ⟨Kept.refl s, start⟩ ?_
  intro before item rest whole current given
  obtain ⟨kept, holds⟩ := given
  have member : item ∈ items := by simp [whole]
  refine Step.Ensures.imp (next item member current kept holds) ?_ ?_
  all_goals
    intro _ after given
    obtain ⟨keeps, result⟩ := given
    exact ⟨kept.trans keeps, result⟩

end Outcome

/-- All that is required of the store after a failure is the same for every error. -/
def Runs (forest : Forest) (s : Session) (step : Step α) (good : α → Store → Prop)
    (bad : Store → Prop) : Prop :=
  Outcome forest s step good fun _ => bad

namespace Runs

variable {bad : Store → Prop}

theorem imp {step : Step α} {good good' : α → Store → Prop}
    (runs : Runs forest s step good bad)
    (implied : ∀ value store, good value store → good' value store) :
    Runs forest s step good' bad := Outcome.imp runs implied fun _ _ failed => failed

/-- More is known of a success. -/
theorem and {step : Step α} {good good' : α → Store → Prop} (runs : Runs forest s step good bad)
    (more : Runs forest s step good' fun _ => True) :
    Runs forest s step (fun value grown => good value grown ∧ good' value grown) bad := by
  refine (Step.Ensures.and runs more).imp ?_ fun _ _ failed => failed.1
  intro _ after given
  exact ⟨given.1.1, given.1.2, given.2.2⟩

theorem imp_bad {step : Step α} {good : α → Store → Prop} {worse : Store → Prop}
    (runs : Runs forest s step good bad) (implied : ∀ store, bad store → worse store) :
    Runs forest s step good worse := Outcome.imp runs (fun _ _ result => result) fun _ => implied

theorem bind {step : Step α} {next : α → Step β} {good : α → Store → Prop}
    {good' : β → Store → Prop} (first : Runs forest s step good bad)
    (second : ∀ value middle, Kept s middle → good value middle.store →
      Runs forest middle (next value) good' bad) :
    Runs forest s (step >>= next) good' bad := Outcome.bind first second

theorem look {step : Step α} {next : α → Step β} {good : β → Store → Prop} {value : α}
    (answers : step.run forest s = (.ok value, s))
    (rest : Runs forest s (next value) good bad) :
    Runs forest s (step >>= next) good bad := Outcome.look answers rest

theorem pure {value : α} {good : α → Store → Prop} (result : good value s.store) :
    Runs forest s (Pure.pure value) good bad := ⟨Kept.refl s, result⟩

theorem of_quiet {step : Step α} (quiet : step.Quiet) (failed : bad s.store) :
    Runs forest s step (fun _ store => store = s.store) bad :=
  quiet.ensures (fun _ _ kept same => ⟨kept, same⟩)
    fun _ _ kept same => ⟨kept, same ▸ failed⟩

theorem rebase {step : Step α} {good : α → Store → Prop} {narrow : Nat → Prop}
    (runs : Runs forest s step good (s.store.Extends forest narrow))
    (extended : base.Extends forest reach s.store)
    (weaker : ∀ number, narrow number → reach number) :
    Runs forest s step good (base.Extends forest reach) :=
  runs.imp_bad fun _ failed => extended.trans (failed.mono weaker)

theorem publish {d : Declaration} (failed : bad s.store) :
    Runs forest s (publish d)
      (fun _ grown => d.usr ∉ s.store.keys ∧ grown = s.store.push d) bad :=
  ensures_publish (fun fresh => ⟨⟨rfl, rfl, Nat.le_refl _⟩, fresh, rfl⟩)
    fun _ => ⟨Kept.refl s, failed⟩

theorem amend {usr : String} {change : Body → Body} :
    Runs forest s (amend usr change)
      (fun _ grown => grown = s.store.amendBody usr change) bad := Outcome.amend

/-- Whatever is cleared holds the new declaration, so it is new as well. -/
theorem makeOpaque {fuel : Nat} {usr problem : String} (closed : base.Closed)
    (fresh : usr ∉ base.keys) (extended : base.Extends forest reach s.store) :
    Runs forest s (makeOpaque fuel usr problem)
      (fun _ grown => ∃ cleared, grown = s.store.clear cleared ∧ s.store.Clears usr cleared)
      (base.Extends forest reach) := by
  refine (makeOpaque_ensures fuel usr problem s).imp (fun _ _ result => result) ?_
  intro _ after given
  obtain ⟨kept, cleared, result, holding⟩ := given
  exact ⟨kept, result ▸ extended.clear closed fresh holding⟩

theorem forM {step : α → Step Unit} {items : List α} {invariant : Store → Prop}
    (start : invariant s.store)
    (next : ∀ item ∈ items, ∀ current, Kept s current → invariant current.store →
      Runs forest current (step item) (fun _ grown => invariant grown) bad) :
    Runs forest s (items.forM step) (fun _ grown => invariant grown) bad :=
  Outcome.forM start next

end Runs

/-! Steps that run inside a frame and may note something there. -/

/-- The session has one frame more than the one that pushed it. -/
structure Inside (outer s : Session) : Prop where
  policy : s.policy = outer.policy
  context : ∃ f, s.context = f :: outer.context ∧ f.number = outer.frames
  frames : outer.frames < s.frames

theorem Inside.of_kept {after : Session} (inside : Inside outer s) (kept : Kept s after) :
    Inside outer after where
  policy := kept.policy.trans inside.policy
  context := kept.context ▸ inside.context
  frames := Nat.lt_of_lt_of_le inside.frames kept.frames

theorem inside_entered (outer : Session) (name : String) :
    Inside outer (outer.entered name) :=
  ⟨rfl, ⟨_, rfl, rfl⟩, Nat.lt_succ_self _⟩

theorem Inside.framed (inside : Inside outer s) (framed : outer.Framed) : s.Framed := by
  obtain ⟨f, context, number⟩ := inside.context
  intro g member
  rw [context] at member
  rcases List.mem_cons.mp member with rfl | member
  · exact number ▸ inside.frames
  · exact Nat.lt_trans (framed g member) inside.frames

theorem Inside.sound (inside : Inside outer s) (sound : outer.Sound)
    (closed : s.store.Closed) : s.Sound := ⟨closed, inside.framed sound.framed⟩

/-- The innermost frame notes no parameter without a layout or a binding. -/
def Clean (s : Session) : Prop :=
  ∀ f ∈ s.context.head?, f.incompleteParameter = false ∧ f.unsupportedParameter = false

theorem Kept.clean_iff {after : Session} (kept : Kept s after) : after.Clean ↔ s.Clean := by
  rw [Clean, kept.context, Clean]

theorem clean_entered (s : Session) (name : String) : (s.entered name).Clean := by
  simp [Clean, entered]

def OutcomeInside (forest : Forest) (outer s : Session) (step : Step α)
    (good : α → Session → Prop) (bad : Error → Store → Prop) : Prop :=
  step.Ensures forest s (fun value after => Inside outer after ∧ good value after)
    (fun error after => Inside outer after ∧ bad error after.store)

namespace OutcomeInside

variable {bad : Error → Store → Prop}

theorem bind {step : Step α} {next : α → Step β} {good : α → Session → Prop}
    {good' : β → Session → Prop} (first : OutcomeInside forest outer s step good bad)
    (second : ∀ value middle, Inside outer middle → good value middle →
      OutcomeInside forest outer middle (next value) good' bad) :
    OutcomeInside forest outer s (step >>= next) good' bad := by
  refine Step.ensures_bind.mpr (Step.Ensures.imp first ?_ fun _ _ failed => failed)
  intro value middle given
  obtain ⟨inside, result⟩ := given
  exact second value middle inside result

theorem of_outcome {step : Step α} {good : α → Store → Prop}
    (outcome : Outcome forest s step good bad) (inside : Inside outer s) :
    OutcomeInside forest outer s step
      (fun value after => Kept s after ∧ good value after.store) bad := by
  refine Step.Ensures.imp outcome ?_ ?_
  all_goals
    intro _ after given
    obtain ⟨kept, result⟩ := given
  · exact ⟨inside.of_kept kept, kept, result⟩
  · exact ⟨inside.of_kept kept, result⟩

theorem look {step : Step α} {next : α → Step β} {good : β → Session → Prop} {value : α}
    (answers : step.run forest s = (.ok value, s))
    (rest : OutcomeInside forest outer s (next value) good bad) :
    OutcomeInside forest outer s (step >>= next) good bad :=
  Step.Ensures.look answers rest

/-- The frames below have other numbers, so only the innermost one changes. -/
theorem changeFrame {change : Frame → Frame} (inside : Inside outer s)
    (framed : outer.Framed)
    (keeps : ∀ f, (change f).number = f.number) :
    OutcomeInside forest outer s (changeFrame outer.frames change)
      (fun _ after => after.store = s.store ∧
        (after.Clean → ∃ f ∈ s.context.head?,
          (change f).incompleteParameter = false ∧
            (change f).unsupportedParameter = false)) bad := by
  obtain ⟨f, context, number⟩ := inside.context
  have below : Context.modify outer.context outer.frames change = outer.context := by
    refine (List.map_congr_left fun g member => ?_).trans (List.map_id _)
    have differs := Nat.ne_of_lt (framed g member)
    simp [differs]
  have modified : s.context.modify outer.frames change = change f :: outer.context := by
    rw [context]
    simp only [Context.modify, List.map_cons, number, beq_self_eq_true, if_true]
    exact congrArg (change f :: ·) below
  refine ⟨⟨inside.policy, ⟨change f, modified, (keeps f).trans number⟩, inside.frames⟩,
    rfl, fun clean => ⟨f, by simp [context], clean _ ?_⟩⟩
  simp [modified]

theorem withFrame {name : String} {body : Nat → Step α} {good : α → Store → Prop}
    (inside : OutcomeInside forest outer (outer.entered name) (body outer.frames)
      (fun value after => good value after.store) bad) :
    Outcome forest outer (withFrame name body) good bad := by
  refine ensures_withFrame (Step.Ensures.imp inside ?_ ?_)
  all_goals
    intro _ after given
    obtain ⟨⟨policy, ⟨f, context, number⟩, frames⟩, result⟩ := given
    refine ⟨⟨f, _, context, number⟩, ⟨policy, ?_, Nat.le_of_lt frames⟩, result⟩
    simp [left, context]

end OutcomeInside

def RunsInside (forest : Forest) (outer s : Session) (step : Step α)
    (good : α → Session → Prop) (bad : Store → Prop) : Prop :=
  OutcomeInside forest outer s step good fun _ => bad

namespace RunsInside

variable {bad : Store → Prop}

theorem bind {step : Step α} {next : α → Step β} {good : α → Session → Prop}
    {good' : β → Session → Prop} (first : RunsInside forest outer s step good bad)
    (second : ∀ value middle, Inside outer middle → good value middle →
      RunsInside forest outer middle (next value) good' bad) :
    RunsInside forest outer s (step >>= next) good' bad := OutcomeInside.bind first second

theorem of_runs {step : Step α} {good : α → Store → Prop}
    (runs : Runs forest s step good bad) (inside : Inside outer s) :
    RunsInside forest outer s step
      (fun value after => Kept s after ∧ good value after.store) bad :=
  OutcomeInside.of_outcome runs inside

theorem imp {step : Step α} {good good' : α → Session → Prop}
    (runs : RunsInside forest outer s step good bad)
    (implied : ∀ value after, good value after → good' value after) :
    RunsInside forest outer s step good' bad :=
  Step.Ensures.imp runs (fun _ _ result => ⟨result.1, implied _ _ result.2⟩)
    fun _ _ failed => failed

theorem imp_bad {step : Step α} {good : α → Session → Prop} {worse : Store → Prop}
    (runs : RunsInside forest outer s step good bad)
    (implied : ∀ store, bad store → worse store) :
    RunsInside forest outer s step good worse :=
  Step.Ensures.imp runs (fun _ _ result => result)
    fun _ _ failed => ⟨failed.1, implied _ failed.2⟩

theorem look {step : Step α} {next : α → Step β} {good : β → Session → Prop} {value : α}
    (answers : step.run forest s = (.ok value, s))
    (rest : RunsInside forest outer s (next value) good bad) :
    RunsInside forest outer s (step >>= next) good bad := OutcomeInside.look answers rest

theorem pure {value : α} {good : α → Session → Prop} (inside : Inside outer s)
    (result : good value s) : RunsInside forest outer s (Pure.pure value) good bad :=
  ⟨inside, result⟩

theorem changeFrame {change : Frame → Frame} (inside : Inside outer s) (sound : outer.Sound)
    (keeps : ∀ f, (change f).number = f.number) :
    RunsInside forest outer s (changeFrame outer.frames change)
      (fun _ after => after.store = s.store ∧
        (after.Clean → ∃ f ∈ s.context.head?,
          (change f).incompleteParameter = false ∧
            (change f).unsupportedParameter = false)) bad :=
  OutcomeInside.changeFrame inside sound.framed keeps

theorem withFrame {name : String} {body : Nat → Step α} {good : α → Store → Prop}
    (runs : RunsInside forest outer (outer.entered name) (body outer.frames)
      (fun value after => good value after.store) bad) :
    Runs forest outer (withFrame name body) good bad := OutcomeInside.withFrame runs

end RunsInside

theorem Runs.withFrame {name : String} {step : Step α} {good : α → Store → Prop}
    {bad : Store → Prop} (runs : Runs forest (s.entered name) step good bad) :
    Runs forest s (withFrame name fun _ => step) good bad :=
  RunsInside.withFrame ((RunsInside.of_runs runs (inside_entered s name)).imp
    fun _ _ result => result.2)

end LuaBinder.Session
