import LuaBinder.Proofs.Session.Conduct
import LuaBinder.Proofs.Session.Visiting

namespace LuaBinder

open Header

/-! What building declarations leaves alone besides the declarations that are published
already. Nothing is dropped, and no visit that is under way notes anything. -/

/-- A record without a layout, a method that cannot be bound, or a typedef of an
unsupported type. -/
structure Diagnostic.IsIncidental (d : Diagnostic) (forest : Forest) : Prop where
  configured : d.reason ≠ .variadicMismatch
  named : d.reason = .unsupportedMember ∨ ∃ number,
    ((forest.cursor number).kind.isMethod = true ∨ (forest.cursor number).kind = .typedef) ∧
      (forest.cursor number).usr = d.usr

namespace Session

/-- What the visits under way have noted, each with the number of its frame. -/
def notes (s : Session) : List (Nat × List String) :=
  s.context.map fun f => (f.number, f.declarations)

structure Spares (forest : Forest) (s after : Session) : Prop where
  policy : after.policy = s.policy
  notes : after.notes = s.notes
  dropped : after.dropped = s.dropped
  diagnostics : ∃ more, after.diagnostics = s.diagnostics ++ more ∧
    ∀ d ∈ more, d.IsIncidental forest

variable {forest : Forest} {s middle after : Session}

/-- Nothing changes that matters here. -/
theorem Spares.of_eq (policy : after.policy = s.policy) (notes : after.notes = s.notes)
    (dropped : after.dropped = s.dropped) (diagnostics : after.diagnostics = s.diagnostics) :
    Spares forest s after :=
  ⟨policy, notes, dropped, [], by simp [diagnostics], by simp⟩

theorem Spares.refl (s : Session) : Spares forest s s := .of_eq rfl rfl rfl rfl

theorem Spares.trans (first : Spares forest s middle) (second : Spares forest middle after) :
    Spares forest s after where
  policy := second.policy.trans first.policy
  notes := second.notes.trans first.notes
  dropped := second.dropped.trans first.dropped
  diagnostics := by
    obtain ⟨more, appended, incidental⟩ := first.diagnostics
    obtain ⟨further, appended', incidental'⟩ := second.diagnostics
    refine ⟨more ++ further, by simp [appended, appended'], fun d member => ?_⟩
    exact (List.mem_append.mp member).elim (incidental d) (incidental' d)

/-- The step spares what there is, if it succeeds. -/
def Step.Sparing (step : Step α) (forest : Forest) : Prop :=
  ∀ s, step.Ensures forest s (fun _ after => Spares forest s after) fun _ _ => True

/-- Nothing is said of steps that fail. -/
def sparingly (forest : Forest) : Manner where
  good := Spares forest
  bad := fun _ _ _ => True
  refl := .refl
  trans := .trans
  fails := fun _ _ => trivial
  selects := fun _ _ => trivial

theorem Step.sparing_iff {step : Step α} :
    step.Sparing forest ↔ step.Keeps forest (sparingly forest) := Iff.rfl

open Step (keeps_pure keeps_modify keeps_forM sparing_iff)

theorem sparing_debug (source message : String) : (debug source message).Sparing forest :=
  sparing_iff.mpr (keeps_modify fun _ => .of_eq rfl rfl rfl rfl)

theorem sparing_diagnose {name usr message : String} {reason : Reason}
    (incidental : Diagnostic.IsIncidental ⟨name, usr, reason, message⟩ forest) :
    (diagnose name usr reason message).Sparing forest :=
  fun _ => ⟨rfl, rfl, rfl, [_], rfl, by simpa using incidental⟩

theorem sparing_publish (d : Declaration) : (publish d).Sparing forest := by
  intro s
  refine ensures_publish (fun _ => ?_) fun _ => trivial
  exact .of_eq rfl rfl rfl rfl

theorem sparing_makeOpaque (fuel : Nat) (usr problem : String) :
    (makeOpaque fuel usr problem).Sparing forest := by
  refine keeps_makeOpaque (sparingly forest) (fun _ => trivial)
    (fun _ _ => Spares.of_eq rfl rfl rfl rfl) (fun s d reason => ?_)
    (fun _ _ => Spares.of_eq rfl rfl rfl rfl) fuel usr problem
  exact ⟨rfl, rfl, rfl, [d], rfl, by simpa using ⟨by simp [reason], .inl reason⟩⟩

/-- The frame of a step is gone at its end. -/
theorem Spares.left {name : String} {popped : Frame} {context : Context}
    (spares : Spares forest (s.entered name) after)
    (last : after.context.pop s.frames name = .ok (popped, context)) :
    Spares forest s { after with context } := by
  have noted : after.notes = (s.frames, []) :: s.notes := spares.notes
  refine ⟨spares.policy, ?_, spares.dropped, spares.diagnostics⟩
  cases opened : after.context with
  | nil => simp [opened, Context.pop] at last
  | cons f rest =>
      simp only [opened, Context.pop] at last
      split at last
      · cases last
        simp only [Session.notes, opened, List.map_cons, List.cons.injEq] at noted
        exact noted.2
      · cases last

/-- What is noted of parameters is no declaration. -/
theorem Spares.marked (number : Nat) {change : Frame → Frame}
    (keeps : ∀ f, (change f).number = f.number ∧ (change f).declarations = f.declarations) :
    Spares forest s { s with context := s.context.modify number change } := by
  refine .of_eq rfl ?_ rfl rfl
  simp only [Session.notes, Context.modify, List.map_map]
  refine List.map_congr_left fun f _ => ?_
  by_cases own : f.number = number <;> simp [own, keeps]

/-- Builds spare what there is; what they do when they fail is left open. -/
def sparing (forest : Forest) : Conduct forest where
  toManner := sparingly forest
  throws := fun _ _ => trivial
  logs := fun _ _ _ => .of_eq rfl rfl rfl rfl
  marks := fun _ number _ keeps => .marked number keeps
  names := fun _ _ _ _ _ => .of_eq rfl rfl rfl rfl
  leaves := .left
  misses := fun _ => trivial
  unwinds := fun _ _ => trivial
  refuses := by
    intro s number d isMethod usr refusal
    refine ⟨rfl, rfl, rfl, [d], rfl, ?_⟩
    have configured : d.reason ≠ .variadicMismatch := by
      rcases refusal with same | same <;> simp [same]
    simpa using ⟨configured, .inr ⟨number, .inl isMethod, usr.symm⟩⟩
  publishes := fun _ _ _ _ _ _ => .of_eq rfl rfl rfl rfl
  elaborates := fun _ _ _ _ => .of_eq rfl rfl rfl rfl
  typedefs := fun _ _ _ => .of_eq rfl rfl rfl rfl
  opens := fun _ _ _ _ _ _ _ _ => .of_eq rfl rfl rfl rfl
  lays := fun _ _ opens _ begun => (opens.trans begun).trans (.of_eq rfl rfl rfl rfl)
  clears := fun fuel problem _ opens _ begun =>
    (sparing_makeOpaque fuel _ problem _).imp (fun _ _ => (opens.trans begun).trans)
      fun _ _ _ => trivial

theorem Step.sparing_of_keeps {step : Step α} (keeps : step.Keeps forest (sparing forest)) :
    step.Sparing forest := keeps

theorem sparing_selected (result : Except SelectionError α) :
    (selected result).Sparing forest := sparing_iff.mpr (keeps_selected result)

theorem sparing_resolve (native : NativeType) : (resolve declare native).Sparing forest :=
  Step.sparing_of_keeps (keeps_resolve keeps_declare native)

theorem sparing_build (form : Form) {number : Nat} (suits : Suits forest form number) :
    (build declare form number).Sparing forest :=
  Step.sparing_of_keeps (keeps_build keeps_declare suits)

end Session

end LuaBinder

namespace LuaBinder.Session

open Header Store Step

/-! What a visit does to functions and globals: it binds some, or drops one, and tells
something about them. Whatever is built on the way there is none of their business. -/

variable {forest : Forest} {s middle after : Session} {number : Nat}
  {bound : List Declaration} {dropped : List String} {told : List Diagnostic}

structure Treatment (forest : Forest) (bound : List Declaration) (dropped : List String)
    (told : List Diagnostic) (s after : Session) : Prop where
  policy : after.policy = s.policy
  entries : s.store.entries <+: after.store.entries
  fresh : ∀ key d, after.store.lookup? key = some d → key ∉ s.store.keys →
    d ∈ bound ∧ d.usr = key ∨ d.body.values = []
  listed : ∀ d ∈ bound, d.usr ∈ after.store.keys
  dropped : ∀ usr, usr ∈ after.dropped ↔ usr ∈ s.dropped ∨ usr ∈ dropped
  diagnostics : ∃ more, after.diagnostics = s.diagnostics ++ (more ++ told) ∧
    ∀ d ∈ more, d.IsIncidental forest

/-- Nothing is bound or dropped, and nothing is told about functions and globals. -/
abbrev Idles (forest : Forest) (s after : Session) : Prop := Treatment forest [] [] [] s after

namespace Treatment

theorem of_spares (spares : Spares forest s after)
    (extended : s.store.Extends forest (fun _ => True) after.store) : Idles forest s after where
  policy := spares.policy
  entries := extended.entries
  fresh := fun key d found absent =>
    .inr (extended.valueless key d.body (by simp [Store.body?, found]) absent)
  listed := by simp
  dropped := by simp [spares.dropped]
  diagnostics := by simpa using spares.diagnostics

theorem of_store (spares : Spares forest s after) (closed : s.store.Closed)
    (same : after.store = s.store) : Idles forest s after := by
  refine .of_spares spares ?_
  rw [same]
  exact .refl closed

theorem idle (idles : Idles forest s middle)
    (treatment : Treatment forest bound dropped told middle after) :
    Treatment forest bound dropped told s after where
  policy := treatment.policy.trans idles.policy
  entries := idles.entries.trans treatment.entries
  fresh := by
    intro key d found absent
    by_cases earlier : key ∈ middle.store.keys
    · rw [lookup?_of_grown treatment.entries earlier] at found
      exact (idles.fresh key d found absent).imp_left fun given => absurd given.1 (by simp)
    · exact treatment.fresh key d found earlier
  listed := treatment.listed
  dropped := by
    intro usr
    rw [treatment.dropped usr, idles.dropped usr]
    simp
  diagnostics := by
    obtain ⟨more, appended, incidental⟩ := idles.diagnostics
    obtain ⟨further, appended', incidental'⟩ := treatment.diagnostics
    refine ⟨more ++ further, by simp [appended', appended], fun d member => ?_⟩
    exact (List.mem_append.mp member).elim (incidental d) (incidental' d)

end Treatment

/-! Visits of other declarations. -/

/-- A sound session stays sound, and the step idles. -/
def Step.Idle (step : Step α) (forest : Forest) (s : Session) : Prop :=
  step.Ensures forest s (fun _ after => after.Sound ∧ Idles forest s after) fun _ _ => True

namespace Step.Idle

theorem of_runs {step : Step α} {good : α → Store → Prop} {bad : Store → Prop}
    (sound : s.Sound) (sparing : step.Sparing forest) (runs : Runs forest s step good bad)
    (extends_ : ∀ value grown, good value grown →
      s.store.Extends forest (fun _ => True) grown) :
    step.Idle forest s := by
  refine ((sparing s).and runs).imp ?_ fun _ _ _ => trivial
  intro value after given
  obtain ⟨spares, kept, result⟩ := given
  have extended := extends_ value after.store result
  exact ⟨sound.of_kept kept extended.closed, .of_spares spares extended⟩

theorem of_quiet {step : Step α} (sound : s.Sound) (sparing : step.Sparing forest)
    (quiet : step.Quiet) : step.Idle forest s := by
  refine ((sparing s).and (quiet forest s)).imp ?_ fun _ _ _ => trivial
  intro value after given
  obtain ⟨spares, kept, same⟩ := given
  exact ⟨sound.of_kept kept (same ▸ sound.closed), .of_store spares sound.closed same⟩

theorem pure {value : α} (sound : s.Sound) : (Pure.pure value : Step α).Idle forest s :=
  ⟨sound, .of_store (.refl s) sound.closed rfl⟩

theorem throw {error : Error} : (throw error : Step α).Idle forest s := trivial

theorem look {step : Step α} {next : α → Step β} {value : α}
    (answers : step.run forest s = (.ok value, s)) (rest : (next value).Idle forest s) :
    (step >>= next).Idle forest s := Ensures.look answers rest

theorem bind {step : Step α} {next : α → Step β} (first : step.Idle forest s)
    (second : ∀ value middle, middle.Sound → Idles forest s middle →
      (next value).Idle forest middle) : (step >>= next).Idle forest s := by
  refine Ensures.bind first fun value middle given => ?_
  obtain ⟨sound, idles⟩ := given
  refine (second value middle sound idles).imp ?_ fun _ _ failed => failed
  exact fun _ _ given => ⟨given.1, idles.idle given.2⟩

theorem withFrame {name : String} {step : Step α} (inside : step.Idle forest (s.entered name)) :
    (withFrame name fun _ => step).Idle forest s := by
  refine ensures_withFrame_of_popped (Ensures.imp inside ?_ fun _ _ failed => failed)
  intro _ after given popped context last
  obtain ⟨sound, idles⟩ := given
  refine ⟨⟨sound.closed, fun f member => sound.framed f ?_⟩, idles.policy, idles.entries,
    idles.fresh, idles.listed, idles.dropped, idles.diagnostics⟩
  unfold Context.pop at last
  split at last
  · rename_i opened
    split at last
    · cases last
      exact opened ▸ List.mem_cons_of_mem _ member
    · cases last
  · cases last

theorem publish_constant {d : Declaration} (sound : s.Sound)
    (usr : d.usr = (forest.cursor number).usr)
    (constant : ∃ rawType value, d.body = .constant rawType value) :
    (publish d).Idle forest s := by
  obtain ⟨rawType, value, body⟩ := constant
  have runs : Runs forest s (publish d)
      (fun _ grown => d.usr ∉ s.store.keys ∧ grown = s.store.push d) fun _ => True :=
    .publish trivial
  have extended (fresh : d.usr ∉ s.store.keys) :
      s.store.Extends forest (fun _ => True) (s.store.push d) :=
    .push sound.closed trivial usr fresh
      (by simp [body, Body.mentions, Body.types, Body.superclass?]) (by simp [body, Body.values])
  refine .of_runs sound (sparing_publish d) runs fun _ grown given => ?_
  exact given.2 ▸ extended given.1

end Step.Idle

open Step (Idle)

theorem idle_resolve (native : NativeType) (sound : s.Sound) :
    (resolve declare native).Idle forest s := by
  have onward : Onward forest fun _ => True := fun _ _ _ _ => trivial
  refine .of_runs sound (sparing_resolve native)
    (resolves_type declare_declares onward native s sound fun _ _ => trivial)
    fun _ _ gives => gives.built.extended sound.closed onward

theorem idle_declared {step : Step Unit} {form : Form} {bad : Store → Prop} (sound : s.Sound)
    (sparing : step.Sparing forest)
    (runs : Runs forest s step (fun _ grown => Declared forest form number s.store
      (forest.cursor number).usr grown) bad) : step.Idle forest s :=
  .of_runs sound sparing runs fun _ _ declared =>
    (declared.built.extended sound.closed (onward_leads number)).mono fun _ _ => trivial

theorem idle_selected (result : Except SelectionError α) (sound : s.Sound) :
    (selected result).Idle forest s :=
  .of_quiet sound (sparing_selected result) (quiet_selected result)

theorem idle_debug (source message : String) (sound : s.Sound) :
    (debug source message).Idle forest s :=
  .of_quiet sound (sparing_debug source message) (quiet_debug source message)

theorem idle_visitRecord (sound : s.Sound)
    (formed : formOf? (forest.cursor number).kind = some .record) :
    (visitRecord number).Idle forest s := by
  refine .look rfl (.withFrame (.look rfl ?_))
  have sound := sound.entered (forest.cursor number).spelling
  split
  · exact .pure sound
  split
  · exact .pure sound
  refine .look rfl (.bind (idle_selected _ sound) fun chosen _ sound _ => ?_)
  split
  · refine .bind (idle_declared sound (sparing_build .record fun _ => formed)
      (buildRecord_runs declare_declares sound formed)) ?_
    exact fun _ _ sound _ => .pure sound
  · exact .pure sound

theorem idle_visitInterface (sound : s.Sound) : (visitInterface number).Idle forest s := by
  refine .look rfl (.withFrame (.look rfl ?_))
  have sound := sound.entered (forest.cursor number).spelling
  split
  · exact .pure sound
  refine .look rfl (.bind (idle_selected _ sound) fun chosen _ sound _ => ?_)
  split
  · refine .bind (idle_declared sound (sparing_build .interface (by simp [Suits]))
      (buildInterface_runs declare_declares sound)) ?_
    exact fun _ _ sound _ => .pure sound
  · exact .pure sound

theorem idle_visitConstants (numbers : List Nat) (s : Session) (sound : s.Sound) :
    (visitConstants numbers).Idle forest s := by
  induction numbers generalizing s with
  | nil => exact .pure sound
  | cons number rest induction =>
      refine .look rfl (.look rfl (.look rfl ?_))
      split
      · exact .bind (induction s sound) fun _ _ sound _ => .pure sound
      refine .bind (idle_selected _ sound) fun chosen s sound _ => ?_
      split
      · exact induction s sound
      refine .bind (idle_selected _ sound) fun name s sound _ => .look rfl ?_
      refine .bind (.publish_constant sound rfl ⟨_, _, rfl⟩) fun _ s sound _ => ?_
      refine .bind (idle_debug _ _ sound) fun _ s sound _ => ?_
      exact .bind (induction s sound) fun _ _ sound _ => .pure sound

theorem idle_visitEnumeration (sound : s.Sound)
    (kind : (forest.cursor number).kind = .enumeration) :
    (visitEnumeration number).Idle forest s := by
  refine .look rfl (.withFrame ?_)
  have sound := sound.entered (forest.cursor number).spelling
  split
  · refine .look rfl ?_
    split
    · exact .pure sound
    · exact .look rfl (idle_visitConstants _ _ sound)
  refine .look rfl ?_
  split
  · exact .pure sound
  refine .look rfl (.bind (idle_selected _ sound) fun chosen _ sound _ => ?_)
  split
  · refine .bind (idle_declared sound (sparing_build .enumeration fun _ => by rw [kind]; rfl)
      (buildEnumeration_runs sound)) ?_
    exact fun _ _ sound _ => .pure sound
  · exact .pure sound

theorem idle_visitTypedef (sound : s.Sound)
    (kind : (forest.cursor number).kind = .typedef) : (visitTypedef number).Idle forest s := by
  refine .look rfl (.withFrame (.look rfl ?_))
  have sound := sound.entered (forest.cursor number).spelling
  split
  · exact .pure sound
  split
  · exact .bind (idle_debug _ _ sound) fun _ _ sound _ => .pure sound
  refine .look rfl (.bind (idle_selected _ sound) fun chosen _ sound _ => ?_)
  split
  · refine .bind (idle_declared sound (sparing_build .typedef (by simp [Suits]))
      (buildTypedef_runs declare_declares sound)) fun _ s sound _ => .look rfl ?_
    split
    · refine .bind (idle_debug _ _ sound) fun _ s sound _ => ?_
      refine .bind (.of_quiet sound (sparing_diagnose ⟨by simp, .inr ⟨number, .inr kind, rfl⟩⟩)
        (quiet_diagnose _ _ _ _)) fun _ _ sound _ => .pure sound
    · exact .pure sound
  · exact .pure sound

theorem idle_visitMacro (sound : s.Sound) : (visitMacro number).Idle forest s := by
  refine .look rfl (.withFrame (.look rfl ?_))
  have sound := sound.entered (forest.cursor number).spelling
  split
  · exact .pure sound
  split
  · exact .pure sound
  refine .look rfl (.bind (idle_selected _ sound) fun chosen s sound _ => ?_)
  split
  · exact .pure sound
  simp only [addMacro]
  split
  · exact .throw
  · exact .bind (idle_debug _ _ sound) fun _ _ sound _ => .pure sound
  · refine .look rfl (.bind (idle_selected _ sound) fun name s sound _ => .look rfl ?_)
    refine .bind (.publish_constant sound rfl ⟨_, _, rfl⟩) fun _ s sound _ => ?_
    exact .bind (idle_debug _ _ sound) fun _ _ sound _ => .pure sound

end LuaBinder.Session
