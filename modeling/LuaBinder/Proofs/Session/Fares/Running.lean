import LuaBinder.Proofs.Session.Fares.Visiting
import LuaBinder.Proofs.Session.History

namespace LuaBinder

open Header Session

/-! Sessions over the sources stay settled, whatever they are asked to do and whether it
fails or not. -/

namespace Sources

variable {sources : Sources} {s : Session}

/-- The step leaves a settled session with the same frames, and publishes behind what is
published. -/
def Lands (sources : Sources) (s : Session) (step : Step α) (raises : Error → Prop) : Prop :=
  step.Ensures sources.forest s
    (fun _ after => sources.Settled after ∧ Kept s after ∧ s.store.keys <+: after.store.keys)
    (fun error after => raises error ∧ sources.Settled after ∧ Kept s after ∧
      s.store.keys <+: after.store.keys)

namespace Lands

variable {raises weaker : Error → Prop}

theorem of_fares {step : Step α} {good : α → Prop} {reach : Nat → Prop}
    (settled : sources.Settled s) (fares : sources.Fares s step good)
    (runs : VisitRuns sources.forest reach s step) :
    sources.Lands s step sources.Raises := by
  have lands {after : Session} (kept : Kept s after)
      (progress : sources.Progress s.store after.store)
      (advances : s.store.Advances after.store) :
      sources.Settled after ∧ Kept s after ∧ s.store.keys <+: after.store.keys :=
    ⟨⟨settled.toSound.of_kept kept advances.closed, progress.described settled.described,
      kept.policy ▸ settled.configured⟩, kept, progress.keys⟩
  refine (Step.Ensures.and fares runs).imp ?_ ?_
  · intro _ after given
    obtain ⟨⟨kept, -, progress⟩, -, visits⟩ := given
    exact lands kept progress (visits.advances settled.closed)
  · intro error after given
    obtain ⟨⟨kept, raises, progress⟩, -, advances⟩ := given
    exact ⟨raises, lands kept progress advances⟩

theorem bind {step : Step α} {next : α → Step β} (first : sources.Lands s step raises)
    (second : ∀ value middle, sources.Settled middle → Kept s middle →
      sources.Lands middle (next value) raises) :
    sources.Lands s (step >>= next) raises := by
  refine Step.ensures_bind.mpr (Step.Ensures.imp first ?_ fun _ _ failed => failed)
  intro value middle given
  obtain ⟨settled, kept, keys⟩ := given
  refine Step.Ensures.imp (second value middle settled kept) ?_ ?_
  · intro _ after given
    exact ⟨given.1, kept.trans given.2.1, keys.trans given.2.2⟩
  · intro _ after given
    exact ⟨given.1, given.2.1, kept.trans given.2.2.1, keys.trans given.2.2.2⟩

theorem imp {step : Step α} (lands : sources.Lands s step raises)
    (implied : ∀ error, raises error → weaker error) : sources.Lands s step weaker :=
  Step.Ensures.imp lands (fun _ _ given => given)
    fun error _ given => ⟨implied error given.1, given.2⟩

theorem pure {value : α} (settled : sources.Settled s) :
    sources.Lands s (Pure.pure value) raises := ⟨settled, Kept.refl s, List.prefix_rfl⟩

theorem look {step : Step α} {next : α → Step β} {value : α}
    (answers : step.run sources.forest s = (.ok value, s))
    (rest : sources.Lands s (next value) raises) :
    sources.Lands s (step >>= next) raises :=
  Step.Ensures.look answers rest

/-- The store and the frames are the same after the step, which cannot fail. -/
theorem of_same {step : Step α} (settled : sources.Settled s)
    (same : step.Ensures sources.forest s
      (fun _ after => Kept s after ∧ after.store = s.store) fun _ _ => False) :
    sources.Lands s step raises := by
  refine same.imp ?_ fun _ _ failed => failed.elim
  intro _ after given
  obtain ⟨kept, same⟩ := given
  exact ⟨settled.after kept same, kept, same ▸ List.prefix_rfl⟩

end Lands

theorem visit_lands (settled : sources.Settled s) (number : Nat) :
    sources.Lands s (visit number) sources.Raises :=
  .of_fares settled (visit_fares settled number) (visit_runs settled.toSound)

theorem visitAll_lands (top : List Nat) (s : Session) (settled : sources.Settled s) :
    sources.Lands s (visitAll top) sources.Raises := by
  induction top generalizing s with
  | nil => exact .pure settled
  | cons number rest induction =>
      exact (visit_lands settled number).bind fun _ middle settled _ => induction middle settled

theorem resolve_lands (settled : sources.Settled s) {type : NativeType}
    (drawn : type ∈ sources.types) :
    sources.Lands s (resolveType type) sources.Raises := by
  have onward : Onward sources.forest fun _ => True := fun _ _ _ _ => trivial
  have resolves := resolves_type declare_declares onward type s settled.toSound
    fun _ _ => trivial
  have fares := resolve_fares declare_serves type (fun part member => ⟨type, .inl drawn, member⟩)
    s (ready_of_framed settled.framed 0)
  have runs : VisitRuns sources.forest (fun _ => True) s (resolveType type) :=
    (Runs.imp resolves fun _ _ gives => .build gives.built).imp_bad
      fun _ extended => extended.advances settled.closed
  exact .of_fares settled fares runs

theorem nameAnonymous_lands (settled : sources.Settled s) {raises : Error → Prop} :
    sources.Lands s nameAnonymous raises := by
  have named : s.store.NamedAs ⟨nameAll [] s.store.entries⟩ := Store.namedAs_nameAll [] _
  refine ⟨⟨⟨named.closed settled.closed, settled.framed⟩, settled.described.namedAs named,
    settled.configured⟩, ⟨rfl, rfl, Nat.le_refl _⟩, ?_⟩
  rw [← named.keys_eq]

/-- A run may also find that frames were open before it. -/
theorem runAll_lands (settled : sources.Settled s) (top : List Nat) :
    sources.Lands s (runAll top) fun error => sources.Raises error ∨
      s.context ≠ [] ∧ ∃ count, error = .context (.leftOpen count) := by
  refine .look rfl ?_
  refine .bind (.of_same settled ⟨⟨rfl, rfl, Nat.le_refl _⟩, rfl⟩) fun _ begun settled kept => ?_
  refine .bind ((visitAll_lands top begun settled).imp fun _ => .inl) ?_
  intro _ grown settled kept'
  refine .look rfl ?_
  dsimp only
  split
  · rename_i opened
    rw [kept'.context, kept.context, bne_iff_ne] at opened
    refine ⟨.inr ⟨fun empty => opened (by simp [empty]), _, rfl⟩, settled, Kept.refl _, ?_⟩
    exact List.prefix_rfl
  refine (nameAnonymous_lands settled).bind fun _ ended settled _ => ?_
  refine .look rfl (.look rfl ?_)
  refine .bind (.of_same settled ⟨⟨rfl, rfl, Nat.le_refl _⟩, rfl⟩) fun _ logged settled _ => ?_
  exact .pure settled

/-! What a session draws on in the course of its commands. -/

def ofCommands (forest : Forest) (policy : Policy) (commands : List Command) : Sources where
  forest := forest
  policies := policy :: commands.flatMap fun
    | .configure policy => [policy]
    | _ => []
  types := commands.flatMap fun
    | .resolve type => [type]
    | _ => []

/-- The sources are those of the commands, or more. -/
def Allows (sources : Sources) : Command → Prop
  | .configure policy => policy ∈ sources.policies
  | .resolve type => type ∈ sources.types
  | .visit _ | .run _ => True

theorem Settled.perform (settled : sources.Settled s) {command : Command}
    (allowed : sources.Allows command) :
    sources.Settled (command.perform sources.forest s) ∧
      s.store.keys <+: (command.perform sources.forest s).store.keys := by
  have lands {α : Type} {step : Step α} {raises : Error → Prop}
      (lands : sources.Lands s step raises) :
      sources.Settled (step.run sources.forest s).2 ∧
        s.store.keys <+: (step.run sources.forest s).2.store.keys := by
    refine Step.Ensures.after
      (fun after => sources.Settled after ∧ s.store.keys <+: after.store.keys)
      (Step.Ensures.imp lands ?_ ?_)
    · exact fun _ _ given => ⟨given.1, given.2.2⟩
    · exact fun _ _ given => ⟨given.2.1, given.2.2.2⟩
  cases command with
  | visit number => exact lands (visit_lands settled number)
  | run top => exact lands (runAll_lands settled top)
  | resolve type => exact lands (resolve_lands settled allowed)
  | configure policy =>
      exact ⟨⟨⟨settled.closed, settled.framed⟩, settled.described, allowed⟩, List.prefix_rfl⟩

theorem settled_history (policy : Policy) (commands : List Command)
    (configured : policy ∈ sources.policies)
    (allowed : ∀ command ∈ commands, sources.Allows command) :
    sources.Settled (history sources.forest policy commands) :=
  history_induction sources.Settled ⟨sound_start policy, .empty, configured⟩
    fun _ settled command member => (settled.perform (allowed command member)).1

theorem allows_ofCommands {forest : Forest} {policy : Policy} {commands : List Command}
    {command : Command} (member : command ∈ commands) :
    (ofCommands forest policy commands).Allows command := by
  cases command with
  | configure policy =>
      exact List.mem_cons_of_mem _ (List.mem_flatMap.mpr ⟨_, member, List.mem_singleton_self _⟩)
  | resolve type => exact List.mem_flatMap.mpr ⟨_, member, List.mem_singleton_self _⟩
  | visit | run => trivial

theorem settled_ofCommands (forest : Forest) (policy : Policy) (commands : List Command) :
    (ofCommands forest policy commands).Settled (history forest policy commands) :=
  settled_history policy commands List.mem_cons_self fun _ => allows_ofCommands

/-- A command to come may draw on more than those before it. -/
theorem settled_longer (forest : Forest) (policy : Policy) (commands : List Command)
    (command : Command) :
    (ofCommands forest policy (commands ++ [command])).Settled
      (history forest policy commands) :=
  settled_history policy commands List.mem_cons_self
    fun _ member => allows_ofCommands (List.mem_append_left _ member)

end Sources

end LuaBinder
