import LuaBinder.Proofs.Session.Naming

namespace LuaBinder.Session

open Header Store

/-! Whatever is done with a session, published declarations stay as they are, and what
functions and globals were checked against stays true of them. -/

/-- What a session can be asked to do. -/
inductive Command where
  | visit (number : Nat)
  | run (top : List Nat)
  | resolve (type : NativeType)
  | configure (policy : Policy)

/-- The session after a command, whether it has failed or not. -/
def Command.perform (forest : Forest) (s : Session) : Command → Session
  | .visit number => ((Session.visit number).run forest s).2
  | .run top => ((runAll top).run forest s).2
  | .resolve type => ((resolveType type).run forest s).2
  | .configure policy => { s with policy }

def history (forest : Forest) (policy : Policy) (commands : List Command) : Session :=
  commands.foldl (Command.perform forest) { policy }

variable {forest : Forest} {policy : Policy} {commands : List Command} {s : Session}

/-- What each command keeps is true at any time. -/
theorem history_induction (holds : Session → Prop) (start : holds { policy })
    (keeps : ∀ s, holds s → ∀ command ∈ commands, holds (command.perform forest s)) :
    holds (history forest policy commands) :=
  List.foldlRecOn commands _ start keeps

theorem history_append_induction (holds : Session → Prop) {later : List Command}
    (start : holds (history forest policy commands))
    (keeps : ∀ s, holds s → ∀ command ∈ later, holds (command.perform forest s)) :
    holds (history forest policy (commands ++ later)) := by
  rw [history, List.foldl_append]
  exact List.foldlRecOn later _ start keeps

/-- A sound session whose functions and globals pass values. -/
structure Steady (s : Session) : Prop extends Sound s where
  passes : s.store.PassesValues

theorem Step.Ensures.after {step : Step α} (holds : Session → Prop)
    (ensured : step.Ensures forest s (fun _ after => holds after) fun _ after => holds after) :
    holds (step.run forest s).2 := by
  unfold Step.Ensures at ensured
  split at ensured <;> simp_all

theorem steady_start (policy : Policy) : Steady { policy } where
  toSound := sound_start policy
  passes := by
    intro key body found
    simp [Store.body?, Store.lookup?] at found

theorem Steady.of_advances {after : Session} (steady : s.Steady) (kept : Kept s after)
    (advances : s.store.Advances after.store) : after.Steady where
  toSound := steady.toSound.of_kept kept advances.closed
  passes := advances.passes steady.passes

theorem Steady.visit (steady : s.Steady) (number : Nat) :
    ((Session.visit number).run forest s).2.Steady ∧
      s.store.entries <+: ((Session.visit number).run forest s).2.store.entries := by
  refine Step.Ensures.after (fun after => after.Steady ∧ s.store.entries <+: after.store.entries)
    (Step.Ensures.imp (visit_runs steady.toSound) ?_ ?_)
  · intro _ after given
    obtain ⟨kept, visits⟩ := given
    have advances := visits.advances steady.closed
    exact ⟨steady.of_advances kept advances, advances.entries⟩
  · intro _ after given
    obtain ⟨kept, advances⟩ := given
    exact ⟨steady.of_advances kept advances, advances.entries⟩

theorem Steady.resolve (steady : s.Steady) (type : NativeType) :
    ((resolveType type).run forest s).2.Steady ∧
      s.store.entries <+: ((resolveType type).run forest s).2.store.entries := by
  have onward : Onward forest fun _ => True := fun _ _ _ _ => trivial
  have resolves := resolves_type declare_declares onward type s steady.toSound
    fun _ _ => trivial
  refine Step.Ensures.after (fun after => after.Steady ∧ s.store.entries <+: after.store.entries)
    (Step.Ensures.imp resolves ?_ ?_)
  · intro _ after given
    obtain ⟨kept, gives⟩ := given
    have extended := gives.built.extended steady.closed onward
    exact ⟨steady.of_advances kept (extended.advances steady.closed), extended.entries⟩
  · intro _ after given
    obtain ⟨kept, extended⟩ := given
    exact ⟨steady.of_advances kept (extended.advances steady.closed), extended.entries⟩

theorem Steady.run (steady : s.Steady) (top : List Nat) :
    ((runAll top).run forest s).2.Steady := by
  refine Step.Ensures.after Steady (Step.Ensures.imp (runAll_runs top steady.toSound) ?_ ?_)
  · intro _ after given
    obtain ⟨kept, grown, visits, named, -⟩ := given
    have advances := visits.advances steady.closed
    exact
      { toSound := steady.toSound.of_kept kept (named.closed advances.closed)
        passes := named.passesValues (advances.passes steady.passes) }
  · intro _ after given
    obtain ⟨kept, advances⟩ := given
    exact steady.of_advances kept advances

theorem Steady.perform (steady : s.Steady) (command : Command) :
    (command.perform forest s).Steady := by
  cases command with
  | visit number => exact (steady.visit number).1
  | run top => exact steady.run top
  | resolve type => exact (steady.resolve type).1
  | configure policy => exact ⟨⟨steady.closed, steady.framed⟩, steady.passes⟩

theorem steady_history (policy : Policy) (commands : List Command) :
    (history forest policy commands).Steady :=
  history_induction Steady (steady_start policy) fun _ steady command _ => steady.perform command

/-- At every point of every session, values can be passed to and from each function and
global: their types have a binding and a layout. -/
theorem values_stay_passable (forest : Forest) (policy : Policy) (commands : List Command)
    (usr : String) (d : Declaration)
    (published : (history forest policy commands).store.lookup? usr = some d) :
    ∀ type ∈ d.body.values,
      (history forest policy commands).store.isUnsupported type = false ∧
        (history forest policy commands).store.isIncomplete type = false := by
  intro type member
  have steady : (history forest policy commands).Steady := steady_history policy commands
  have passable := steady.passes usr d.body (by simp [Store.body?, published]) type member
  exact ⟨passable.supported, passable.complete⟩

/-- `struct P { int x; }; struct P origin(void);` -/
def structResult : Forest := ⟨#[
  { kind := .struct, spelling := "P", usr := "c:P", children := [1], definition := some 0 },
  { kind := .field, spelling := "x", type := .ofKind .int },
  { kind := .function, spelling := "origin", usr := "c:origin"
    type := .function .functionPrototype (.declared .record 0) .nil
    result := .declared .record 0 }]⟩

/-- A function returns a structure that is visited after it. -/
theorem structResult_stays_passable :
    ∃ d, (history structResult {} [.visit 2, .visit 0]).store.lookup? "c:origin" = some d ∧
      CType.compound "c:P" ∈ d.body.values ∧
      (history structResult {} [.visit 2, .visit 0]).store.isIncomplete (.compound "c:P") =
        false := by
  have values : ((history structResult {} [.visit 2, .visit 0]).store.lookup? "c:origin").map
      (·.body.values) = some [.compound "c:P"] := by decide +kernel
  obtain ⟨d, published, values⟩ := Option.map_eq_some_iff.mp values
  have member : CType.compound "c:P" ∈ d.body.values := by simp [values]
  exact ⟨d, published, member,
    (values_stay_passable structResult {} _ "c:origin" d published _ member).2⟩

/-- Published declarations are final: a later command publishes behind them, and only a
run that succeeds gives names to the nameless compounds there are at its end. -/
theorem published_declarations_final (forest : Forest) (policy : Policy)
    (commands : List Command) :
    let s := history forest policy commands
    (∀ number, s.store.entries <+:
      ((visit number).run forest s).2.store.entries) ∧
    (∀ type, s.store.entries <+: ((resolveType type).run forest s).2.store.entries) ∧
    ∀ top, ∃ grown : Store, s.store.entries <+: grown.entries ∧
      match (runAll top).run forest s with
      | (.ok _, ended) => grown.NamedAs ended.store
      | (.error _, ended) => ended.store = grown := by
  intro s
  have steady : s.Steady := steady_history policy commands
  refine ⟨fun number => (steady.visit number).2, fun type => (steady.resolve type).2, ?_⟩
  intro top
  have runs : Runs forest s (runAll top) _ _ := runAll_runs top steady.toSound
  unfold Runs Outcome Step.Ensures at runs
  split at runs
  · rename_i bindings ended result
    obtain ⟨-, grown, visits, named, -⟩ := runs
    exact ⟨grown, (visits.advances steady.closed).entries, by rw [result]; exact named⟩
  · rename_i error ended result
    exact ⟨ended.store, runs.2.entries, by rw [result]⟩

end LuaBinder.Session
