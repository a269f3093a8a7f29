import LuaBinder.Proofs.Session.Values.Accounting
import LuaBinder.Proofs.Session.Values.Minding

namespace LuaBinder

open Header Session

/-! Functions are told apart by the USRs they are bound under. As long as no two functions
of different spellings can be bound under one USR, none is given in place of another. -/

namespace Sources

variable {sources : Sources} {s middle after : Session} {store named : Store} {number : Nat}

def functions (sources : Sources) : List Cursor :=
  sources.forest.cursors.toList.filter (·.kind == .function)

theorem mem_functions (kind : (sources.forest.cursor number).kind = .function) :
    sources.forest.cursor number ∈ sources.functions := by
  refine List.mem_filter.mpr ⟨?_, by simp [kind]⟩
  refine (sources.forest.cursor_cases number).resolve_right fun missing => ?_
  rw [missing] at kind
  cases kind

/-- A function of the spelling may be bound under the USR. -/
def Spells (sources : Sources) (usr spelling : String) : Prop :=
  ∃ c ∈ sources.functions, ∃ policy ∈ sources.policies,
    usr ∈ policy.functionUsrs c ∧ c.spelling = spelling

theorem spells_of_mem {policy : Policy} {usr : String}
    (kind : (sources.forest.cursor number).kind = .function)
    (configured : policy ∈ sources.policies)
    (own : usr ∈ policy.functionUsrs (sources.forest.cursor number)) :
    sources.Spells usr (sources.forest.cursor number).spelling :=
  ⟨_, mem_functions kind, policy, configured, own, rfl⟩

/-- Functions of different spellings are bound under different USRs. -/
def SpelledApart (sources : Sources) : Prop :=
  ∀ usr spelling other, sources.Spells usr spelling → sources.Spells usr other → spelling = other

instance : Decidable sources.SpelledApart :=
  decidable_of_iff
    (∀ c ∈ sources.functions, ∀ policy ∈ sources.policies, ∀ usr ∈ policy.functionUsrs c,
      ∀ other ∈ sources.functions, ∀ later ∈ sources.policies, usr ∈ later.functionUsrs other →
        c.spelling = other.spelling) (by
    constructor
    · rintro apart usr _ _ ⟨c, own, policy, configured, bound, rfl⟩
        ⟨other, also, later, configured', bound', rfl⟩
      exact apart c own policy configured usr bound other also later configured' bound'
    · intro apart c own policy configured usr bound other also later configured' bound'
      exact apart usr _ _ ⟨c, own, policy, configured, bound, rfl⟩
        ⟨other, also, later, configured', bound', rfl⟩)

/-- Each published function has the spelling of one that is bound under its USR. -/
def Spelled (sources : Sources) (store : Store) : Prop :=
  store.EachFunction fun usr d => sources.Spells usr d.nativeName

theorem visit_minds {policy : Policy} (configured : policy ∈ sources.policies) (number : Nat) :
    (visit number).Keeps sources.forest
      (minding sources.forest policy fun usr d => sources.Spells usr d.nativeName) := by
  refine keeps_visit_minding fun kind => keeps_minding fun s same => ?_
  subst same
  have liberal : (minding sources.forest s.policy fun usr d =>
      sources.Spells usr d.nativeName).Liberal (sources.forest.cursor number)
        (s.policy.functionUsrs (sources.forest.cursor number)) :=
    liberal_minding fun d _ native bound => native ▸ spells_of_mem kind configured bound
  exact visitFunction_keeps liberal (List.Subset.refl _)

theorem spelled_of_visit {usrs : List String} (configured : s.policy ∈ sources.policies)
    (spelled : sources.Spelled s.store)
    (visited : (visit number).run sources.forest s = (.ok usrs, after)) :
    sources.Spelled after.store := by
  have minds := Step.Ensures.of_ok (visit_minds configured number s) (congrArg Prod.fst visited)
  rw [visited] at minds
  exact (minds rfl).2 spelled

theorem spelled_ofCommands (forest : Forest) (policy : Policy) (commands : List Command) :
    (history forest policy commands).policy ∈ (ofCommands forest policy commands).policies ∧
      (ofCommands forest policy commands).Spelled (history forest policy commands).store :=
  each_ofCommands forest policy commands fun _ configured number => visit_minds configured number

end Sources

namespace Session

/-- Whatever function is published under a USR of the visited one, before the visit or by
it, has its spelling. So none is given in its place, and none keeps it from being bound. -/
theorem functions_keep_spelling (forest : Forest) (policy : Policy) (commands : List Command)
    {number : Nat} (kind : (forest.cursor number).kind = .function)
    (apart : (Sources.ofCommands forest policy commands).SpelledApart) :
    let s := history forest policy commands
    (∀ usr ∈ s.policy.functionUsrs (forest.cursor number), ∀ d,
      s.store.lookup? usr = some d → isFunction d = true →
        d.nativeName = (forest.cursor number).spelling) ∧
    ∀ usrs after, (visit number).run forest s = (.ok usrs, after) → ∀ usr ∈ usrs, ∀ d,
      after.store.lookup? usr = some d → isFunction d = true →
        d.nativeName = (forest.cursor number).spelling := by
  intro s
  obtain ⟨configured, spelled⟩ := Sources.spelled_ofCommands forest policy commands
  have own {usr : String} (bound : usr ∈ s.policy.functionUsrs (forest.cursor number)) :
      (Sources.ofCommands forest policy commands).Spells usr (forest.cursor number).spelling :=
    Sources.spells_of_mem kind configured bound
  refine ⟨fun usr bound d found function => ?_, ?_⟩
  · exact apart usr _ _ (spelled usr d found function) (own bound)
  · intro usrs after visited usr given d found function
    have bound := subset_functionUsrs_of_visit kind (steady_history policy commands).toSound
      visited given
    have spelled' := Sources.spelled_of_visit configured spelled visited
    exact apart usr _ _ (spelled' usr d found function) (own bound)

/-- `void log(int level, ...); void log_int(int level);` -/
def spelledForest : Forest := ⟨#[
  { kind := .function, spelling := "log", usr := "c:log", result := .ofKind .void
    arguments := [1]
    type := .known { TypeFacts.plain .functionPrototype none with variadic := true }
      .absent .absent .absent (NativeType.ofKind .void) .absent .nil },
  { kind := .parameter, spelling := "level", usr := "c:level", type := .ofKind .int },
  { kind := .function, spelling := "log_int", usr := "c:log_int", result := .ofKind .void
    arguments := [1], type := .function .functionPrototype (.ofKind .void) .nil }]⟩

def loggingPolicy (suffix : String) : Policy :=
  { signatures := [("log", [⟨suffix, [.primitive .int32]⟩])] }

def spelledCommands : List Command :=
  [.visit 0, .configure (loggingPolicy "_two"), .visit 2]

def spelledHistory : Session :=
  history spelledForest (loggingPolicy "_line") spelledCommands

/-- The policy changes, and the function is bound once more. -/
theorem spelledForest_keeps_spelling :
    (spelledForest.cursor 0).kind = .function ∧
      (Sources.ofCommands spelledForest (loggingPolicy "_line") spelledCommands).SpelledApart ∧
      ((visit 0).run spelledForest spelledHistory).1 = .ok ["c:log_two"] ∧
      ∃ d, ((visit 0).run spelledForest spelledHistory).2.store.lookup? "c:log_two" = some d ∧
        isFunction d = true ∧ d.nativeName = "log" := by
  have kind : (spelledForest.cursor 0).kind = .function := rfl
  have apart : (Sources.ofCommands spelledForest (loggingPolicy "_line")
      spelledCommands).SpelledApart := by decide +kernel
  have given : ((visit 0).run spelledForest spelledHistory).1 = .ok ["c:log_two"] := by
    decide +kernel
  have bound : (((visit 0).run spelledForest spelledHistory).2.store.lookup? "c:log_two").map
      isFunction = some true := by decide +kernel
  obtain ⟨d, found, function⟩ := Option.map_eq_some_iff.mp bound
  obtain ⟨-, keeps⟩ := functions_keep_spelling spelledForest _ _ kind apart
  have native := keeps _ _ (Prod.ext given rfl) _ (List.mem_singleton_self _) d found function
  exact ⟨kind, apart, given, d, found, function, native⟩

/-- The suffix makes the USR of one function that of the other, which is never bound. -/
theorem spelledForest_mixes_functions :
    (∀ c ∈ spelledForest.cursors.toList, ∀ other ∈ spelledForest.cursors.toList,
      c.usr = other.usr ↔ c.spelling = other.spelling) ∧
    let s := history spelledForest (loggingPolicy "_int") [.visit 0]
    ((visit 2).run spelledForest s).1 = .ok ["c:log_int"] ∧
      ∃ d, ((visit 2).run spelledForest s).2.store.lookup? "c:log_int" = some d ∧
        isFunction d = true ∧ d.nativeName ≠ (spelledForest.cursor 2).spelling := by
  have given : (((visit 2).run spelledForest
      (history spelledForest (loggingPolicy "_int") [.visit 0])).2.store.lookup? "c:log_int").map
      (fun d => (isFunction d, d.nativeName)) = some (true, "log") := by decide +kernel
  obtain ⟨d, found, same⟩ := Option.map_eq_some_iff.mp given
  obtain ⟨function, native⟩ := Prod.mk.inj same
  refine ⟨by decide, by decide +kernel, d, found, function, ?_⟩
  rw [native]
  decide

end Session

end LuaBinder
