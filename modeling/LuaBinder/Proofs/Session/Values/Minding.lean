import LuaBinder.Proofs.Session.Conduct.Visiting
import LuaBinder.Proofs.Session.Fares.Running

namespace LuaBinder

open Header Session

/-! What is true of each function when it is published is true of it for good. -/

namespace Body

theorem Elaborates.kind_eq {body after : Body} (elaborates : Elaborates body after) :
    after.kind = body.kind := by
  cases elaborates <;> rfl

theorem Elaborates.eq_of_function {body after : Body} (elaborates : Elaborates body after)
    (kind : after.kind = .function) : after = body := by
  cases elaborates with
  | same => rfl
  | enumeration | interface => cases kind

@[simp] theorem kind_clearRecord (body : Body) : (clearRecord body).kind = body.kind := by
  cases body <;> rfl

@[simp] theorem kind_setMembers (members : List Member) (body : Body) :
    (setMembers members body).kind = body.kind := by
  cases body <;> rfl

theorem clearRecord_of_function {body : Body} (kind : (clearRecord body).kind = .function) :
    clearRecord body = body := by
  cases body with
  | record form => cases form <;> cases kind
  | _ => rfl

theorem setMembers_of_function {members : List Member} {body : Body}
    (kind : (setMembers members body).kind = .function) : setMembers members body = body := by
  cases body with
  | record form => cases form <;> cases kind
  | _ => rfl

theorem isCompound_of_function {body : Body} (kind : body.kind = .function) :
    body.isCompound = false := by
  cases body with
  | record form => cases form <;> cases kind
  | enumeration | interface => cases kind
  | _ => rfl

end Body

theorem Session.isFunction_iff {d : Declaration} :
    isFunction d = true ↔ d.body.kind = .function := by
  simp [isFunction, Declaration.kind]

/-- It holds of each published function and its USR. -/
def Store.EachFunction (store : Store) (holds : String → Declaration → Prop) : Prop :=
  ∀ usr d, store.lookup? usr = some d → isFunction d = true → holds usr d

namespace Store.EachFunction

variable {store named : Store} {holds : String → Declaration → Prop}

theorem empty : Store.EachFunction {} holds := by
  intro usr d found
  simp [Store.lookup?] at found

theorem push {d : Declaration} (each : store.EachFunction holds) (fresh : d.usr ∉ store.keys)
    (own : isFunction d = true → holds d.usr d) : (store.push d).EachFunction holds := by
  intro usr other found function
  rw [Store.lookup?_push fresh] at found
  split at found
  · rename_i same
    obtain rfl := Option.some.inj found
    exact same ▸ own function
  · exact each usr other found function

/-- No function becomes another one, and nothing else becomes a function. -/
theorem amendBody {change : Body → Body} (each : store.EachFunction holds) (key : String)
    (keeps : ∀ body, (change body).kind = .function → change body = body) :
    (store.amendBody key change).EachFunction holds := by
  intro usr d found function
  rw [Store.amendBody, Store.lookup?_mapBodies] at found
  obtain ⟨before, located, rfl⟩ := Option.map_eq_some_iff.mp found
  have same : (if usr = key then change before.body else before.body) = before.body := by
    split
    · rename_i own
      rw [isFunction_iff] at function
      exact keeps _ (by simpa [own] using function)
    · rfl
  rw [same] at function ⊢
  exact each usr before located function

theorem namedAs (each : store.EachFunction holds) (naming : store.NamedAs named) :
    named.EachFunction holds := by
  intro usr d found function
  obtain ⟨before, located, names⟩ := naming.exists_lookup? found
  rcases names with rfl | ⟨compound, -, name, -, rfl⟩
  · exact each usr _ located function
  · exact absurd compound (by simp [Declaration.isCompound,
      Body.isCompound_of_function (isFunction_iff.mp function)])

end Store.EachFunction

namespace Session

variable {forest : Forest} {policy : Policy} {holds : String → Declaration → Prop}
  {s middle after : Session}

/-- Under the policy, functions are only published if it holds of them. -/
def Minds (policy : Policy) (holds : String → Declaration → Prop) (s after : Session) : Prop :=
  s.policy = policy →
    after.policy = policy ∧ (s.store.EachFunction holds → after.store.EachFunction holds)

namespace Minds

theorem of_store (same : after.policy = s.policy)
    (each : s.store.EachFunction holds → after.store.EachFunction holds) :
    Minds policy holds s after :=
  fun configured => ⟨same.trans configured, each⟩

theorem refl (s : Session) : Minds policy holds s s := .of_store rfl id

theorem trans (first : Minds policy holds s middle) (second : Minds policy holds middle after) :
    Minds policy holds s after := by
  intro configured
  obtain ⟨configured, each⟩ := first configured
  obtain ⟨configured, each'⟩ := second configured
  exact ⟨configured, each' ∘ each⟩

end Minds

def mindful (policy : Policy) (holds : String → Declaration → Prop) : Manner where
  good := Minds policy holds
  bad := fun _ => Minds policy holds
  refl := .refl
  trans := .trans
  fails := .trans
  selects := fun _ => .refl

/-- Builds publish no functions. -/
def minding (forest : Forest) (policy : Policy) (holds : String → Declaration → Prop) :
    Conduct forest where
  toManner := mindful policy holds
  throws := fun _ => .refl
  logs := fun _ _ _ => .of_store rfl id
  marks := fun _ _ _ _ => .of_store rfl id
  names := fun _ _ _ _ _ => .of_store rfl id
  leaves := fun begun _ => begun
  misses := fun begun => begun
  unwinds := fun _ failed => failed
  refuses := fun _ _ _ _ _ _ => .of_store rfl id
  publishes := by
    intro s d fresh _ other _
    refine .of_store rfl fun each => each.push fresh fun function => ?_
    simp [other] at function
  elaborates := fun s usr _ elaborates => .of_store rfl fun each =>
    each.amendBody usr fun body kind => (elaborates body).eq_of_function kind
  typedefs := fun _ _ _ => .of_store rfl fun each =>
    each.amendBody _ fun _ kind => by simp [Body.kind] at kind
  opens := by
    intro s number d kind _ fresh body _
    refine .of_store rfl fun each => each.push fresh fun function => ?_
    have other := Body.isCompound_of_function (isFunction_iff.mp function)
    rw [body] at other
    cases other
  lays := fun members _ opens _ begun => opens.trans <| begun.trans <|
    .of_store rfl fun each => each.amendBody _ fun _ => Body.setMembers_of_function
  clears := by
    intro s opened middle usr _ fuel problem _ opens _ begun
    have keeps : (makeOpaque fuel usr problem).Keeps forest (mindful policy holds) :=
      keeps_makeOpaque (mindful policy holds) .refl
        (fun _ usr => .of_store rfl fun each =>
          each.amendBody usr fun _ => Body.clearRecord_of_function)
        (fun _ _ _ => .of_store rfl id) (fun _ _ => .of_store rfl id) _ _ _
    exact (keeps middle).onward (opens.trans begun)

theorem liberal_minding {c : Cursor} {usrs : List String}
    (own : ∀ d, isFunction d = true → d.nativeName = c.spelling → d.usr ∈ usrs → holds d.usr d) :
    (minding forest policy holds).Liberal c usrs where
  aside := fun store _ _ policy _ => .of_store policy fun each => by rwa [store]
  tells := fun _ _ _ _ => .of_store rfl id
  binds := fun _ d fresh function native bound => .of_store rfl fun each =>
    each.push fresh fun _ => own d function native bound

/-- Under any other policy there is nothing to mind. -/
theorem keeps_minding {step : Step α}
    (ensured : ∀ s : Session, s.policy = policy →
      step.Ensures forest s (fun _ after => Minds policy holds s after)
        fun _ after => Minds policy holds s after) :
    step.Keeps forest (minding forest policy holds) := by
  intro s
  by_cases configured : s.policy = policy
  · exact ensured s configured
  · unfold Step.Ensures
    split <;> exact fun given => absurd given configured

/-- Only visits of functions bind functions. -/
theorem keeps_visit_minding {number : Nat}
    (functions : (forest.cursor number).kind = .function →
      (visitFunction number).Keeps forest (minding forest policy holds)) :
    (visit number).Keeps forest (minding forest policy holds) := by
  intro s
  by_cases kind : (forest.cursor number).kind = .function
  · rw [Step.Ensures, run_visit_function kind]
    exact functions kind s
  · have liberal : (minding forest policy holds).Liberal (forest.cursor number) [] :=
      liberal_minding fun d _ _ bound => absurd bound List.not_mem_nil
    exact visit_keeps liberal fun own => absurd own kind

end Session

/-! Sessions. -/

namespace Sources

variable {sources : Sources} {s : Session} {holds : String → Declaration → Prop}

theorem each_perform {command : Command}
    (visits : ∀ policy ∈ sources.policies, ∀ number,
      (visit number).Keeps sources.forest (minding sources.forest policy holds))
    (allowed : sources.Allows command) (configured : s.policy ∈ sources.policies)
    (each : s.store.EachFunction holds) :
    (command.perform sources.forest s).policy ∈ sources.policies ∧
      (command.perform sources.forest s).store.EachFunction holds := by
  have kept {α : Type} {step : Step α}
      (keeps : step.Keeps sources.forest (minding sources.forest s.policy holds)) :
      (step.run sources.forest s).2.policy ∈ sources.policies ∧
        (step.run sources.forest s).2.store.EachFunction holds := by
    obtain ⟨policy, keeps⟩ := Step.Ensures.after (Minds s.policy holds s) (keeps s) rfl
    exact ⟨policy ▸ configured, keeps each⟩
  cases command with
  | visit number => exact kept (visits s.policy configured number)
  | run top =>
      exact kept (keeps_runAll top (fun _ => .of_store rfl id)
        (fun number _ => visits s.policy configured number)
        fun naming => .of_store rfl fun each => each.namedAs naming)
  | resolve type => exact kept (keeps_resolve keeps_declare type)
  | configure policy => exact ⟨allowed, each⟩

theorem each_ofCommands (forest : Forest) (policy : Policy) (commands : List Command)
    (visits : ∀ known ∈ (ofCommands forest policy commands).policies, ∀ number,
      (visit number).Keeps forest (minding forest known holds)) :
    (history forest policy commands).policy ∈ (ofCommands forest policy commands).policies ∧
      (history forest policy commands).store.EachFunction holds :=
  history_induction
    (fun s => s.policy ∈ (ofCommands forest policy commands).policies ∧
      s.store.EachFunction holds)
    ⟨List.mem_cons_self, .empty⟩
    fun _ known _ member => each_perform visits (allows_ofCommands member) known.1 known.2

end Sources

end LuaBinder
