import LuaBinder.Proofs.Session.Agreeing.Visiting
import LuaBinder.Proofs.Session.Fares.Visiting

namespace LuaBinder

open Header Session

/-! Functions and globals. They are bound if values can be passed through their types; what
the types ask for is published in any case. -/

namespace Forecast

variable {forecast : Forecast} {policy : Policy} {names : List (String × String)}
  {base outer s middle after : Session} {number : Nat} {key : String}

/-- A session of one policy between two visits. What a value is passed through is published
with it, and also if it was dropped. -/
structure Stands (forecast : Forecast) (policy : Policy) (names : List (String × String))
    (s : Session) : Prop where
  configured : s.policy = policy
  agrees : forecast.Agrees [] s.store
  values : ∀ number, ∀ key ∈ forecast.sources.forest.valueUsrs policy number,
    key ∈ s.store.keys →
    (forecast.sources.forest.report number).passAsked forecast.view ⊆ s.store.keys
  dropped : ∀ number, (forecast.sources.forest.cursor number).usr ∈ s.dropped →
    (forecast.sources.forest.report number).isRefused forecast.view = true ∧
      (forecast.sources.forest.report number).passAsked forecast.view ⊆ s.store.keys
  stillNamed : ∀ usr, names.any (·.1 == usr) = true → s.isNamed usr = true
  named : ∀ usr, s.isNamed usr = true →
    names.any (·.1 == usr) = true ∨ forecast.sources.NamesByTypedef usr

namespace Stands

theorem goes (stands : forecast.Stands policy names s) (coherent : forecast.Coherent)
    (allowed : policy ∈ forecast.sources.policies) (goes : forecast.Goes s after)
    (agrees : forecast.Agrees [] after.store) : forecast.Stands policy names after where
  configured := goes.policy.trans stands.configured
  agrees := agrees
  values := by
    intro number key own published
    rcases goes.valueless key published with published | ⟨kind, presents, other, another⟩
    · exact List.Subset.trans (stands.values number key own published) goes.keys
    · obtain ⟨same, presented, value⟩ := Sources.presents_of_valueUsrs allowed own
      obtain rfl := coherent.oneKind _ _ _ presents presented
      exact absurd value (by simp [other, another])
  dropped := by
    intro number dropped
    rw [goes.dropped] at dropped
    exact (stands.dropped number dropped).imp_right fun asked => List.Subset.trans asked goes.keys
  stillNamed := fun usr named => goes.stillNamed usr (stands.stillNamed usr named)
  named := fun usr named => (goes.named usr named).elim (stands.named usr) .inr

theorem alike (stands : forecast.Stands policy names s) (alike : Alike s after) :
    forecast.Stands policy names after where
  configured := alike.policy.trans stands.configured
  agrees := alike.store ▸ stands.agrees
  values := alike.store ▸ stands.values
  dropped := fun number dropped =>
    alike.store ▸ stands.dropped number (alike.dropped ▸ dropped)
  stillNamed := fun usr named => by
    rw [isNamed, alike.named]
    exact stands.stillNamed usr named
  named := fun usr named => stands.named usr (by rwa [isNamed, alike.named] at named)

theorem entered (stands : forecast.Stands policy names s) (name : String) :
    forecast.Stands policy names (s.entered name) := stands.alike ⟨rfl, rfl, rfl, rfl⟩

theorem drop (stands : forecast.Stands policy names s) (usr : String)
    (refused : ∀ number, (forecast.sources.forest.cursor number).usr = usr →
      (forecast.sources.forest.report number).isRefused forecast.view = true ∧
        (forecast.sources.forest.report number).passAsked forecast.view ⊆ s.store.keys) :
    (drop usr).Ensures forecast.sources.forest s
      (fun _ after => forecast.Stands policy names after ∧ after.store = s.store)
      fun _ _ => True := by
  refine ensures_modify.mpr ?_
  split
  · exact ⟨stands, rfl⟩
  · refine ⟨{ stands with dropped := fun number dropped => ?_ }, rfl⟩
    rcases List.mem_append.mp dropped with dropped | own
    · exact stands.dropped number dropped
    · exact refused number (List.mem_singleton.mp own)

theorem publish {d : Declaration} (stands : forecast.Stands policy names s)
    (coherent : forecast.Coherent) (apart : forecast.sources.forest.ValuesApart policy)
    (fresh : d.usr ∉ s.store.keys)
    (own : d.usr ∈ forecast.sources.forest.valueUsrs policy number)
    (presents : forecast.sources.Presents d.usr d.body.kind) (value : d.body.IsValue)
    (reaches : forecast.Reaches d.usr)
    (asked : (forecast.sources.forest.report number).passAsked forecast.view ⊆
      s.store.keys) :
    forecast.Stands policy names { s with store := s.store.push d } where
  configured := stands.configured
  agrees := stands.agrees.value coherent fresh presents value reaches
  values := by
    intro other key listed published
    rw [Store.keys_push] at published ⊢
    refine List.subset_append_of_subset_left _ ?_
    rcases List.mem_append.mp published with published | same
    · exact stands.values other key listed published
    · obtain rfl := List.mem_singleton.mp same
      rw [coherent.oneReport other number (apart other number d.usr listed own)]
      exact asked
  dropped := by
    intro other dropped
    rw [Store.keys_push]
    exact (stands.dropped other dropped).imp_right (List.subset_append_of_subset_left _)
  stillNamed := stands.stillNamed
  named := stands.named

end Stands

/-- The visit leaves a session of which the same holds, and publishes what it starts
with. -/
def Lasts (forecast : Forecast) (policy : Policy) (names : List (String × String))
    (s : Session) (step : Step α) (starts : List String) : Prop :=
  step.Ensures forecast.sources.forest s
    (fun _ after => forecast.Stands policy names after ∧ starts ⊆ after.store.keys)
    fun _ _ => True

namespace Lasts

variable {starts : List String}

theorem of_agreeing {step : Step α} (stands : forecast.Stands policy names s)
    (coherent : forecast.Coherent) (allowed : policy ∈ forecast.sources.policies)
    (agreeing : forecast.Agreeing [] s step fun _ grown => starts ⊆ grown.keys) :
    forecast.Lasts policy names s step starts :=
  Step.Ensures.imp agreeing
    (fun _ _ given => ⟨stands.goes coherent allowed given.1 given.2.1, given.2.2⟩)
    fun _ _ failed => failed

theorem pure {value : α} (stands : forecast.Stands policy names s)
    (published : starts ⊆ s.store.keys) :
    forecast.Lasts policy names s (Pure.pure value) starts := ⟨stands, published⟩

theorem look {step : Step α} {next : α → Step β} {value : α}
    (answers : step.run forecast.sources.forest s = (.ok value, s))
    (rest : forecast.Lasts policy names s (next value) starts) :
    forecast.Lasts policy names s (step >>= next) starts :=
  Step.Ensures.look answers rest

theorem bind_selected {result : Except SelectionError α} {next : α → Step β}
    (second : ∀ answer, result = .ok answer →
      forecast.Lasts policy names s (next answer) starts) :
    forecast.Lasts policy names s (selected result >>= next) starts := by
  cases result with
  | ok answer => exact .look rfl (second answer rfl)
  | error => exact trivial

theorem bind_silent {step : Step α} {next : α → Step β} (silent : step.Silent)
    (second : ∀ value middle, Alike s middle →
      forecast.Lasts policy names middle (next value) starts) :
    forecast.Lasts policy names s (step >>= next) starts :=
  Step.Ensures.bind (silent _ s) second

theorem withFrame {name : String} {body : Nat → Step α}
    (inside : forecast.Lasts policy names (s.entered name) (body s.frames) starts) :
    forecast.Lasts policy names s (withFrame name body) starts := by
  refine ensures_withFrame_of_ok (Step.Ensures.imp inside ?_ fun _ _ failed => failed)
  intro _ after given context
  exact ⟨given.1.alike ⟨rfl, rfl, rfl, rfl⟩, given.2⟩

end Lasts

/-! What functions and globals have in common. -/

/-- Nothing is unfinished between two visits, so only what is asked for matters. -/
theorem admits_of_reaches {asked : List String} {weighed : List CType}
    (reaches : ∀ key ∈ asked, forecast.Reaches key) : forecast.Admits [] asked weighed where
  asked := fun key own => ⟨reaches key own, by simp⟩
  weighed := by simp

theorem Agrees.passes {store : Store} {native : NativeType}
    (agrees : forecast.Agrees [] store) (coherent : forecast.Coherent)
    (asked : (forecast.answer native).asked ⊆ store.keys) :
    store.passes (forecast.answer native).type =
      forecast.view.passes (forecast.answer native).type := by
  have mentioned : (forecast.answer native).type.mentions ⊆ (forecast.answer native).asked :=
    Answer.mentions_ofType _
  obtain ⟨supported, complete⟩ :=
    agrees.consult coherent (List.Subset.trans mentioned asked) (by simp)
  rw [Store.passes, Store.passes, supported, complete]

namespace Stands

theorem valueStarts_subset (stands : forecast.Stands policy names s)
    (bound : ∀ key ∈ forecast.sources.forest.valueUsrs policy number, key ∈ s.store.keys)
    (some : forecast.sources.forest.valueUsrs policy number ≠ []) :
    forecast.sources.forest.valueStarts forecast.view policy number ⊆ s.store.keys := by
  obtain ⟨key, own⟩ := List.exists_mem_of_ne_nil _ some
  refine List.append_subset.mpr ⟨stands.values number key own (bound key own), ?_⟩
  split
  · exact List.nil_subset _
  · exact bound

theorem valueStarts_of_dropped (stands : forecast.Stands policy names s)
    (dropped : (forecast.sources.forest.cursor number).usr ∈ s.dropped) :
    forecast.sources.forest.valueStarts forecast.view policy number ⊆ s.store.keys := by
  obtain ⟨refused, asked⟩ := stands.dropped number dropped
  simpa [Forest.valueStarts, refused] using asked

end Stands

/-- What is refused is dropped. -/
theorem Stands.refuse {source message text : String} {reason : Reason} {c : Cursor}
    (own : c = forecast.sources.forest.cursor number)
    (stands : forecast.Stands policy names s) (coherent : forecast.Coherent)
    (refused : (forecast.sources.forest.report number).isRefused forecast.view = true)
    (asked : (forecast.sources.forest.report number).passAsked forecast.view ⊆
      s.store.keys) :
    forecast.Lasts policy names s (Session.refuse source message c.spelling c.usr reason text)
      (forecast.sources.forest.valueStarts forecast.view policy number) := by
  refine .bind_silent (silent_debug _ _) fun _ logged alike => ?_
  refine .bind_silent (silent_diagnose _ _ _ _) fun _ noted alike' => ?_
  have alike := alike.trans alike'
  have dropped := (stands.alike alike).drop c.usr fun other same => ?_
  · refine Step.Ensures.bind dropped fun _ after given => ⟨given.1, ?_⟩
    rw [given.2, alike.store]
    simpa [Forest.valueStarts, refused] using asked
  · rw [coherent.oneReport other number (same.trans (own ▸ rfl)), alike.store]
    exact ⟨refused, asked⟩

/-! Globals. -/

theorem isSome_globalRefusal? {store : Store} {type : CType} :
    (globalRefusal? store type).isSome = !store.passes type := by
  unfold globalRefusal? Store.passes
  cases store.isUnsupported type <;> cases store.isIncomplete type <;> rfl

section

variable (coherent : forecast.Coherent) (allowed : policy ∈ forecast.sources.policies)
  (apart : forecast.sources.forest.ValuesApart policy)
  (stands : forecast.Stands policy names s)
include coherent allowed apart stands

theorem addGlobal_lasts (kind : (forecast.sources.forest.cursor number).kind = .global)
    (reaches : ∀ key ∈ forecast.sources.forest.valueStarts forecast.view policy number,
      forecast.Reaches key) :
    forecast.Lasts policy names s (addGlobal (forecast.sources.forest.cursor number))
      (forecast.sources.forest.valueStarts forecast.view policy number) := by
  have asks : (forecast.sources.forest.report number).passAsked forecast.view =
      (forecast.answer (forecast.sources.forest.cursor number).type).asked := by
    simp [Report.passAsked, Report.passed, Forest.report, kind, answer]
  have refuses : (forecast.sources.forest.report number).isRefused forecast.view =
      !forecast.view.passes
        (forecast.answer (forecast.sources.forest.cursor number).type).type := by
    simp [Report.isRefused, Report.passed, Forest.report, kind, answer]
  have usrs : forecast.sources.forest.valueUsrs policy number =
      [(forecast.sources.forest.cursor number).usr] := by
    simp [Forest.valueUsrs, kind]
  refine .bind_silent (silent_debug _ _) fun _ logged alike => ?_
  have stands := stands.alike alike
  have resolves := resolve_agrees coherent (declare_supplies coherent) _
    (Sources.parts_of_cursor (Cursor.type_mem_types _)) logged _ rfl
    (admits_of_reaches fun key own => reaches key (List.mem_append_left _ (asks ▸ own)))
    stands.agrees
  refine Step.Ensures.bind resolves fun type resolved given => ?_
  obtain ⟨goes, agrees, rfl, asked⟩ := given
  have stands := stands.goes coherent allowed goes agrees
  have passes := agrees.passes coherent asked
  refine Lasts.look rfl ?_
  split
  · rename_i refusal found
    refine stands.refuse rfl coherent ?_ (asks ▸ asked)
    rw [refuses, ← passes, ← isSome_globalRefusal?, found]
    rfl
  · rename_i found
    have starts : forecast.sources.forest.valueStarts forecast.view policy number =
        (forecast.answer (forecast.sources.forest.cursor number).type).asked ++
          [(forecast.sources.forest.cursor number).usr] := by
      simp [Forest.valueStarts, asks, refuses, ← passes, ← isSome_globalRefusal?, found, usrs]
    refine .look rfl (.bind_selected fun name _ => .look rfl (.bind_selected fun exposed _ => ?_))
    refine Step.ensures_bind.mpr (ensures_publish (fun fresh => ?_) fun _ => trivial)
    refine Lasts.pure ?_ ?_
    · exact stands.publish coherent apart fresh (by simp [usrs])
        (.cursor (by rw [kind]; rfl)) (.global _ _ _) (reaches _ (by simp [starts]))
        (asks ▸ asked)
    · rw [starts, Store.keys_push]
      exact List.append_subset.mpr
        ⟨List.subset_append_of_subset_left _ asked, List.subset_append_right _ _⟩

theorem visitGlobal_lasts (kind : (forecast.sources.forest.cursor number).kind = .global)
    (reaches : ∀ key ∈ forecast.sources.forest.starts forecast.view policy names number,
      forecast.Reaches key) :
    forecast.Lasts policy names s (visitGlobal number)
      (forecast.sources.forest.starts forecast.view policy names number) := by
  simp only [Forest.starts, kind] at reaches ⊢
  refine .look rfl (.withFrame (.look rfl ?_))
  have stands := stands.entered (forecast.sources.forest.cursor number).spelling
  split
  · rename_i published
    refine .pure stands ?_
    split
    · refine stands.valueStarts_subset ?_ (by simp [Forest.valueUsrs, kind])
      simpa [Forest.valueUsrs, kind] using mem_keys_of_published published
    · exact List.nil_subset _
  split
  · rename_i static
    exact .pure stands (by simp_all)
  rename_i visible
  refine .look rfl (.bind_selected fun answer selected => ?_)
  rw [stands.configured] at selected
  split
  · rename_i refused
    exact Lasts.pure stands (by simp_all [chosen])
  rename_i taken
  have own : ((forecast.sources.forest.cursor number).storage != .static &&
      chosen (policy.globals.includes (forecast.sources.forest.cursor number).usr
        (forecast.sources.forest.cursor number).spelling)) = true := by
    simp_all [chosen]
  rw [if_pos own] at reaches ⊢
  refine .look rfl ?_
  split
  · rename_i dropped
    exact .pure stands (stands.valueStarts_of_dropped (List.contains_iff_mem.mp dropped))
  · exact addGlobal_lasts coherent allowed apart stands kind reaches

end

/-! Functions. -/

/-- The types of parameters that have been resolved. The frame tells whether values can be
passed through all of them. -/
structure Gathered (forecast : Forecast) (outer base : Session) (natives : List NativeType)
    (s : Session) : Prop where
  inside : Inside outer s
  goes : forecast.Goes base s
  agrees : forecast.Agrees [] s.store
  asked : ∀ native ∈ natives, (forecast.answer native).asked ⊆ s.store.keys
  clean : s.Clean ↔
    ∀ native ∈ natives, forecast.view.passes (forecast.answer native).type = true

namespace Gathered

variable {natives : List NativeType}

theorem still (gathered : forecast.Gathered outer base natives s) {step : Step α}
    (quiet : step.Quiet) (silent : step.Silent) :
    step.Ensures forecast.sources.forest s
      (fun _ after => forecast.Gathered outer base natives after) fun _ _ => True := by
  refine ((quiet _ s).and (silent _ s)).imp (fun _ after given => ?_) fun _ _ _ => trivial
  obtain ⟨⟨kept, -⟩, alike⟩ := given
  exact
    { inside := gathered.inside.of_kept kept
      goes := gathered.goes.trans (.of_alike alike)
      agrees := alike.store ▸ gathered.agrees
      asked := alike.store ▸ gathered.asked
      clean := kept.clean_iff.trans gathered.clean }

/-- One more type is resolved. -/
theorem resolve (gathered : forecast.Gathered outer base natives s)
    (coherent : forecast.Coherent) (framed : outer.Framed) {native : NativeType}
    (own : native ∈ (forecast.sources.forest.cursor number).types)
    (reaches : ∀ key ∈ (forecast.answer native).asked, forecast.Reaches key) :
    (resolve declare native).Ensures forecast.sources.forest s
      (fun type after => type = (forecast.answer native).type ∧
        (forecast.answer native).asked ⊆ after.store.keys ∧
        forecast.Gathered outer base natives after)
      fun _ _ => True := by
  have fares := Sources.resolve_fares Sources.declare_serves native
    (Sources.parts_of_cursor own) s
    (Sources.ready_of_framed (gathered.inside.framed framed) 0)
  have agreeing := resolve_agrees coherent (declare_supplies coherent) native
    (Sources.parts_of_cursor own) s _ rfl (admits_of_reaches reaches) gathered.agrees
  refine (Step.Ensures.and fares agreeing).imp (fun type after given => ?_) fun _ _ _ => trivial
  obtain ⟨⟨kept, -⟩, goes, agrees, rfl, asked⟩ := given
  exact ⟨rfl, asked,
    { inside := gathered.inside.of_kept kept
      goes := gathered.goes.trans goes
      agrees := agrees
      asked := fun other member => List.Subset.trans (gathered.asked other member) goes.keys
      clean := kept.clean_iff.trans gathered.clean }⟩

theorem asked_append (gathered : forecast.Gathered outer base natives s) {native : NativeType}
    (asked : (forecast.answer native).asked ⊆ s.store.keys) :
    ∀ other ∈ natives ++ [native], (forecast.answer other).asked ⊆ s.store.keys := by
  intro other member
  rcases List.mem_append.mp member with member | member
  · exact gathered.asked other member
  · exact List.mem_singleton.mp member ▸ asked

theorem append (gathered : forecast.Gathered outer base natives s) {native : NativeType}
    (asked : (forecast.answer native).asked ⊆ s.store.keys)
    (passes : forecast.view.passes (forecast.answer native).type = true) :
    forecast.Gathered outer base (natives ++ [native]) s where
  inside := gathered.inside
  goes := gathered.goes
  agrees := gathered.agrees
  asked := gathered.asked_append asked
  clean := by simp [gathered.clean, or_imp, forall_and, passes]

theorem mark (gathered : forecast.Gathered outer base natives s) (framed : outer.Framed)
    {native : NativeType} {change : Frame → Frame} (keeps : ∀ f, (change f).number = f.number)
    (marks : ∀ f, ¬ ((change f).incompleteParameter = false ∧
      (change f).unsupportedParameter = false))
    (asked : (forecast.answer native).asked ⊆ s.store.keys)
    (fails : forecast.view.passes (forecast.answer native).type = false) :
    (changeFrame outer.frames change).Ensures forecast.sources.forest s
      (fun _ after => forecast.Gathered outer base (natives ++ [native]) after)
      fun _ _ => True := by
  have marked : OutcomeInside forecast.sources.forest outer s (changeFrame outer.frames change)
      _ fun _ _ => True := .changeFrame gathered.inside framed keeps
  refine (Step.Ensures.and marked (silent_changeFrame _ _ _ s)).imp (fun _ after given => ?_)
    fun _ _ _ => trivial
  obtain ⟨⟨inside, same, flagged⟩, alike⟩ := given
  exact
    { inside := inside
      goes := gathered.goes.trans (.of_alike alike)
      agrees := same ▸ gathered.agrees
      asked := same ▸ gathered.asked_append asked
      clean := by
        refine iff_of_false (fun clean => ?_) fun all => ?_
        · obtain ⟨f, -, fine⟩ := flagged clean
          exact marks f fine
        · simp [all native (by simp)] at fails }

end Gathered

theorem resolveParameter_gathers {natives : List NativeType}
    (gathered : forecast.Gathered outer base natives s) (coherent : forecast.Coherent)
    (framed : outer.Framed)
    (reaches : ∀ key ∈ (forecast.answer (forecast.sources.forest.cursor number).type).asked,
      forecast.Reaches key) :
    (resolveParameter declare outer.frames (forecast.sources.forest.cursor number)).Ensures
      forecast.sources.forest s
      (fun _ after => forecast.Gathered outer base
        (natives ++ [(forecast.sources.forest.cursor number).type]) after)
      fun _ _ => True := by
  refine (gathered.resolve coherent framed (Cursor.type_mem_types _) reaches).bind ?_
  intro type resolved given
  obtain ⟨rfl, asked, gathered⟩ := given
  have passes := gathered.agrees.passes coherent asked
  refine .look rfl ?_
  split
  · rename_i incomplete
    refine Step.ensures_bind.mpr (gathered.mark framed (fun _ => rfl) (by simp) asked ?_)
    rw [← passes]
    simp [Store.passes, incomplete]
  split
  · rename_i lost
    refine Step.ensures_bind.mpr (gathered.mark framed (fun _ => rfl) (by simp) asked ?_)
    rw [← passes]
    simp [Store.passes, lost]
  · rename_i complete supported
    refine gathered.append asked ?_
    rw [← passes]
    simp [Store.passes, complete, supported]

def argumentNatives (forecast : Forecast) (arguments : List Nat) : List NativeType :=
  arguments.map fun argument => (forecast.sources.forest.cursor argument).type

theorem functionParameters_gathers (coherent : forecast.Coherent) (framed : outer.Framed)
    (owner : String) (arguments : List Nat) (index : Nat) (natives : List NativeType)
    (s : Session) (gathered : forecast.Gathered outer base natives s)
    (reaches : ∀ native ∈ forecast.argumentNatives arguments,
      ∀ key ∈ (forecast.answer native).asked, forecast.Reaches key) :
    (functionParameters outer.frames owner index arguments).Ensures forecast.sources.forest s
      (fun _ after =>
        forecast.Gathered outer base (natives ++ forecast.argumentNatives arguments) after)
      fun _ _ => True := by
  induction arguments generalizing index natives s with
  | nil => simpa [functionParameters, argumentNatives] using gathered
  | cons argument rest induction =>
      have collects (selection : Selection) (spelling : String) (type : CType)
          (current : Session) (gathered : forecast.Gathered outer base
            (natives ++ [(forecast.sources.forest.cursor argument).type]) current) :
          (collectParameter selection owner spelling index type
            (functionParameters outer.frames owner (index + 1) rest)).Ensures
            forecast.sources.forest current
            (fun _ after => forecast.Gathered outer base
              (natives ++ forecast.argumentNatives (argument :: rest)) after)
            fun _ _ => True := by
        refine (gathered.still (quiet_parameterName _ _ _ _)
          (silent_parameterName _ _ _ _)).bind fun _ named gathered => ?_
        refine (induction (index + 1) _ named gathered fun native member =>
          reaches native (List.mem_cons_of_mem _ member)).bind fun _ _ gathered => ?_
        simpa [argumentNatives] using gathered
      refine .look rfl ((gathered.still (quiet_debug _ _) (silent_debug _ _)).bind ?_)
      intro _ logged gathered
      refine (resolveParameter_gathers gathered coherent framed
        (reaches _ List.mem_cons_self)).bind fun type resolved gathered => .look rfl ?_
      split
      · refine (gathered.still (quiet_debug _ _) (silent_debug _ _)).bind ?_
        exact fun _ logged gathered => .look rfl (collects _ _ type logged gathered)
      · exact .look rfl (collects _ _ type resolved gathered)

theorem isSome_functionRefusal? {c : Cursor} {store : Store} {result : CType} {f : Frame} :
    (functionRefusal? c store result f).isSome =
      (c.inlined && c.storage != .external || !store.passes result ||
        (f.incompleteParameter || f.unsupportedParameter)) := by
  unfold functionRefusal? Store.passes
  cases c.inlined && c.storage != .external <;> cases store.isIncomplete result <;>
    cases store.isUnsupported result <;> cases f.incompleteParameter <;>
    cases f.unsupportedParameter <;> rfl

section

variable (kind : (forecast.sources.forest.cursor number).kind = .function)
include kind

theorem passed_function :
    (forecast.sources.forest.report number).passed forecast.view =
      forecast.answer (forecast.sources.forest.cursor number).result ::
        (forecast.argumentNatives (forecast.sources.forest.cursor number).arguments).map
          forecast.answer := by
  simp [Report.passed, Forest.report, kind, argumentNatives, answer]

theorem isRefused_function
    (gathered : forecast.Gathered outer base
      (forecast.argumentNatives (forecast.sources.forest.cursor number).arguments) s)
    (passes : s.store.passes
        (forecast.answer (forecast.sources.forest.cursor number).result).type =
      forecast.view.passes
        (forecast.answer (forecast.sources.forest.cursor number).result).type) :
    (functionRefusal? (forecast.sources.forest.cursor number) s.store
        (forecast.answer (forecast.sources.forest.cursor number).result).type
        ((s.context.find? (·.number == outer.frames)).getD
          { number := outer.frames, name := "" })).isSome =
      (forecast.sources.forest.report number).isRefused forecast.view := by
  have clean := gathered.inside.clean_iff.symm.trans gathered.clean
  generalize (s.context.find? (·.number == outer.frames)).getD
    { number := outer.frames, name := "" } = found at clean
  have flags : (found.incompleteParameter || found.unsupportedParameter) =
      ((forecast.argumentNatives (forecast.sources.forest.cursor number).arguments).map
        forecast.answer).any fun answer => !forecast.view.passes answer.type := by
    rw [← Bool.not_inj_iff, Bool.eq_iff_iff]
    simpa using clean
  rw [isSome_functionRefusal?, passes, flags, Report.isRefused, passed_function kind,
    List.any_cons]
  simp [Forest.report, kind, Bool.or_assoc]

variable (coherent : forecast.Coherent) (allowed : policy ∈ forecast.sources.policies)
  (apart : forecast.sources.forest.ValuesApart policy)
include coherent allowed apart

theorem publishFunctions_lasts (frameNumber : Nat) (ds : List Declaration) (s : Session)
    (stands : forecast.Stands policy names s)
    (own : ∀ d ∈ ds, d.usr ∈ forecast.sources.forest.valueUsrs policy number)
    (functions : ∀ d ∈ ds, ∃ f, d.body = .function f)
    (reaches : ∀ d ∈ ds, forecast.Reaches d.usr)
    (asked : (forecast.sources.forest.report number).passAsked forecast.view ⊆ s.store.keys) :
    (publishFunctions frameNumber ds).Ensures forecast.sources.forest s
      (fun _ after => forecast.Stands policy names after ∧ s.store.keys ⊆ after.store.keys ∧
        ∀ d ∈ ds, d.usr ∈ after.store.keys)
      fun _ _ => True := by
  induction ds generalizing s with
  | nil => exact ⟨stands, List.Subset.refl _, by simp⟩
  | cons d rest induction =>
      have notes (current : Session) (stands : forecast.Stands policy names current)
          (keys : s.store.keys ⊆ current.store.keys) (published : d.usr ∈ current.store.keys) :
          (do note frameNumber d.usr; publishFunctions frameNumber rest).Ensures
            forecast.sources.forest current
            (fun _ after => forecast.Stands policy names after ∧
              s.store.keys ⊆ after.store.keys ∧
              ∀ other ∈ d :: rest, other.usr ∈ after.store.keys)
            fun _ _ => True := by
        refine Step.Ensures.bind (silent_changeFrame _ _ _ current) fun _ noted alike => ?_
        rw [← alike.store] at keys published
        refine (induction noted (stands.alike alike)
          (fun other member => own other (List.mem_cons_of_mem _ member))
          (fun other member => functions other (List.mem_cons_of_mem _ member))
          (fun other member => reaches other (List.mem_cons_of_mem _ member))
          (List.Subset.trans asked keys)).imp (fun _ after given => ?_) fun _ _ failed => failed
        obtain ⟨stands, grown, all⟩ := given
        refine ⟨stands, List.Subset.trans keys grown, fun other member => ?_⟩
        rcases List.mem_cons.mp member with rfl | member
        · exact grown published
        · exact all other member
      refine .look rfl ?_
      split
      · refine Step.ensures_bind.mpr (ensures_publish (fun fresh => ?_) fun _ => trivial)
        obtain ⟨f, body⟩ := functions d List.mem_cons_self
        have bound := own d List.mem_cons_self
        refine notes _ (stands.publish coherent apart fresh bound ?_ ?_
          (reaches d List.mem_cons_self) asked) (by simp) (by simp)
        · rw [body]
          exact Sources.presents_function allowed kind bound
        · rw [body]
          exact .function f
      · rename_i contained
        refine notes s stands (List.Subset.refl _) (Store.contains_iff_mem_keys.mp ?_)
        simpa using contained

/-- A function that is not refused is bound once for each signature. -/
theorem bindFunctions_lasts {signatures : List CallSignature} {frameNumber : Nat} {result : CType}
    {params : List Parameter} (stands : forecast.Stands policy names s)
    (usrs : forecast.sources.forest.valueUsrs policy number =
      signatureUsrs (forecast.sources.forest.cursor number) signatures)
    (starts : forecast.sources.forest.valueStarts forecast.view policy number =
      (forecast.sources.forest.report number).passAsked forecast.view ++
        forecast.sources.forest.valueUsrs policy number)
    (reaches : ∀ key ∈ forecast.sources.forest.valueStarts forecast.view policy number,
      forecast.Reaches key)
    (asked : (forecast.sources.forest.report number).passAsked forecast.view ⊆ s.store.keys) :
    forecast.Lasts policy names s
      (bindFunctions (forecast.sources.forest.cursor number) signatures frameNumber result params)
      (forecast.sources.forest.valueStarts forecast.view policy number) := by
  refine .look rfl (.look rfl (.bind_selected fun name _ => .bind_selected fun exposure _ => ?_))
  have own (signature : CallSignature) (member : signature ∈ signatures) :
      (forecast.sources.forest.cursor number).usr ++ signature.suffix ∈
        forecast.sources.forest.valueUsrs policy number :=
    usrs ▸ List.mem_map_of_mem member
  refine Step.Ensures.bind (publishFunctions_lasts kind coherent allowed apart _ _ s
    stands ?_ ?_ ?_ asked) fun _ published given => ?_
  · intro d member
    obtain ⟨signature, listed, rfl⟩ := List.mem_map.mp member
    exact own signature listed
  · intro d member
    obtain ⟨signature, listed, rfl⟩ := List.mem_map.mp member
    exact ⟨_, rfl⟩
  · intro d member
    obtain ⟨signature, listed, rfl⟩ := List.mem_map.mp member
    exact reaches _ (starts ▸ List.mem_append_right _ (own signature listed))
  obtain ⟨stands, keys, all⟩ := given
  refine Lasts.look rfl (.pure stands ?_)
  rw [starts, usrs]
  refine List.append_subset.mpr ⟨List.Subset.trans asked keys, fun key member => ?_⟩
  obtain ⟨signature, listed, rfl⟩ := List.mem_map.mp member
  exact all _ (List.mem_map_of_mem listed)

theorem addFunction_lasts {signatures : List CallSignature} {ignored : Bool}
    (specialized : policy.signatures.specialize (forecast.sources.forest.cursor number).spelling
      (forecast.sources.forest.cursor number).type.isVariadic = (signatures, ignored))
    (framed : outer.Framed) (inside : Inside outer s) (clean : s.Clean)
    (stands : forecast.Stands policy names s)
    (reaches : ∀ key ∈ forecast.sources.forest.valueStarts forecast.view policy number,
      forecast.Reaches key) :
    forecast.Lasts policy names s
      (addFunction (forecast.sources.forest.cursor number) signatures ignored outer.frames)
      (forecast.sources.forest.valueStarts forecast.view policy number) := by
  have asks : (forecast.sources.forest.report number).passAsked forecast.view =
      (forecast.answer (forecast.sources.forest.cursor number).result).asked ++
        (forecast.argumentNatives
          (forecast.sources.forest.cursor number).arguments).flatMap fun native =>
          (forecast.answer native).asked := by
    rw [Report.passAsked, passed_function kind, List.flatMap_cons, List.flatMap_map]
  have gathered : forecast.Gathered outer s [] s :=
    { inside, goes := .refl s, agrees := stands.agrees
      asked := by simp, clean := by simpa using clean }
  refine Step.Ensures.bind (gathered.still (quiet_debug _ _) (silent_debug _ _)) ?_
  intro _ logged gathered
  refine Step.Ensures.bind (gathered.resolve coherent framed (Cursor.result_mem_types _)
    fun key own => reaches key ?_) fun result resolved given => ?_
  · rw [Forest.valueStarts, asks, List.append_assoc]
    exact List.mem_append_left _ own
  obtain ⟨rfl, askedResult, gathered⟩ := given
  have stands := stands.goes coherent allowed gathered.goes gathered.agrees
  have restarted : forecast.Gathered outer resolved [] resolved :=
    { gathered with goes := .refl resolved }
  refine Step.Ensures.bind (functionParameters_gathers coherent framed _ _ 0 [] resolved
    restarted fun native member key own => reaches key ?_) fun params collected gathered => ?_
  · rw [Forest.valueStarts, asks]
    exact List.mem_append_left _
      (List.mem_append_right _ (List.mem_flatMap.mpr ⟨native, member, own⟩))
  have stands := stands.goes coherent allowed gathered.goes gathered.agrees
  have askedResult := List.Subset.trans askedResult gathered.goes.keys
  have asked : (forecast.sources.forest.report number).passAsked forecast.view ⊆
      collected.store.keys := by
    rw [asks]
    refine List.append_subset.mpr ⟨askedResult, fun key own => ?_⟩
    obtain ⟨native, member, own⟩ := List.mem_flatMap.mp own
    exact gathered.asked native member own
  have refuses := isRefused_function kind gathered
    (gathered.agrees.passes coherent askedResult)
  refine .look rfl (.look rfl ?_)
  split
  · rename_i refusal found
    rw [found] at refuses
    exact stands.refuse rfl coherent refuses.symm asked
  rename_i found
  rw [found] at refuses
  have usrs : forecast.sources.forest.valueUsrs policy number =
      signatureUsrs (forecast.sources.forest.cursor number) signatures := by
    simp [Forest.valueUsrs, kind, specialized]
  have starts : forecast.sources.forest.valueStarts forecast.view policy number =
      (forecast.sources.forest.report number).passAsked forecast.view ++
        forecast.sources.forest.valueUsrs policy number := by
    rw [Forest.valueStarts, ← refuses]
    rfl
  split
  · exact Step.Ensures.bind (silent_diagnose _ _ _ _ _ collected)
      fun _ current alike => bindFunctions_lasts kind coherent allowed apart
        (stands.alike alike) usrs starts reaches (alike.store ▸ asked)
  · exact bindFunctions_lasts kind coherent allowed apart stands usrs starts reaches asked

theorem visitFunction_lasts (framed : s.Framed) (stands : forecast.Stands policy names s)
    (reaches : ∀ key ∈ forecast.sources.forest.starts forecast.view policy names number,
      forecast.Reaches key) :
    forecast.Lasts policy names s (visitFunction number)
      (forecast.sources.forest.starts forecast.view policy names number) := by
  simp only [Forest.starts, kind] at reaches ⊢
  refine .look rfl (.look rfl ?_)
  rw [stands.configured]
  split
  rename_i signatures ignored specialized
  have inside := inside_entered s (forecast.sources.forest.cursor number).spelling
  have clean := clean_entered s (forecast.sources.forest.cursor number).spelling
  have stands := stands.entered (forecast.sources.forest.cursor number).spelling
  refine .withFrame (.look rfl (.bind_selected fun answer selected => ?_))
  split
  · rename_i refused
    exact Lasts.pure stands (by simp_all [chosen])
  rename_i taken
  have own : chosen (policy.functions.includes (forecast.sources.forest.cursor number).usr
      (forecast.sources.forest.cursor number).spelling) = true := by
    simp_all [chosen]
  rw [if_pos own] at reaches ⊢
  have usrs : forecast.sources.forest.valueUsrs policy number =
      signatureUsrs (forecast.sources.forest.cursor number) signatures := by
    simp [Forest.valueUsrs, kind, specialized]
  split
  · rename_i bound
    refine .pure stands (stands.valueStarts_subset (fun key own => ?_) ?_)
    · have published := List.all_eq_true.mp bound key (usrs ▸ own)
      by_contra absent
      simp [isFunctionAt, Store.lookup?_eq_none_iff.mpr absent] at published
    · have some := SignatureTable.specialize_ne_nil policy.signatures
        (forecast.sources.forest.cursor number).spelling
        (forecast.sources.forest.cursor number).type.isVariadic
      simpa [Forest.valueUsrs, kind, signatureUsrs] using some
  refine .look rfl ?_
  split
  · rename_i dropped
    exact .pure stands (stands.valueStarts_of_dropped (List.contains_iff_mem.mp dropped))
  · exact addFunction_lasts kind coherent allowed apart specialized framed inside clean stands
      reaches

end

end Forecast

end LuaBinder
