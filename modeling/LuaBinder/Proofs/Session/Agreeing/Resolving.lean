import LuaBinder.Proofs.Session.Forecast
import LuaBinder.Proofs.Session.Step

namespace LuaBinder

open Header Session

/-! Steps that keep a session in agreement with a forecast. A failure ends the session, so
only what succeeds matters. -/

namespace Session

variable {forest : Forest} {s middle after : Session}

/-- At most the frames, the diagnostics and the log are different. -/
structure Alike (s after : Session) : Prop where
  policy : after.policy = s.policy
  store : after.store = s.store
  dropped : after.dropped = s.dropped
  named : after.typedefNamed = s.typedefNamed

theorem Alike.refl (s : Session) : Alike s s := ⟨rfl, rfl, rfl, rfl⟩

theorem Alike.trans (first : Alike s middle) (second : Alike middle after) : Alike s after :=
  ⟨second.policy.trans first.policy, second.store.trans first.store,
    second.dropped.trans first.dropped, second.named.trans first.named⟩

def Step.Silent (step : Step α) : Prop :=
  ∀ forest s, step.Ensures forest s (fun _ after => Alike s after) fun _ _ => True

def silently : Manner where
  good := Alike
  bad := fun _ _ _ => True
  refl := .refl
  trans := .trans
  fails := fun _ _ => trivial
  selects := fun _ _ => trivial

theorem Step.silent_iff {step : Step α} : step.Silent ↔ ∀ forest, step.Keeps forest silently :=
  Iff.rfl

theorem silent_selected (result : Except SelectionError α) : (selected result).Silent :=
  Step.silent_iff.mpr fun _ => keeps_selected result

theorem silent_debug (source message : String) : (debug source message).Silent :=
  fun _ _ => ⟨rfl, rfl, rfl, rfl⟩

theorem silent_diagnose (name usr : String) (reason : Reason) (message : String) :
    (diagnose name usr reason message).Silent := fun _ _ => ⟨rfl, rfl, rfl, rfl⟩

theorem silent_changeFrame (number : Nat) (change : Frame → Frame) :
    (changeFrame number change).Silent := fun _ _ => ⟨rfl, rfl, rfl, rfl⟩

theorem silent_nameOf (c : Cursor) : (nameOf c).Silent :=
  Step.silent_iff.mpr fun _ => keeps_nameOf c

theorem silent_renameUnlessEmpty (selection : Selection) (name : String) :
    (renameUnlessEmpty selection name).Silent :=
  Step.silent_iff.mpr fun _ => keeps_renameUnlessEmpty selection name

theorem silent_parameterName (selection : Selection) (owner : String) (index : Nat)
    (spelling : String) : (parameterName selection owner index spelling).Silent :=
  Step.silent_iff.mpr fun _ => keeps_parameterName selection owner index spelling

/-- Inside the frame the step may end with any frames, as long as it ends. -/
theorem ensures_withFrame_of_ok {name : String} {body : Nat → Step α}
    {good : α → Session → Prop}
    (inside : (body s.frames).Ensures forest (s.entered name)
      (fun value after => ∀ context, good value { after with context }) fun _ _ => True) :
    (withFrame name body).Ensures forest s good fun _ _ => True := by
  refine ensures_withFrame_of_popped (inside.imp ?_ fun _ _ failed => failed)
  intro value after given popped context _
  exact given context

end Session

/-- Some typedef that is referred to names the anonymous declaration. -/
def Sources.NamesByTypedef (sources : Sources) (usr : String) : Prop :=
  ∃ number tag, sources.Requests .typedef number ∧
    anonymousTag? sources.forest (sources.forest.cursor number).underlying = some tag ∧
    (sources.forest.cursor tag).usr = usr

/-- Neither a function nor a global has the USR. -/
def Sources.Valueless (sources : Sources) (key : String) : Prop :=
  ∃ kind, sources.Presents key kind ∧ kind ≠ .function ∧ kind ≠ .global

theorem Sources.Requests.valueless {sources : Sources} {form : Form} {number : Nat}
    (requested : sources.Requests form number) :
    sources.Valueless (sources.forest.cursor number).usr := by
  refine ⟨_, requested, ?_⟩
  cases form <;> simp only [Form.kind]
  case record => cases recordKind _ <;> simp [RecordKind.declarationKind]
  all_goals simp

def Session.isNamed (s : Session) (usr : String) : Bool := s.typedefNamed.any (·.1 == usr)

namespace Forecast

variable {forecast : Forecast} {unfinished : List String} {s middle after : Session}
  {key : String}

/-- What declarations do to the session while they are built. -/
structure Goes (forecast : Forecast) (s after : Session) : Prop where
  policy : after.policy = s.policy
  entries : s.store.entries <+: after.store.entries
  dropped : after.dropped = s.dropped
  valueless : ∀ key ∈ after.store.keys, key ∈ s.store.keys ∨ forecast.sources.Valueless key
  stillNamed : ∀ usr, s.isNamed usr = true → after.isNamed usr = true
  named : ∀ usr, after.isNamed usr = true →
    s.isNamed usr = true ∨ forecast.sources.NamesByTypedef usr

namespace Goes

theorem of_alike (alike : Alike s after) : forecast.Goes s after where
  policy := alike.policy
  entries := by rw [alike.store]
  dropped := alike.dropped
  valueless := fun key published => .inl (alike.store ▸ published)
  stillNamed := fun usr named => by rwa [isNamed, alike.named]
  named := fun usr named => .inl (by rwa [isNamed, alike.named] at named)

theorem refl (s : Session) : forecast.Goes s s := .of_alike (.refl s)

theorem trans (first : forecast.Goes s middle) (second : forecast.Goes middle after) :
    forecast.Goes s after where
  policy := second.policy.trans first.policy
  entries := first.entries.trans second.entries
  dropped := second.dropped.trans first.dropped
  valueless := fun key published =>
    (second.valueless key published).elim (first.valueless key) .inr
  stillNamed := fun usr named => second.stillNamed usr (first.stillNamed usr named)
  named := fun usr named => (second.named usr named).elim (first.named usr) .inr

theorem keys (goes : forecast.Goes s after) : s.store.keys ⊆ after.store.keys :=
  (Store.prefix_keys goes.entries).subset

end Goes

/-- The step ends in agreement about all but the unfinished declarations, with nothing
changed that had been published at some earlier point. -/
def Ends (forecast : Forecast) (base : Session) (unfinished : List String) (s : Session)
    (step : Step α) (good : α → Store → Prop) : Prop :=
  step.Ensures forecast.sources.forest s
    (fun value after => forecast.Goes base after ∧ forecast.Agrees unfinished after.store ∧
      good value after.store)
    fun _ _ => True

namespace Ends

variable {base : Session}

theorem imp {step : Step α} {good good' : α → Store → Prop}
    (ends : forecast.Ends base unfinished s step good)
    (implied : ∀ value store, good value store → good' value store) :
    forecast.Ends base unfinished s step good' :=
  Step.Ensures.imp ends
    (fun _ _ given => ⟨given.1, given.2.1, implied _ _ given.2.2⟩) fun _ _ failed => failed

theorem look {step : Step α} {next : α → Step β} {good : β → Store → Prop} {value : α}
    (answers : step.run forecast.sources.forest s = (.ok value, s))
    (rest : forecast.Ends base unfinished s (next value) good) :
    forecast.Ends base unfinished s (step >>= next) good :=
  Step.Ensures.look answers rest

theorem bind_goes {step : Step α} {next : α → Step β} {good : β → Store → Prop}
    {good' : α → Session → Prop}
    (goes : step.Ensures forecast.sources.forest s good' fun _ _ => True)
    (second : ∀ value middle, good' value middle →
      forecast.Ends base unfinished middle (next value) good) :
    forecast.Ends base unfinished s (step >>= next) good :=
  Step.ensures_bind.mpr (goes.imp second fun _ _ failed => failed)

theorem bind_silent {step : Step α} {next : α → Step β} {good : β → Store → Prop}
    (silent : step.Silent)
    (second : ∀ value middle, Alike s middle →
      forecast.Ends base unfinished middle (next value) good) :
    forecast.Ends base unfinished s (step >>= next) good := bind_goes (silent _ s) second

theorem pure {value : α} {good : α → Store → Prop} (goes : forecast.Goes base s)
    (agrees : forecast.Agrees unfinished s.store) (result : good value s.store) :
    forecast.Ends base unfinished s (Pure.pure value) good := ⟨goes, agrees, result⟩

end Ends

/-- Nothing changes that has been published before the step. -/
abbrev Agreeing (forecast : Forecast) (unfinished : List String) (s : Session) (step : Step α)
    (good : α → Store → Prop) : Prop := forecast.Ends s unfinished s step good

namespace Agreeing

variable {base : Session}

theorem rebase {step : Step α} {good : α → Store → Prop}
    (agreeing : forecast.Agreeing unfinished s step good) (goes : forecast.Goes base s) :
    forecast.Ends base unfinished s step good :=
  Step.Ensures.imp agreeing (fun _ _ given => ⟨goes.trans given.1, given.2⟩)
    fun _ _ failed => failed

theorem bind_ends {step : Step α} {next : α → Step β} {good : α → Store → Prop}
    {good' : β → Store → Prop} {fewer : List String}
    (first : forecast.Agreeing unfinished s step good)
    (second : ∀ value middle, forecast.Goes s middle →
      forecast.Agrees unfinished middle.store → good value middle.store →
      forecast.Ends base fewer middle (next value) good') :
    forecast.Ends base fewer s (step >>= next) good' :=
  .bind_goes first fun value middle given => second value middle given.1 given.2.1 given.2.2

theorem bind {step : Step α} {next : α → Step β} {good : α → Store → Prop}
    {good' : β → Store → Prop} (first : forecast.Agreeing unfinished s step good)
    (second : ∀ value middle, forecast.Goes s middle →
      forecast.Agrees unfinished middle.store → good value middle.store →
      forecast.Agreeing unfinished middle (next value) good') :
    forecast.Agreeing unfinished s (step >>= next) good' :=
  first.bind_ends fun value middle goes agrees result =>
    (second value middle goes agrees result).rebase goes

theorem pure {value : α} {good : α → Store → Prop}
    (agrees : forecast.Agrees unfinished s.store) (result : good value s.store) :
    forecast.Agreeing unfinished s (Pure.pure value) good := Ends.pure (.refl s) agrees result

theorem look {step : Step α} {next : α → Step β} {good : β → Store → Prop} {value : α}
    (answers : step.run forecast.sources.forest s = (.ok value, s))
    (rest : forecast.Agreeing unfinished s (next value) good) :
    forecast.Agreeing unfinished s (step >>= next) good := Ends.look answers rest

theorem bind_silent {step : Step α} {next : α → Step β} {good : β → Store → Prop}
    (silent : step.Silent)
    (second : ∀ value middle, Alike s middle →
      forecast.Agreeing unfinished middle (next value) good) :
    forecast.Agreeing unfinished s (step >>= next) good :=
  Ends.bind_silent silent fun value middle alike =>
    (second value middle alike).rebase (.of_alike alike)

theorem withFrame {name : String} {body : Nat → Step α} {good : α → Store → Prop}
    (inside : forecast.Agreeing unfinished (s.entered name) (body s.frames) good) :
    forecast.Agreeing unfinished s (withFrame name body) good := by
  refine ensures_withFrame_of_ok (Step.Ensures.imp inside ?_ fun _ _ failed => failed)
  intro value after given context
  obtain ⟨goes, agrees, result⟩ := given
  exact ⟨⟨goes.policy, goes.entries, goes.dropped, goes.valueless, goes.stillNamed,
    goes.named⟩, agrees, result⟩

end Agreeing

/-! Types. -/

open Answer (Given AllGiven)

def answer (forecast : Forecast) (native : NativeType) : Answer :=
  .ofType forecast.view (forecast.sources.forest.reportType native)

/-- Whatever is asked for belongs to what is being built, and no outcome depends on lost
types that lead back to that. -/
structure Admits (forecast : Forecast) (unfinished asked : List String)
    (weighed : List CType) : Prop where
  asked : ∀ key ∈ asked,
    forecast.Reaches key ∧ ∀ started ∈ unfinished, forecast.LeadsTo started key
  weighed : ∀ type ∈ weighed, forecast.view.Lost type → ∀ head ∈ type.head?,
    ∀ started ∈ unfinished, ¬ forecast.LeadsTo head started

theorem Admits.sub {asked less : List String} {weighed fewer : List CType}
    (admits : forecast.Admits unfinished asked weighed) (inAsked : less ⊆ asked)
    (inWeighed : fewer ⊆ weighed) : forecast.Admits unfinished less fewer :=
  ⟨fun key found => admits.asked key (inAsked found),
    fun type found => admits.weighed type (inWeighed found)⟩

/-- The declaration can be asked for, and whatever is unfinished leads to it. -/
structure Due (forecast : Forecast) (unfinished : List String) (form : Form)
    (number : Nat) : Prop where
  requested : forecast.sources.Requests form number
  reaches : forecast.Reaches (forecast.sources.forest.cursor number).usr
  led : ∀ started ∈ unfinished,
    forecast.LeadsTo started (forecast.sources.forest.cursor number).usr

def Supplies (forecast : Forecast) (declare : Declare) : Prop :=
  ∀ unfinished form number s, forecast.Due unfinished form number →
    forecast.Agrees unfinished s.store →
    forecast.Agreeing unfinished s (declare form number) fun usr grown =>
      usr = (forecast.sources.forest.cursor number).usr ∧ usr ∈ grown.keys

theorem unsupported_agrees {spelling reason : String}
    (agrees : forecast.Agrees unfinished s.store) :
    forecast.Agreeing unfinished s (unsupported spelling reason)
      (Given (.unsupported spelling reason)) :=
  .bind_silent (silent_debug _ _) fun _ _ alike =>
    .pure (alike.store ▸ agrees) ⟨rfl, List.nil_subset _⟩

section

variable {declare : Declare} (coherent : forecast.Coherent) (supplies : forecast.Supplies declare)
include supplies

theorem resolveCompound_agrees {facts : TypeFacts TypeKind} {answer : Answer}
    (own : answer = .ofCompound (forecast.sources.forest.reportFacts facts))
    (admits : forecast.Admits unfinished answer.asked answer.weighed)
    (agrees : forecast.Agrees unfinished s.store) :
    forecast.Agreeing unfinished s (resolveCompound declare facts) (Given answer) := by
  unfold resolveCompound
  simp only [Answer.ofCompound, Forest.reportFacts] at own
  split
  · rename_i undeclared
    simp only [undeclared, Option.map_none] at own
    exact own ▸ unsupported_agrees agrees
  · rename_i number declared
    simp only [declared, Option.map_some, Forest.target] at own
    refine .look rfl ?_
    dsimp only
    split
    · rename_i form formed
      simp only [formed] at own
      subst own
      obtain ⟨reaches, led⟩ := admits.asked _ (List.mem_singleton_self _)
      have due : forecast.Due unfinished form number :=
        ⟨Sources.requests_of_formOf? formed, reaches, led⟩
      refine (supplies unfinished form number s due agrees).bind fun usr grown _ agrees given => ?_
      obtain ⟨rfl, published⟩ := given
      exact .pure agrees ⟨rfl, by simpa using published⟩
    · rename_i formless
      simp only [formless] at own
      exact own ▸ unsupported_agrees agrees

theorem resolveTypedef_agrees {native : NativeType} {number : Nat} {answer : Answer}
    (parts : ∀ part ∈ native.parts, forecast.sources.Part part) (kind : native.kind = .typedef)
    (declared : native.declaration? = some number)
    (own : answer = .ofTypedef (forecast.sources.forest.target number))
    (admits : forecast.Admits unfinished answer.asked answer.weighed)
    (agrees : forecast.Agrees unfinished s.store) :
    forecast.Agreeing unfinished s (resolveTypedef declare number) (Given answer) := by
  simp only [Answer.ofTypedef, Forest.target] at own
  refine .look rfl ?_
  split
  · rename_i primitive known
    simp only [known] at own
    exact .pure agrees ⟨by rw [own], by simp [own]⟩
  · rename_i unknown
    simp only [unknown] at own
    subst own
    obtain ⟨reaches, led⟩ := admits.asked _ (List.mem_singleton_self _)
    have requested : forecast.sources.Requests .typedef number :=
      .typedef (parts _ (TypeTree.mem_parts_self declared)) kind declared
    refine (supplies unfinished .typedef number s ⟨requested, reaches, led⟩ agrees).bind
      fun usr grown _ agrees given => ?_
    obtain ⟨rfl, published⟩ := given
    exact .pure agrees ⟨rfl, by simpa using published⟩

theorem resolveObject_agrees {native : NativeType} {answer : Answer}
    (own : answer = .ofObject (forecast.sources.forest.reportType native))
    (admits : forecast.Admits unfinished answer.asked answer.weighed)
    (agrees : forecast.Agrees unfinished s.store) :
    forecast.Agreeing unfinished s (resolveObject declare native) (Given answer) := by
  cases native with
  | absent =>
      subst own
      exact .pure agrees ⟨rfl, List.nil_subset _⟩
  | known facts =>
      simp only [Forest.reportType_known, Answer.ofObject, Forest.reportFacts] at own
      simp only [resolveObject]
      split
      · rename_i kind
        simp only [kind, ↓reduceIte] at own
        subst own
        refine (resolveCompound_agrees supplies rfl admits agrees).bind
          fun type grown _ agrees given => ?_
        exact .pure agrees ⟨congrArg (CType.pointer · false) given.1, given.2⟩
      · rename_i kind
        simp only [kind] at own
        subst own
        exact .pure agrees ⟨rfl, List.nil_subset _⟩

end

/-- What a type mentions has been published, and nothing that matters is unfinished. -/
def Seen (forecast : Forecast) (unfinished : List String) (store : Store) (type : CType) :
    Prop :=
  type.mentions ⊆ store.keys ∧ (forecast.view.Lost type → ∀ head ∈ type.head?,
    ∀ started ∈ unfinished, ¬ forecast.LeadsTo head started)

theorem Agrees.isUsableSignature {store : Store} {params : List (String × CType)}
    {result : CType} (agrees : forecast.Agrees unfinished store) (coherent : forecast.Coherent)
    (seen : ∀ type ∈ .pointer result false :: params.map (·.2),
      forecast.Seen unfinished store type) :
    Session.isUsableSignature store params result =
      Session.isUsableSignature forecast.view params result := by
  have consult (type : CType) (member : type ∈ .pointer result false :: params.map (·.2)) :=
    agrees.consult coherent (seen type member).1 (seen type member).2
  have own := (consult _ List.mem_cons_self).1
  rw [Store.isUnsupported_pointer, Store.isUnsupported_pointer] at own
  unfold Session.isUsableSignature
  rw [own, Bool.eq_iff_iff, Bool.and_eq_true, Bool.and_eq_true, List.all_eq_true,
    List.all_eq_true]
  refine and_congr_left fun _ => forall₂_congr fun p member => ?_
  obtain ⟨supported, complete⟩ := consult p.2 (List.mem_cons_of_mem _ (List.mem_map_of_mem member))
  rw [supported, complete]

theorem admits_ofFunction {facts : TypeFacts (TypeKind × Option Target)}
    {answers : List (String × Answer)} {outcome answer : Answer}
    (own : answer = .ofFunction forecast.view facts answers outcome)
    (admits : forecast.Admits unfinished answer.asked answer.weighed) :
    (∀ p ∈ answers, forecast.Admits unfinished p.2.asked p.2.weighed) ∧
      forecast.Admits unfinished outcome.asked outcome.weighed := by
  subst own
  refine ⟨fun p listed => admits.sub (fun key asked => ?_) fun type weighed => ?_,
    admits.sub (fun key asked => List.mem_append_right _ asked) fun type weighed => ?_⟩
  · exact List.mem_append_left _ (List.mem_flatMap.mpr ⟨p, listed, asked⟩)
  · exact List.mem_append_left _
      (List.mem_append_left _ (List.mem_flatMap.mpr ⟨p, listed, weighed⟩))
  · exact List.mem_append_left _ (List.mem_append_right _ weighed)

theorem finishFunction_agrees {facts : TypeFacts TypeKind}
    {answers : List (String × Answer)} {outcome : Answer} {params : List (String × CType)}
    {result : CType} {answer : Answer} (coherent : forecast.Coherent)
    (own : answer = .ofFunction forecast.view (forecast.sources.forest.reportFacts facts) answers
      outcome)
    (admits : forecast.Admits unfinished answer.asked answer.weighed)
    (mentioned : ∀ p ∈ answers, p.2.type.mentions ⊆ p.2.asked)
    (mentionedResult : outcome.type.mentions ⊆ outcome.asked)
    (all : AllGiven answers params s.store) (given : Given outcome result s.store)
    (agrees : forecast.Agrees unfinished s.store) :
    forecast.Agreeing unfinished s (finishFunction facts params result) (Given answer) := by
  obtain ⟨rfl, askedParams⟩ := all
  obtain ⟨rfl, askedResult⟩ := given
  have published : answer.asked ⊆ s.store.keys := by
    rw [own]
    exact List.append_subset.mpr ⟨askedParams, askedResult⟩
  have seen : ∀ type ∈ .pointer outcome.type false ::
      (answers.map fun p => (p.1, p.2.type)).map (·.2),
      forecast.Seen unfinished s.store type := by
    intro type member
    refine ⟨?_, admits.weighed type ?_⟩
    · rcases List.mem_cons.mp member with rfl | member
      · exact List.Subset.trans mentionedResult askedResult
      · simp only [List.map_map, List.mem_map, Function.comp_apply] at member
        obtain ⟨p, listed, rfl⟩ := member
        exact fun key own => askedParams
          (List.mem_flatMap.mpr ⟨p, listed, mentioned p listed own⟩)
    · rw [own]
      exact List.mem_append_right _ member
  have usable := agrees.isUsableSignature coherent seen
  refine .look rfl ?_
  simp only [Answer.ofFunction, ← usable] at own
  split
  · rename_i holds
    simp only [holds, ↓reduceIte] at own
    exact .pure agrees ⟨by rw [own], published⟩
  · rename_i fails
    simp only [fails] at own
    refine .bind_silent (silent_debug _ _) fun _ _ alike => ?_
    exact .pure (alike.store ▸ agrees) ⟨by rw [own]; rfl, alike.store ▸ published⟩

/-- A layer around a type asks for nothing else. -/
theorem Agreeing.layer {step : Step CType} {answer : Answer} (change : CType → CType)
    (agreeing : forecast.Agreeing unfinished s step (Given answer)) :
    forecast.Agreeing unfinished s (do return change (← step)) (Given (answer.map change)) :=
  agreeing.bind fun _ _ _ agrees given =>
    .pure agrees ⟨congrArg change given.1, given.2⟩

def answers (forecast : Forecast) (index : Nat) (natives : TypeTrees TypeKind) :
    List (String × Answer) :=
  Answer.ofTypes forecast.view index (forecast.sources.forest.reportTypes natives)

mutual

theorem resolve_agrees {declare : Declare} (coherent : forecast.Coherent)
    (supplies : forecast.Supplies declare) : (native : NativeType) →
    (∀ part ∈ native.parts, forecast.sources.Part part) → (s : Session) → (answer : Answer) →
    answer = forecast.answer native →
    forecast.Admits unfinished answer.asked answer.weighed →
    forecast.Agrees unfinished s.store →
    forecast.Agreeing unfinished s (resolve declare native) (Given answer)
  | .absent, _, _, _, own, _, agrees => own ▸ unsupported_agrees agrees
  | .known facts pointee element named result canonical arguments, parts, s, answer, own,
      admits, agrees => by
      simp only [Forecast.answer, Forest.reportType_known, Answer.ofType, Forest.reportFacts,
        Forest.isConst_reportType, Forest.kind_reportType, Forest.isNone_facts?_reportType]
        at own
      obtain ⟨-, inPointee, inElement, inNamed, inResult, inCanonical, inArguments⟩ :=
        TypeTree.forall_parts_known.mp parts
      rw [resolve]
      split
      · rename_i primitive known
        simp only [known] at own
        exact .pure agrees (by simp [Given, own])
      · rename_i reason unknown refused
        simp only [unknown, refused] at own
        exact own ▸ unsupported_agrees agrees
      rename_i unknown accepted
      simp only [unknown, accepted] at own
      split
      case h_1 kind => -- pointers
        simp only [kind] at own
        subst own
        have resolved := resolve_agrees coherent supplies pointee inPointee s _ rfl admits agrees
        exact resolved.layer fun type => .pointer type pointee.isConst
      case h_2 kind => -- pointers to objects
        simp only [kind] at own
        exact resolveObject_agrees supplies own admits agrees
      case h_3 kind =>
        simp only [kind] at own
        subst own
        have resolved := resolve_agrees coherent supplies element inElement s _ rfl admits agrees
        exact resolved.layer fun type => .array type (some facts.count)
      case h_4 kind =>
        simp only [kind] at own
        subst own
        have resolved := resolve_agrees coherent supplies element inElement s _ rfl admits agrees
        exact resolved.layer fun type => .array type none
      case h_5 kind => -- elaborated types
        simp only [kind] at own
        exact resolve_agrees coherent supplies named inNamed s _ own admits agrees
      case h_6 kind => -- typedefs
        simp only [kind] at own
        split
        · rename_i number declared
          simp only [declared, Option.map_some] at own
          exact resolveTypedef_agrees supplies parts kind declared own admits agrees
        · rename_i undeclared
          simp only [undeclared, Option.map_none] at own
          split
          · trivial
          · exact resolve_agrees coherent supplies canonical inCanonical s _ own admits agrees
      case h_7 kind | h_8 kind | h_9 kind =>
        simp only [kind] at own
        refine resolveCompound_agrees supplies ?_ admits agrees
        rw [own, Forest.reportFacts, kind]
      case h_10 kind => -- functions without a prototype
        simp only [kind] at own
        subst own
        have resolved := resolve_agrees coherent supplies result inResult s _ rfl admits agrees
        exact resolved.layer fun type => .function type .nil false
      case h_11 kind => -- function prototypes
        simp only [kind] at own
        split
        · rename_i variadic
          simp only [variadic, ↓reduceIte] at own
          exact own ▸ unsupported_agrees agrees
        rename_i fixed
        simp only [fixed] at own
        have admitted := admits_ofFunction own admits
        have first := resolveAll_agrees coherent supplies arguments inArguments 0 s
          admitted.1 agrees
        refine first.bind fun params middle _ agrees all => ?_
        have second := resolve_agrees coherent supplies result inResult middle _ rfl
          admitted.2 agrees
        refine second.bind fun type after goes agrees given => ?_
        exact finishFunction_agrees coherent own admits (Answer.mentions_ofTypes 0 _)
          (Answer.mentions_ofType _) (all.keys goes.keys) given agrees
      case h_12 kind => -- unexposed types
        simp only [kind] at own
        split
        · rename_i closed
          simp only [closed, ↓reduceIte] at own
          exact own ▸ unsupported_agrees agrees
        · rename_i known
          simp only [known] at own
          exact resolve_agrees coherent supplies canonical inCanonical s _ own admits agrees
      case h_13 => -- all others
        split at own
        case h_13 => exact own ▸ unsupported_agrees agrees
        all_goals contradiction

theorem resolveAll_agrees {declare : Declare} (coherent : forecast.Coherent)
    (supplies : forecast.Supplies declare) : (natives : TypeTrees TypeKind) →
    (∀ part ∈ natives.parts, forecast.sources.Part part) → (index : Nat) → (s : Session) →
    (∀ p ∈ forecast.answers index natives,
      forecast.Admits unfinished p.2.asked p.2.weighed) →
    forecast.Agrees unfinished s.store →
    forecast.Agreeing unfinished s (resolveAll declare index natives)
      (AllGiven (forecast.answers index natives))
  | .nil, _, _, _, _, agrees => .pure agrees ⟨rfl, List.nil_subset _⟩
  | .cons first rest, parts, index, s, admits, agrees => by
      obtain ⟨inFirst, inRest⟩ := TypeTrees.forall_parts_cons.mp parts
      rw [resolveAll]
      have here := resolve_agrees coherent supplies first inFirst s _ rfl
        (admits _ List.mem_cons_self) agrees
      refine here.bind fun type middle _ agrees given => ?_
      have later := resolveAll_agrees coherent supplies rest inRest (index + 1) middle
        (fun p listed => admits p (List.mem_cons_of_mem _ listed)) agrees
      refine later.bind fun params after goes agrees all => .pure agrees ?_
      exact
        { types := congrArg₂ List.cons (congrArg _ given.1) all.types
          asked := List.append_subset.mpr ⟨List.Subset.trans given.2 goes.keys, all.asked⟩ }

end

end Forecast

end LuaBinder
