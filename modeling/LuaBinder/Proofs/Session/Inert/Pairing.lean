import LuaBinder.Proofs.Declaration.Bare
import LuaBinder.Proofs.Session.Step

namespace LuaBinder

/-! Two runs of the same steps whose policies differ only in the names that they give and
in whether they ask for comments. What is said of two runs holds if both succeed. -/

/-- A selection that renames nothing. -/
def Selection.nameless (selection : Selection) : Selection :=
  { selection with renames := [], memberRenames := [] }

/-- A policy that renames nothing and asks for no comments. -/
def Policy.nameless (policy : Policy) : Policy :=
  { policy with
    comments := false
    functions := policy.functions.nameless
    structs := policy.structs.nameless
    unions := policy.unions.nameless
    enums := policy.enums.nameless
    unnamedEnums := policy.unnamedEnums.nameless
    typedefs := policy.typedefs.nameless
    globals := policy.globals.nameless
    macros := policy.macros.nameless
    interfaces := policy.interfaces.nameless
    leafFunctions := policy.leafFunctions.nameless
    functionTypes := policy.functionTypes.nameless }

/-- A diagnostic without its message. -/
def Diagnostic.bare (d : Diagnostic) : Diagnostic := { d with message := "" }

namespace Policy

variable {policy other : Policy} (same : policy.nameless = other.nameless)
include same

theorem selection_of_nameless (kind : SelectionKind) :
    (policy.selection kind).nameless = (other.selection kind).nameless := by
  have selections := congrArg (selection · kind) same
  cases kind <;> exact selections

theorem includes_of_nameless (kind : SelectionKind) (usr name : String) :
    (policy.selection kind).includes usr name = (other.selection kind).includes usr name := by
  have answers := congrArg (Selection.includes · usr name) (selection_of_nameless same kind)
  exact answers

theorem exposesAddress_of_nameless (kind : SelectionKind) (name : String) :
    (policy.selection kind).exposesAddress name =
      (other.selection kind).exposesAddress name := by
  have answers := congrArg (Selection.exposesAddress · name) (selection_of_nameless same kind)
  exact answers

theorem signatures_of_nameless : policy.signatures = other.signatures := by
  have signatures := congrArg signatures same
  exact signatures

theorem native_of_nameless : policy.native = other.native := by
  have native := congrArg native same
  exact native

end Policy

namespace Session

open Header Store

/-- Names, documentation, messages and the log apart, two sessions are the same. -/
structure Matches (s t : Session) : Prop where
  policy : s.policy.nameless = t.policy.nameless
  store : s.store.bare = t.store.bare
  context : s.context = t.context
  frames : s.frames = t.frames
  diagnostics : s.diagnostics.map Diagnostic.bare = t.diagnostics.map Diagnostic.bare
  typedefNamed : s.typedefNamed = t.typedefNamed
  dropped : s.dropped = t.dropped

variable {forest : Forest} {s after : Session}

theorem Step.run_bind_eq_ok {step : Step α} {next : α → Step β} {value : β}
    (succeeded : (step >>= next).run forest s = (.ok value, after)) :
    ∃ first middle, step.run forest s = (.ok first, middle) ∧
      (next first).run forest middle = (.ok value, after) := by
  rw [Step.run_bind] at succeeded
  split at succeeded
  · rename_i first middle found
    exact ⟨first, middle, found, succeeded⟩
  · cases succeeded

/-- Only what was done inside the frame counts, and the frame is on top at the end. -/
theorem run_withFrame_eq_ok {name : String} {body : Nat → Step α} {value : α}
    (succeeded : (withFrame name body).run forest s = (.ok value, after)) :
    ∃ middle popped context,
      (body s.frames).run forest (s.entered name) = (.ok value, middle) ∧
        middle.context.pop s.frames name = .ok (popped, context) ∧
        after = { middle with context } := by
  have finished : (withFrame name body).Ensures forest s
      (fun value after => ∃ middle popped context,
        (body s.frames).run forest (s.entered name) = (.ok value, middle) ∧
          middle.context.pop s.frames name = .ok (popped, context) ∧
          after = { middle with context }) fun _ _ => True := by
    refine ensures_withFrame_of_popped ?_
    unfold Step.Ensures
    split
    · rename_i value middle found
      exact fun popped context last => ⟨middle, popped, context, found, last, rfl⟩
    · trivial
  unfold Step.Ensures at finished
  rw [succeeded] at finished
  exact finished

/-- From matching sessions the two steps, if both succeed, give related values and leave
matching sessions. -/
def Step.Pairs (related : α → β → Prop) (step : Step α) (other : Step β) : Prop :=
  ∀ forest s t, s.Matches t → ∀ value after again ended,
    step.run forest s = (.ok value, after) → other.run forest t = (.ok again, ended) →
      related value again ∧ after.Matches ended

namespace Step

variable {related : α → β → Prop} {step : Step α} {other : Step β}

theorem Pairs.bind {result : γ → δ → Prop} {next : α → Step γ} {next' : β → Step δ}
    (pairs : Pairs related step other)
    (rest : ∀ value again, related value again → Pairs result (next value) (next' again)) :
    Pairs result (step >>= next) (other >>= next') := by
  intro forest s t alike value after again ended first second
  obtain ⟨found, middle, begun, first⟩ := run_bind_eq_ok first
  obtain ⟨found', middle', begun', second⟩ := run_bind_eq_ok second
  obtain ⟨values, sessions⟩ := pairs forest s t alike _ _ _ _ begun begun'
  exact rest found found' values forest middle middle' sessions _ _ _ _ first second

/-- The two steps go on with the same value. -/
theorem Pairs.next {result : γ → δ → Prop} {step other : Step α} {next : α → Step γ}
    {next' : α → Step δ} (pairs : Pairs Eq step other)
    (rest : ∀ value, Pairs result (next value) (next' value)) :
    Pairs result (step >>= next) (other >>= next') := by
  refine pairs.bind fun value again same => ?_
  subst same
  exact rest value

theorem pairs_pure {value : α} {again : β} (values : related value again) :
    Pairs related (pure value) (pure again) := by
  intro forest s t alike _ _ _ _ first second
  cases first
  cases second
  exact ⟨values, alike⟩

theorem pairs_throw {error error' : Error} :
    Pairs related (throw error : Step α) (throw error' : Step β) := by
  intro forest s t _ _ _ _ _ first
  cases first

theorem pairs_modify {change change' : Session → Session}
    (alike : ∀ s t, s.Matches t → (change s).Matches (change' t)) :
    Pairs Eq (modify change : Step Unit) (modify change') := by
  intro forest s t matching _ _ _ _ first second
  cases first
  cases second
  exact ⟨rfl, alike s t matching⟩

theorem pairs_get : Pairs Matches (get : Step Session) get := by
  intro forest s t alike _ _ _ _ first second
  cases first
  cases second
  exact ⟨alike, alike⟩

theorem pairs_read : Pairs Eq (read : Step Forest) read := by
  intro forest s t alike _ _ _ _ first second
  cases first
  cases second
  exact ⟨rfl, alike⟩

theorem pairs_forM {body body' : α → Step Unit} (items : List α)
    (pairs : ∀ item ∈ items, Pairs Eq (body item) (body' item)) :
    Pairs Eq (items.forM body) (items.forM body') := by
  induction items with
  | nil => exact pairs_pure rfl
  | cons item rest induction =>
      refine (pairs item List.mem_cons_self).next fun _ => ?_
      exact induction fun other member => pairs other (List.mem_cons_of_mem _ member)

end Step

open Step (Pairs pairs_pure pairs_throw pairs_modify pairs_get pairs_read pairs_forM)

/-! Steps that read. -/

theorem pairs_cursor (number : Nat) : Pairs Eq (cursor number) (cursor number) :=
  pairs_read.next fun _ => pairs_pure rfl

theorem pairs_getPolicy :
    Pairs (fun policy other => policy.nameless = other.nameless) getPolicy getPolicy :=
  pairs_get.bind fun _ _ alike => pairs_pure alike.policy

theorem pairs_getStore :
    Pairs (fun store other => store.bare = other.bare) getStore getStore :=
  pairs_get.bind fun _ _ alike => pairs_pure alike.store

theorem pairs_lookup? (usr : String) :
    Pairs (fun found again => found.map Declaration.bare = again.map Declaration.bare)
      (lookup? usr) (lookup? usr) :=
  pairs_getStore.bind fun _ _ same => pairs_pure (lookup?_of_bare same)

/-- Whether there is such a declaration does not depend on names, if its kind decides. -/
theorem pairs_published? {usr : String} {ok : Declaration → Bool}
    (plain : ∀ d, ok d.bare = ok d) :
    Pairs (fun found again => found.isSome = again.isSome) (published? usr ok)
      (published? usr ok) := by
  have filtered (found : Option Declaration) :
      (found.filter ok).isSome = ((found.map Declaration.bare).filter ok).isSome := by
    cases found with
    | none => rfl
    | some d => by_cases holds : ok d <;> simp [plain, holds]
  refine (pairs_lookup? usr).bind fun found again same => pairs_pure ?_
  rw [filtered found, same, ← filtered again]

theorem pairs_isDropped (usr : String) : Pairs Eq (isDropped usr) (isDropped usr) :=
  pairs_get.bind fun _ _ alike => pairs_pure (by rw [alike.dropped])

theorem pairs_frame (number : Nat) : Pairs Eq (frame number) (frame number) :=
  pairs_get.bind fun _ _ alike => pairs_pure (by rw [alike.context])

theorem pairs_noted (number : Nat) : Pairs Eq (noted number) (noted number) :=
  (pairs_frame number).next fun _ => pairs_pure rfl

theorem pairs_typedefName (usr : String) : Pairs Eq (typedefName usr) (typedefName usr) :=
  pairs_get.bind fun _ _ alike => pairs_pure (by rw [alike.typedefNamed])

theorem pairs_selected {result result' : Except SelectionError α} (same : result = result') :
    Pairs Eq (selected result) (selected result') := by
  subst same
  cases result with
  | ok answer => exact pairs_pure rfl
  | error error => exact pairs_throw

/-- Names may be anything. -/
theorem pairs_renamed (result result' : Except SelectionError α) :
    Pairs (fun _ _ => True) (selected result) (selected result') := by
  cases result with
  | error error =>
      intro forest s t _ _ _ _ _ first
      cases first
  | ok name =>
      cases result' with
      | ok name' => exact pairs_pure trivial
      | error error =>
          intro forest s t _ _ _ _ _ _ second
          cases second

theorem pairs_docOf (c c' : Cursor) : Pairs (fun _ _ => True) (docOf c) (docOf c') :=
  pairs_getPolicy.bind fun _ _ _ => pairs_pure trivial

/-! Steps that change the session in one place. -/

theorem pairs_record (level : LogLevel) (source source' message message' : String) :
    Pairs Eq (record level source message) (record level source' message') :=
  pairs_modify fun _ _ alike => { alike with }

theorem pairs_debug (source source' message message' : String) :
    Pairs Eq (debug source message) (debug source' message') := pairs_record _ _ _ _ _

theorem pairs_diagnose (name usr : String) (reason : Reason) (message message' : String) :
    Pairs Eq (diagnose name usr reason message) (diagnose name usr reason message') := by
  refine Pairs.next (pairs_modify fun s t alike => { alike with diagnostics := ?_ })
    fun _ => pairs_record _ _ _ _ _
  simp [alike.diagnostics, Diagnostic.bare]

theorem pairs_publish {d d' : Declaration} (same : d.bare = d'.bare) :
    Pairs Eq (publish d) (publish d') := by
  have usr : d.usr = d'.usr := by simpa [Declaration.bare] using congrArg Declaration.usr same
  refine pairs_getStore.bind fun store store' stores => ?_
  by_cases taken : d.usr ∈ store.keys
  · rw [insert_eq_error taken, insert_eq_error (usr ▸ keys_of_bare stores ▸ taken)]
    exact pairs_throw
  · rw [insert_eq_push taken, insert_eq_push (usr ▸ keys_of_bare stores ▸ taken)]
    refine pairs_modify fun s t alike => { alike with store := ?_ }
    rw [bare_push, bare_push, stores, same]

theorem pairs_amend {usr : String} {change change' : Body → Body} (changed : Body → Body)
    (first : ∀ body, (change body).bare = changed body.bare)
    (second : ∀ body, (change' body).bare = changed body.bare) :
    Pairs Eq (amend usr change) (amend usr change') := by
  refine pairs_modify fun s t alike => { alike with store := ?_ }
  rw [modify_eq_amendBody, modify_eq_amendBody, bare_amendBody first, bare_amendBody second,
    alike.store]

theorem pairs_drop (usr : String) : Pairs Eq (drop usr) (drop usr) := by
  refine pairs_modify fun s t alike => ?_
  rw [alike.dropped]
  split
  · exact alike
  · exact { alike with dropped := rfl }

theorem pairs_changeFrame (number : Nat) (change : Frame → Frame) :
    Pairs Eq (changeFrame number change) (changeFrame number change) := by
  refine pairs_modify fun s t alike => { alike with context := ?_ }
  rw [alike.context]

theorem pairs_nameByTypedef (usr name : String) :
    Pairs Eq (nameByTypedef usr name) (nameByTypedef usr name) := by
  refine pairs_modify fun s t alike => ?_
  rw [alike.typedefNamed]
  split
  · exact alike
  · exact { alike with typedefNamed := rfl }

theorem pairs_withFrame {related : α → β → Prop} {name : String} {body : Nat → Step α}
    {body' : Nat → Step β} (pairs : ∀ number, Pairs related (body number) (body' number)) :
    Pairs related (withFrame name body) (withFrame name body') := by
  intro forest s t alike value after again ended first second
  obtain ⟨middle, popped, context, begun, last, rfl⟩ := run_withFrame_eq_ok first
  obtain ⟨middle', popped', context', begun', last', rfl⟩ := run_withFrame_eq_ok second
  have entered : (s.entered name).Matches (t.entered name) :=
    { alike with
      context := by simp [Session.entered, alike.frames, alike.context]
      frames := congrArg (· + 1) alike.frames }
  rw [← alike.frames] at begun' last'
  obtain ⟨values, sessions⟩ :=
    pairs s.frames forest _ _ entered value middle again middle' begun begun'
  rw [sessions.context, last'] at last
  cases last
  exact ⟨values, { sessions with context := rfl }⟩

end Session

end LuaBinder
