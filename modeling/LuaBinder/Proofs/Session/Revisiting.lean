import LuaBinder.Proofs.Session.Courses
import LuaBinder.Proofs.Session.Fares.Running
import LuaBinder.Proofs.Session.Values.Fairness

namespace LuaBinder

open Header Session

/-! Visits leave the frames as they find them, also when they fail, and never fail because
of a frame or of a USR that is taken. -/

/-- A USR was taken, or a frame was missing. -/
def Session.Error.IsInternal : Error → Prop
  | .duplicate _ | .context _ => True
  | _ => False

namespace Sources

variable {sources : Sources} {s : Session} {error : Error}

theorem not_isInternal_of_raises (oneKind : sources.OneKind) (raises : sources.Raises error) :
    ¬ error.IsInternal := by
  intro internal
  cases error with
  | duplicate => exact raises oneKind
  | context => exact raises
  | selection | literal | tooDeep => exact internal

theorem Lands.restores {raises : Error → Prop} {step : Step α}
    (lands : sources.Lands s step raises) :
    (step.run sources.forest s).2.context = s.context ∧
      ∀ error, (step.run sources.forest s).1 = .error error → raises error := by
  unfold Lands Step.Ensures at lands
  split at lands
  · rename_i value after result
    exact ⟨by rw [result]; exact lands.2.1.context, by simp [result]⟩
  · rename_i error after result
    refine ⟨by rw [result]; exact lands.2.2.1.context, ?_⟩
    intro other same
    rw [result] at same
    cases same
    exact lands.1

theorem Settled.withFrames {context : Context} {frames : Nat}
    (settled : sources.Settled s) (framed : ∀ f ∈ context, f.number < frames) :
    sources.Settled { s with context, frames } :=
  ⟨⟨settled.closed, framed⟩, settled.described, settled.configured⟩

end Sources

namespace Session

open Sources

/-- Whatever frames are open, each with a number of its own, a visit leaves them as they
are. It never finds a USR taken or a frame missing, and neither does a run that begins
without open frames. -/
theorem visits_restore_frames (forest : Forest) (policy : Policy) (commands : List Command)
    (context : Context) (frames : Nat)
    (oneKind : (ofCommands forest policy commands).OneKind)
    (framed : ∀ f ∈ context, f.number < frames) :
    let s := { history forest policy commands with context, frames }
    (∀ number, ((visit number).run forest s).2.context = context ∧
      ∀ error, ((visit number).run forest s).1 = .error error → ¬ error.IsInternal) ∧
    ∀ top, ((runAll top).run forest s).2.context = context ∧
      (context = [] → ∀ error, ((runAll top).run forest s).1 = .error error →
        ¬ error.IsInternal) := by
  intro s
  have settled : (ofCommands forest policy commands).Settled s :=
    (settled_ofCommands forest policy commands).withFrames framed
  constructor
  · intro number
    obtain ⟨restored, raises⟩ := Lands.restores (visit_lands settled number)
    exact ⟨restored, fun error failed => not_isInternal_of_raises oneKind (raises error failed)⟩
  · intro top
    obtain ⟨restored, raises⟩ := Lands.restores (runAll_lands settled top)
    refine ⟨restored, fun empty error failed => ?_⟩
    rcases raises error failed with raised | ⟨opened, -⟩
    · exact not_isInternal_of_raises oneKind raised
    · exact absurd empty opened

/-- `typedef int T; struct S { T t; };` -/
def renamedForest : Forest := ⟨#[
  { kind := .typedef, spelling := "T", usr := "c:T", underlying := .ofKind .int },
  { kind := .struct, spelling := "S", usr := "c:S", children := [2], definition := some 1 },
  { kind := .field, spelling := "t", type := .declared .typedef 0 }]⟩

/-- Typedefs are renamed with a group that their pattern does not have. -/
def brokenRename : Policy :=
  { typedefs := ((SelectionText.read { renames := [("T", .string "\\2")] }).toOption).getD {} }

def openFrame : Frame := { number := 0, name := "outer", declarations := ["c:outer"] }

/-- The typedef of the member cannot be renamed, so the visit of the structure fails with
three frames open. -/
theorem renamedForest_restores_frames :
    let s := { history renamedForest brokenRename [.visit 0] with
      context := [openFrame], frames := 1 }
    (∃ error, ((visit 1).run renamedForest s).1 = .error error ∧ ¬ error.IsInternal) ∧
      ((visit 1).run renamedForest s).2.context = [openFrame] := by
  intro s
  have oneKind : (ofCommands renamedForest brokenRename [.visit 0]).OneKind := by
    decide +kernel
  have framed : ∀ f ∈ [openFrame], f.number < 1 := by decide
  obtain ⟨restored, raises⟩ := (visits_restore_frames renamedForest brokenRename [.visit 0]
    [openFrame] 1 oneKind framed).1 1
  have failed : ((visit 1).run renamedForest s).1.toOption = none := by decide +kernel
  refine ⟨?_, restored⟩
  cases result : ((visit 1).run renamedForest s).1 with
  | ok usrs => simp [result, Except.toOption] at failed
  | error error => exact ⟨error, rfl, raises error result⟩

end Session

/-! A visit that follows one of the same cursor only looks. -/

namespace Session

open Store Step

variable {forest : Forest} {s middle after : Session} {number : Nat} {value : List String}

/-! The constants of an unnamed enumeration. -/

/-- The constants that are published, in the order of the enumeration. -/
def constantUsrs (forest : Forest) (store : Store) (numbers : List Nat) : List String :=
  (numbers.filter fun number =>
    publishedAs store (forest.cursor number).usr (·.kind == .constant)).map
      fun number => (forest.cursor number).usr

theorem publishedAs_later {store grown : Store} {usr : String} {ok : Declaration → Bool}
    (grows : store.entries <+: grown.entries) (published : usr ∈ store.keys) :
    publishedAs grown usr ok = publishedAs store usr ok := by
  rw [publishedAs, publishedAs, lookup?_of_grown grows published]

theorem Step.Recalls.run {step : Step α} {value : α} (recalls : step.Recalls forest s value) :
    (step.run forest s).1 = .ok value ∧ Untouched s (step.run forest s).2 := by
  unfold Step.Recalls Step.Ensures at recalls
  split at recalls
  · rename_i result
    rw [result]
    exact ⟨congrArg Except.ok recalls.1, recalls.2⟩
  · exact recalls.elim

theorem Step.Recalls.cons {step : Step (List String)} {usr : String}
    (recalls : step.Recalls forest s value) :
    (do return usr :: (← step)).Recalls forest s (usr :: value) := by
  refine Ensures.bind recalls fun others after given => ?_
  exact ⟨by rw [given.1], given.2⟩

theorem visitConstants_recalls (numbers : List Nat)
    (each : ∀ number ∈ numbers,
      publishedAs s.store (forest.cursor number).usr (·.kind == .constant) = true ∨
        s.policy.unnamedEnums.includes (forest.cursor number).usr
          (forest.cursor number).spelling = .ok false) :
    (visitConstants numbers).Recalls forest s (constantUsrs forest s.store numbers) := by
  induction numbers with
  | nil => exact ⟨rfl, rfl⟩
  | cons number rest induction =>
      have others := induction fun other own => each other (List.mem_cons_of_mem _ own)
      refine Ensures.look rfl (Ensures.look rfl (Ensures.look rfl ?_))
      rw [← publishedAs]
      by_cases published :
          publishedAs s.store (forest.cursor number).usr (·.kind == .constant) = true
      · have shown : constantUsrs forest s.store (number :: rest) =
            (forest.cursor number).usr :: constantUsrs forest s.store rest := by
          simp [constantUsrs, published]
        rw [if_pos published, shown]
        exact Recalls.cons others
      · have hidden : constantUsrs forest s.store (number :: rest) =
            constantUsrs forest s.store rest := by simp [constantUsrs, published]
        rw [if_neg published, (each number List.mem_cons_self).resolve_left published, hidden]
        exact Ensures.look rfl others

/-- What visits of constants leave. -/
structure ConstantsVisited (forest : Forest) (numbers : List Nat) (s : Session)
    (value : List String) (after : Session) : Prop where
  policy : after.policy = s.policy
  named : after.typedefNamed = s.typedefNamed
  entries : s.store.entries <+: after.store.entries
  each : ∀ number ∈ numbers,
    publishedAs after.store (forest.cursor number).usr (·.kind == .constant) = true ∨
      s.policy.unnamedEnums.includes (forest.cursor number).usr
        (forest.cursor number).spelling = .ok false
  fresh : ∀ key ∈ after.store.keys, key ∉ s.store.keys → ∃ number ∈ numbers,
    (forest.cursor number).usr = key ∧
      s.policy.unnamedEnums.includes (forest.cursor number).usr
        (forest.cursor number).spelling = .ok true
  shown : (∀ number ∈ numbers, ∀ other ∈ numbers,
      (forest.cursor number).usr = (forest.cursor other).usr →
      (forest.cursor number).spelling = (forest.cursor other).spelling) →
    value = constantUsrs forest after.store numbers

namespace ConstantsVisited

variable {rest : List Nat}

/-- A constant that is published already is given. -/
theorem published (found :
      publishedAs s.store (forest.cursor number).usr (·.kind == .constant) = true)
    (visited : ConstantsVisited forest rest s value after) :
    ConstantsVisited forest (number :: rest) s ((forest.cursor number).usr :: value) after := by
  have still : publishedAs after.store (forest.cursor number).usr (·.kind == .constant) = true :=
    (publishedAs_later visited.entries (mem_keys_of_publishedAs found)).trans found
  exact
    { policy := visited.policy
      named := visited.named
      entries := visited.entries
      each := List.forall_mem_cons.mpr ⟨.inl still, visited.each⟩
      fresh := fun key published absent =>
        (visited.fresh key published absent).imp fun _ given =>
          ⟨List.mem_cons_of_mem _ given.1, given.2⟩
      shown := fun oneName => by
        have others := visited.shown fun first own second also =>
          oneName first (List.mem_cons_of_mem _ own) second (List.mem_cons_of_mem _ also)
        simp [constantUsrs, still, others] }

/-- A constant that is left out is not published by another one of its name either. -/
theorem excluded (absent :
      ¬ publishedAs s.store (forest.cursor number).usr (·.kind == .constant) = true)
    (out : s.policy.unnamedEnums.includes (forest.cursor number).usr
      (forest.cursor number).spelling = .ok false)
    (visited : ConstantsVisited forest rest s value after) :
    ConstantsVisited forest (number :: rest) s value after where
  policy := visited.policy
  named := visited.named
  entries := visited.entries
  each := List.forall_mem_cons.mpr ⟨.inr out, visited.each⟩
  fresh := fun key published absent =>
    (visited.fresh key published absent).imp fun _ given =>
      ⟨List.mem_cons_of_mem _ given.1, given.2⟩
  shown := by
    intro oneName
    have others := visited.shown fun first own second also =>
      oneName first (List.mem_cons_of_mem _ own) second (List.mem_cons_of_mem _ also)
    have still : ¬ publishedAs after.store (forest.cursor number).usr
        (·.kind == .constant) = true := by
      intro found
      by_cases earlier : (forest.cursor number).usr ∈ s.store.keys
      · exact absent ((publishedAs_later visited.entries earlier).symm.trans found)
      · obtain ⟨other, own, usr, taken⟩ :=
          visited.fresh _ (mem_keys_of_publishedAs found) earlier
        have spelling := oneName other (List.mem_cons_of_mem _ own) number List.mem_cons_self usr
        rw [usr, spelling, out] at taken
        cases taken
    simp [constantUsrs, still, others]

/-- A constant is published, and the others are visited after it. -/
theorem of_push {d : Declaration} {log : List LogRecord} (fresh : d.usr ∉ s.store.keys)
    (own : d.usr = (forest.cursor number).usr) (constant : d.kind = .constant)
    (taken : s.policy.unnamedEnums.includes (forest.cursor number).usr
      (forest.cursor number).spelling = .ok true)
    (visited : ConstantsVisited forest rest { s with store := s.store.push d, log } value after) :
    ConstantsVisited forest (number :: rest) s ((forest.cursor number).usr :: value) after := by
  have found : publishedAs (s.store.push d) (forest.cursor number).usr
      (·.kind == .constant) = true := by
    simp [publishedAs, lookup?_push fresh, own, constant]
  have visited := visited.published found
  exact
    { policy := visited.policy
      named := visited.named
      entries := prefix_push.trans visited.entries
      each := visited.each
      fresh := by
        intro key published absent
        by_cases first : key = d.usr
        · exact ⟨number, List.mem_cons_self, own.symm.trans first.symm, taken⟩
        · exact visited.fresh key published (by simp [absent, first])
      shown := visited.shown }

end ConstantsVisited

theorem visitConstants_visited (numbers : List Nat) (s : Session) :
    (visitConstants numbers).Ensures forest s
      (fun value after => ConstantsVisited forest numbers s value after) fun _ _ => True := by
  induction numbers generalizing s with
  | nil =>
      exact
        { policy := rfl
          named := rfl
          entries := List.prefix_rfl
          each := by simp
          fresh := fun _ published absent => absurd published absent
          shown := fun _ => rfl }
  | cons number rest induction =>
      refine Ensures.look rfl (Ensures.look rfl (Ensures.look rfl ?_))
      rw [← publishedAs]
      split
      · rename_i found
        exact Ensures.bind (induction s) fun _ _ visited => visited.published found
      rename_i absent
      refine ensures_bind_selected fun chosen answer => ?_
      split
      · rename_i out
        obtain rfl : chosen = false := by simpa using out
        exact (induction s).imp (fun _ _ visited => visited.excluded absent answer)
          fun _ _ failed => failed
      rename_i kept
      obtain rfl : chosen = true := by simpa using kept
      refine ensures_bind_selected fun name _ => Ensures.look rfl ?_
      refine Step.ensures_bind.mpr (ensures_publish (fun fresh => ?_) fun _ => trivial)
      refine Step.ensures_bind.mpr (ensures_debug.mpr ?_)
      exact Ensures.bind (induction _) fun _ _ visited =>
        visited.of_push fresh rfl rfl answer

/-- The constants of the enumeration. -/
def constantNumbers (forest : Forest) (number : Nat) : List Nat :=
  (forest.cursor number).children.filter fun child => (forest.cursor child).kind == .enumConstant

/-- Constants of one USR have one name, if they are bound one by one. -/
def ConstantsNamed (forest : Forest) (number : Nat) : Prop :=
  (forest.cursor number).kind = .enumeration → (forest.cursor number).anonymous = true →
    ∀ first ∈ constantNumbers forest number, ∀ second ∈ constantNumbers forest number,
      (forest.cursor first).usr = (forest.cursor second).usr →
      (forest.cursor first).spelling = (forest.cursor second).spelling

section

variable (unnamed : (forest.cursor number).anonymous = true)
include unnamed

theorem recalls_named (named : s.typedefNamed.any (·.1 == (forest.cursor number).usr) = true) :
    (visitEnumeration number).Recalls forest s [] := by
  refine Ensures.look rfl (recalls_withFrame ?_)
  rw [if_pos unnamed]
  refine Ensures.look rfl ?_
  rw [entered_typedefNamed, if_pos named]
  exact ⟨rfl, rfl⟩

theorem recalls_constants
    (nameless : ¬ s.typedefNamed.any (·.1 == (forest.cursor number).usr) = true)
    (each : ∀ child ∈ constantNumbers forest number,
      publishedAs s.store (forest.cursor child).usr (·.kind == .constant) = true ∨
        s.policy.unnamedEnums.includes (forest.cursor child).usr
          (forest.cursor child).spelling = .ok false) :
    (visitEnumeration number).Recalls forest s
      (constantUsrs forest s.store (constantNumbers forest number)) := by
  refine Ensures.look rfl (recalls_withFrame ?_)
  rw [if_pos unnamed]
  refine Ensures.look rfl ?_
  rw [entered_typedefNamed, if_neg nameless]
  exact Ensures.look rfl (visitConstants_recalls _ each)

/-- An unnamed enumeration has been named by a typedef, or its constants have been visited. -/
theorem visitEnumeration_revisits_unnamed (kind : (forest.cursor number).kind = .enumeration) :
    (visitEnumeration number).Ensures forest s
      ((visitEnumeration number).Revisits forest (ConstantsNamed forest number))
      fun _ _ => True := by
  refine Ensures.look rfl (ensures_withFrame_of_popped ?_)
  rw [if_pos unnamed]
  refine Ensures.look rfl ?_
  split
  · rename_i named
    exact fun _ _ _ => ⟨[], recalls_named unnamed named, fun _ => rfl⟩
  rename_i nameless
  refine Ensures.look rfl ((visitConstants_visited _ _).imp ?_ fun _ _ failed => failed)
  intro value after visited popped context _
  refine ⟨_, recalls_constants unnamed ?_ ?_, fun oneName => ?_⟩
  · rw [visited.named]
    exact nameless
  · intro child own
    rw [visited.policy]
    exact visited.each child own
  · exact (visited.shown (oneName kind unnamed)).symm

end

/-- An enumeration with a name takes the course of the other compounds. -/
theorem visitEnumeration_named (named : ¬ (forest.cursor number).anonymous = true)
    {good : List String → Session → Prop} {bad : Error → Session → Prop}
    (course : (enumerationCourse (forest.cursor number) number).step.Ensures forest s good bad) :
    (visitEnumeration number).Ensures forest s good bad := by
  refine Ensures.look rfl ?_
  simp only [if_neg named]
  exact course

/-! Functions and globals. -/

theorem FunctionKnown.untouched (known : FunctionKnown forest number s value)
    (untouched : Untouched s after) : FunctionKnown forest number after value := by
  rw [untouched]
  cases known with
  | excluded out => exact .excluded out
  | published taken bound => exact .published taken bound
  | dropped taken unbound dropped => exact .dropped taken unbound dropped

theorem GlobalKnown.untouched (known : GlobalKnown forest number s value)
    (untouched : Untouched s after) : GlobalKnown forest number after value := by
  rw [untouched]
  cases known with
  | published bound => exact .published bound
  | hidden unbound hidden => exact .hidden unbound hidden
  | excluded unbound linked out => exact .excluded unbound linked out
  | dropped unbound linked taken dropped => exact .dropped unbound linked taken dropped

/-- A refusal binds nothing. -/
theorem Treatment.values_eq_nil {dropped : List String} {told : List Diagnostic} {usr : String}
    (treatment : Treatment forest [] dropped told s after) (absent : usr ∉ s.store.keys)
    {d : Declaration} (found : after.store.lookup? usr = some d) : d.body.values = [] :=
  (treatment.fresh usr d found absent).resolve_left fun given => by simp at given

theorem Treatment.publishedAs_eq_false {dropped : List String} {told : List Diagnostic}
    {usr : String} {ok : Declaration → Bool}
    (treatment : Treatment forest [] dropped told s after)
    (value : ∀ d, ok d = true → d.body.values ≠ []) (absent : publishedAs s.store usr ok = false) :
    publishedAs after.store usr ok = false := by
  by_cases earlier : usr ∈ s.store.keys
  · rw [publishedAs_later treatment.entries earlier, absent]
  · cases found : after.store.lookup? usr with
    | none => simp [publishedAs, found]
    | some d =>
        have valueless := treatment.values_eq_nil earlier found
        have refused : ok d = false := by
          by_contra accepted
          exact value d (by simpa using accepted) valueless
        simp [publishedAs, found, refused]

end Session

namespace Sources

open Store Session Step

variable {sources : Sources} {s after : Session} {number : Nat}

theorem visitFunction_revisits (oneKind : sources.OneKind) (sound : s.Sound)
    (kind : (sources.forest.cursor number).kind = .function) :
    (visitFunction number).Ensures sources.forest s
      (fun value after => sources.Settled after →
        (visitFunction number).Revisits sources.forest True value after)
      fun _ _ => True := by
  refine (visitFunction_ends kind sound).imp ?_ fun _ _ failed => failed
  rintro value after (⟨known, untouched⟩ | ⟨unknown, verdict⟩) settled
  · exact ⟨value, visitFunction_known (known.untouched untouched), fun _ => rfl⟩
  refine ⟨value, visitFunction_known ?_, fun _ => rfl⟩
  cases verdict with
  | refused refusal own reason treatment =>
      have policy := treatment.policy
      refine .dropped (policy ▸ unknown.taken) ?_ ((treatment.dropped _).mpr (by simp))
      obtain ⟨usr, own, absent⟩ := List.all_eq_false.mp unknown.unbound
      refine List.all_eq_false.mpr ⟨usr, policy ▸ own, ?_⟩
      rw [isFunctionAt_eq, Bool.not_eq_true] at absent ⊢
      refine treatment.publishedAs_eq_false (fun d accepted => ?_) absent
      exact Body.values_ne_nil_of_kind (.inl (beq_iff_eq.mp accepted))
  | bound ds named binds treatment =>
      rw [← treatment.policy]
      refine .published (treatment.policy ▸ unknown.taken) (List.all_eq_true.mpr ?_)
      intro usr own
      have own' : usr ∈ sources.forest.valueUsrs after.policy number :=
        Forest.valueUsrs_function kind ▸ own
      refine isFunctionAt_of_mem_keys oneKind settled kind own' ?_
      rw [treatment.policy, ← named] at own
      obtain ⟨d, listed, rfl⟩ := List.mem_map.mp own
      exact treatment.listed d listed

theorem visitGlobal_revisits (oneKind : sources.OneKind) (sound : s.Sound)
    (kind : (sources.forest.cursor number).kind = .global) :
    (visitGlobal number).Ensures sources.forest s
      (fun value after => sources.Settled after →
        (visitGlobal number).Revisits sources.forest True value after)
      fun _ _ => True := by
  refine (visitGlobal_ends kind sound).imp ?_ fun _ _ failed => failed
  rintro value after (⟨known, untouched⟩ | ⟨unknown, verdict⟩) settled
  · exact ⟨value, visitGlobal_known (known.untouched untouched), fun _ => rfl⟩
  refine ⟨value, visitGlobal_known ?_, fun _ => rfl⟩
  cases verdict with
  | refused refusal own reason treatment =>
      refine .dropped ?_ unknown.linked (treatment.policy ▸ unknown.taken)
        ((treatment.dropped _).mpr (by simp))
      refine treatment.publishedAs_eq_false (fun d accepted => ?_) unknown.unbound
      exact Body.values_ne_nil_of_kind (.inr (beq_iff_eq.mp accepted))
  | bound ds named binds treatment =>
      refine .published (publishedAs_of_mem_keys oneKind settled
        (.cursor (show _ = some .global by rw [kind]; rfl)) (fun _ same => beq_iff_eq.mpr same) ?_)
      have own : (sources.forest.cursor number).usr ∈ ds.map (·.usr) :=
        named ▸ List.mem_singleton_self _
      obtain ⟨d, listed, same⟩ := List.mem_map.mp own
      exact same ▸ treatment.listed d listed

/-- A step within a visit is taken again by the second visit. -/
theorem revisits_within {step whole : Step (List String)} {exact weaker : Prop}
    (within : ∀ s value, step.Recalls sources.forest s value →
      whole.Recalls sources.forest s value)
    (implied : weaker → exact)
    (revisits : step.Ensures sources.forest s
      (fun value after => sources.Settled after →
        step.Revisits sources.forest exact value after) fun _ _ => True) :
    step.Ensures sources.forest s
      (fun value after => sources.Settled after →
        whole.Revisits sources.forest weaker value after) fun _ _ => True := by
  refine revisits.imp (fun value after revisits settled => ?_) fun _ _ failed => failed
  obtain ⟨again, found, same⟩ := revisits settled
  exact ⟨again, within after again found, same ∘ implied⟩

/-- What takes a course is recognized under its USR if it has been published. -/
theorem course_revisits {course : Course} {kind : DeclarationKind} {exact : Prop}
    (oneKind : sources.OneKind) (sound : s.Sound) (lawful : course.Lawful sources.forest)
    (builds : (∀ s, (course.next true).Recalls sources.forest s []) ∨
      course.Builds sources.forest exact)
    (presented : sources.Presents course.usr kind)
    (accepts : ∀ d : Declaration, d.kind = kind → course.ok d = true) :
    course.step.Ensures sources.forest s
      (fun value after => sources.Settled after →
        course.step.Revisits sources.forest exact value after) fun _ _ => True := by
  refine (Course.revisits lawful builds sound).imp ?_ fun _ _ failed => failed
  intro value after revisits settled
  exact revisits (publishedAs_of_mem_keys oneKind settled presented accepts)

theorem revisits_of_course {whole : Step (List String)} {courseOf : Cursor → Course}
    {kind : DeclarationKind} {exact : Prop} (oneKind : sources.OneKind) (sound : s.Sound)
    (follows : whole = do (courseOf (← cursor number)).step)
    (lawful : (courseOf (sources.forest.cursor number)).Lawful sources.forest)
    (builds : (∀ s, ((courseOf (sources.forest.cursor number)).next true).Recalls
        sources.forest s []) ∨
      (courseOf (sources.forest.cursor number)).Builds sources.forest exact)
    (presented : sources.Presents (courseOf (sources.forest.cursor number)).usr kind)
    (accepts : ∀ d : Declaration, d.kind = kind →
      (courseOf (sources.forest.cursor number)).ok d = true) :
    whole.Ensures sources.forest s
      (fun value after => sources.Settled after →
        whole.Revisits sources.forest exact value after) fun _ _ => True := by
  subst follows
  have revisits := course_revisits oneKind sound lawful builds presented accepts
  exact Ensures.look rfl (revisits_within (fun _ _ recalls => Ensures.look rfl recalls) id revisits)

theorem visitEnumeration_revisits (oneKind : sources.OneKind) (sound : s.Sound)
    (kind : (sources.forest.cursor number).kind = .enumeration) :
    (visitEnumeration number).Ensures sources.forest s
      (fun value after => sources.Settled after →
        (visitEnumeration number).Revisits sources.forest (ConstantsNamed sources.forest number)
          value after) fun _ _ => True := by
  by_cases unnamed : (sources.forest.cursor number).anonymous = true
  · refine (visitEnumeration_revisits_unnamed unnamed kind).imp ?_ fun _ _ failed => failed
    exact fun _ _ revisits _ => revisits
  · exact visitEnumeration_named unnamed <| revisits_within
      (fun _ _ recalls => visitEnumeration_named unnamed recalls) (fun _ => trivial) <|
      course_revisits oneKind sound (lawful_enumerationCourse _)
        (.inr builds_enumerationCourse) (.cursor (show _ = some .enumeration by rw [kind]; rfl))
        fun _ same => beq_iff_eq.mpr same

theorem visitRecord_revisits (oneKind : sources.OneKind) (sound : s.Sound)
    (formed : formOf? (sources.forest.cursor number).kind = some .record) :
    (visitRecord number).Ensures sources.forest s
      (fun value after => sources.Settled after →
        (visitRecord number).Revisits sources.forest True value after) fun _ _ => True :=
  revisits_of_course oneKind sound visitRecord_eq (lawful_recordCourse _)
    (.inr (builds_recordCourse formed)) (requests_of_formOf? formed)
    fun _ same => isCompound_of_kind (same ▸ (isCompound_of_formOf? formed).2)

theorem visitInterface_revisits (oneKind : sources.OneKind) (sound : s.Sound)
    (kind : (sources.forest.cursor number).kind = .interface) :
    (visitInterface number).Ensures sources.forest s
      (fun value after => sources.Settled after →
        (visitInterface number).Revisits sources.forest True value after) fun _ _ => True :=
  revisits_of_course oneKind sound visitInterface_eq (lawful_interfaceCourse _)
    (.inr builds_interfaceCourse) (.cursor (show _ = some .interface by rw [kind]; rfl))
    fun _ same => beq_iff_eq.mpr same

theorem visitTypedef_revisits (oneKind : sources.OneKind) (sound : s.Sound)
    (kind : (sources.forest.cursor number).kind = .typedef) :
    (visitTypedef number).Ensures sources.forest s
      (fun value after => sources.Settled after →
        (visitTypedef number).Revisits sources.forest False value after) fun _ _ => True := by
  refine revisits_of_course oneKind sound visitTypedef_eq (lawful_typedefCourse _)
    (.inr builds_typedefCourse) (.cursor (show _ = some .typedef by rw [kind]; rfl))
    fun d same => ?_
  change d.isTypedef = true
  rw [Declaration.isTypedef, same]
  rfl

theorem visitMacro_revisits (oneKind : sources.OneKind) (sound : s.Sound)
    (kind : (sources.forest.cursor number).kind = .macroDefinition) :
    (visitMacro number).Ensures sources.forest s
      (fun value after => sources.Settled after →
        (visitMacro number).Revisits sources.forest True value after) fun _ _ => True :=
  revisits_of_course oneKind sound visitMacro_eq (lawful_macroCourse _) (builds_macroCourse _)
    (.cursor (show _ = some .constant by rw [kind]; rfl)) fun _ same => beq_iff_eq.mpr same

/-- Whatever is visited, a second visit only looks. -/
theorem visit_revisits (number : Nat) (oneKind : sources.OneKind) (sound : s.Sound) :
    (visit number).Ensures sources.forest s
      (fun value after => sources.Settled after →
        (visit number).Revisits sources.forest
          ((sources.forest.cursor number).kind ≠ .typedef ∧ ConstantsNamed sources.forest number)
          value after)
      fun _ _ => True := by
  refine Ensures.look rfl ?_
  split
  case h_1 kind =>
    exact revisits_within (fun _ _ recalls => Ensures.look rfl (by rw [kind]; exact recalls))
      (fun _ => trivial) (visitFunction_revisits oneKind sound kind)
  case h_2 kind =>
    exact revisits_within (fun _ _ recalls => Ensures.look rfl (by rw [kind]; exact recalls))
      (fun _ => trivial) (visitRecord_revisits oneKind sound (by rw [kind]; rfl))
  case h_3 kind =>
    exact revisits_within (fun _ _ recalls => Ensures.look rfl (by rw [kind]; exact recalls))
      (fun _ => trivial) (visitRecord_revisits oneKind sound (by rw [kind]; rfl))
  case h_4 kind =>
    exact revisits_within (fun _ _ recalls => Ensures.look rfl (by rw [kind]; exact recalls))
      And.right (visitEnumeration_revisits oneKind sound kind)
  case h_5 kind =>
    exact revisits_within (fun _ _ recalls => Ensures.look rfl (by rw [kind]; exact recalls))
      (fun given => given.1 kind) (visitTypedef_revisits oneKind sound kind)
  case h_6 kind =>
    exact revisits_within (fun _ _ recalls => Ensures.look rfl (by rw [kind]; exact recalls))
      (fun _ => trivial) (visitGlobal_revisits oneKind sound kind)
  case h_7 kind =>
    exact revisits_within (fun _ _ recalls => Ensures.look rfl (by rw [kind]; exact recalls))
      (fun _ => trivial) (visitMacro_revisits oneKind sound kind)
  case h_8 kind =>
    exact revisits_within (fun _ _ recalls => Ensures.look rfl (by rw [kind]; exact recalls))
      (fun _ => trivial) (visitInterface_revisits oneKind sound kind)
  case h_9 =>
    refine fun _ => ⟨[], Ensures.look rfl ?_, fun _ => rfl⟩
    split <;> first | contradiction | exact ⟨rfl, rfl⟩

end Sources

namespace Session

open Sources

/-- A visit that returns can be repeated at once: the second one returns as well, publishes,
tells and drops nothing, and gives the same declarations unless it is one of a typedef or of
an unnamed enumeration whose constants share a USR under several names. -/
theorem revisits_change_nothing (forest : Forest) (policy : Policy) (commands : List Command)
    (context : Context) (frames number : Nat)
    (oneKind : (ofCommands forest policy commands).OneKind)
    (framed : ∀ f ∈ context, f.number < frames) {value : List String}
    (returned : ((visit number).run forest
      { history forest policy commands with context, frames }).1 = .ok value) :
    let after := ((visit number).run forest
      { history forest policy commands with context, frames }).2
    ∃ again, ((visit number).run forest after).1 = .ok again ∧
      Untouched after ((visit number).run forest after).2 ∧
      ((forest.cursor number).kind ≠ .typedef → ConstantsNamed forest number →
        again = value) := by
  intro after
  have settled : (ofCommands forest policy commands).Settled
      { history forest policy commands with context, frames } :=
    (settled_ofCommands forest policy commands).withFrames framed
  have revisits := visit_revisits number oneKind settled.toSound
  have lands := visit_lands settled number
  obtain ⟨settledAfter, -, -⟩ := Step.Ensures.of_ok lands returned
  obtain ⟨again, recalls, same⟩ := Step.Ensures.of_ok revisits returned settledAfter
  obtain ⟨returns, untouched⟩ := recalls.run
  exact ⟨again, returns, untouched, fun other named => same ⟨other, named⟩⟩

/-- `enum { A, B }; typedef long double T;` -/
def flagsForest : Forest := ⟨#[
  { kind := .enumeration, usr := "c:E", anonymous := true, children := [1, 2]
    definition := some 0 },
  { kind := .enumConstant, spelling := "A", usr := "c:E@A" },
  { kind := .enumConstant, spelling := "B", usr := "c:E@B", value := 1 },
  { kind := .typedef, spelling := "T", usr := "c:T", underlying := .ofKind .longDouble }]⟩

/-- The constant `A` is left out. -/
def withoutA : Policy :=
  { unnamedEnums := ((SelectionText.read { excluded := ["A"] }).toOption).getD {} }

theorem flagsForest_returns : ((visit 0).run flagsForest
    { history flagsForest withoutA [.visit 3] with context := [openFrame], frames := 1 }).1 =
      .ok ["c:E@B"] := by decide +kernel

/-- The constant that is taken in is given twice, and published once. -/
theorem flagsForest_unchanged :
    let after := ((visit 0).run flagsForest
      { history flagsForest withoutA [.visit 3] with context := [openFrame], frames := 1 }).2
    ((visit 0).run flagsForest after).1 = .ok ["c:E@B"] ∧
      Untouched after ((visit 0).run flagsForest after).2 := by
  intro after
  have framed : ∀ f ∈ [openFrame], f.number < 1 := by decide
  have oneName : ConstantsNamed flagsForest 0 := fun _ _ => by decide +kernel
  obtain ⟨again, returns, untouched, same⟩ := revisits_change_nothing flagsForest withoutA
    [.visit 3] [openFrame] 1 0 (by decide +kernel) framed flagsForest_returns
  exact ⟨same (by decide) oneName ▸ returns, untouched⟩

/-- `enum { A, B };`, where both constants have one USR. -/
def mergedForest : Forest := ⟨#[
  { kind := .enumeration, usr := "c:E", anonymous := true, children := [1, 2]
    definition := some 0 },
  { kind := .enumConstant, spelling := "A", usr := "c:x", value := 1 },
  { kind := .enumConstant, spelling := "B", usr := "c:x", value := 2 }]⟩

/-- The second visit finds the constant published, and gives it for the name that is left
out as well. -/
theorem mergedForest_gives_more :
    (ofCommands mergedForest withoutA []).OneKind ∧
      (mergedForest.cursor 0).kind ≠ .typedef ∧
      ((visit 0).run mergedForest (history mergedForest withoutA [])).1 = .ok ["c:x"] ∧
      ((visit 0).run mergedForest
        ((visit 0).run mergedForest (history mergedForest withoutA [])).2).1 =
          .ok ["c:x", "c:x"] :=
  ⟨by decide +kernel, by decide, by decide +kernel, by decide +kernel⟩

end Session

end LuaBinder
