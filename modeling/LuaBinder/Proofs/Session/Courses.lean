import LuaBinder.Proofs.Session.Values.Visiting

namespace LuaBinder

open Header Session

/-! The course that visits of compounds, typedefs and macros take, and what is left to a second
visit on the same course. -/

namespace Session

open Store Step

variable {forest : Forest} {s middle after : Session} {number : Nat} {value : List String}

/-- A second visit only looks, and gives the same if the visit is exact. -/
def Step.Revisits (step : Step (List String)) (forest : Forest) (exact : Prop)
    (value : List String) (after : Session) : Prop :=
  ∃ again, step.Recalls forest after again ∧ (exact → again = value)

/-- The course that the visit of a compound, a typedef or a macro takes. What is published
already is not built again; what is passed over or left out is not built at all. -/
structure Course where
  name : String
  usr : String
  ok : Declaration → Bool
  passed : Bool
  pass : Step (List String)
  included : Policy → Except SelectionError Bool
  next : Bool → Step (List String)

namespace Course

def step (course : Course) : Step (List String) :=
  withFrame course.name fun _ => do
    if (← published? course.usr course.ok).isSome then return [course.usr]
    if course.passed then course.pass
    else course.next (← selected (course.included (← getPolicy)))

variable (course : Course) (forest)

/-- Nothing is done for what is not built. -/
structure Lawful : Prop where
  pass : ∀ s, course.pass.Recalls forest s []
  out : ∀ s, (course.next false).Recalls forest s []

/-- What decides the visit before anything is published. -/
inductive Known (s : Session) : List String → Prop
  | published (found : publishedAs s.store course.usr course.ok = true) : Known s [course.usr]
  | passed (absent : ¬ publishedAs s.store course.usr course.ok = true)
      (passed : course.passed = true) : Known s []
  | excluded (absent : ¬ publishedAs s.store course.usr course.ok = true)
      (kept : ¬ course.passed = true) (out : course.included s.policy = .ok false) : Known s []
  | futile (absent : ¬ publishedAs s.store course.usr course.ok = true)
      (kept : ¬ course.passed = true) (taken : course.included s.policy = .ok true)
      (looks : ∀ s, (course.next true).Recalls forest s []) : Known s []

variable {course forest}

theorem Known.untouched (known : course.Known forest s value) (untouched : Untouched s after) :
    course.Known forest after value := by
  rw [untouched]
  cases known with
  | published found => exact .published found
  | passed absent passed => exact .passed absent passed
  | excluded absent kept out => exact .excluded absent kept out
  | futile absent kept taken looks => exact .futile absent kept taken looks

theorem recalls (lawful : course.Lawful forest) (known : course.Known forest s value) :
    course.step.Recalls forest s value := by
  refine recalls_withFrame (Ensures.look rfl ?_)
  rw [entered_store, ← publishedAs]
  cases known with
  | published found =>
      rw [if_pos found]
      exact ⟨rfl, rfl⟩
  | passed absent passed =>
      rw [if_neg absent, if_pos passed]
      exact lawful.pass _
  | excluded absent kept out =>
      rw [if_neg absent, if_neg kept]
      refine Ensures.look rfl ?_
      rw [entered_policy, out]
      exact Ensures.look rfl (lawful.out _)
  | futile absent kept taken looks =>
      rw [if_neg absent, if_neg kept]
      refine Ensures.look rfl ?_
      rw [entered_policy, taken]
      exact Ensures.look rfl (looks _)

/-- What is taken in is built inside the frame of the visit. -/
theorem ensures_taken {good : List String → Session → Prop}
    (absent : ¬ publishedAs s.store course.usr course.ok = true)
    (kept : ¬ course.passed = true) (taken : course.included s.policy = .ok true)
    (built : (course.next true).Ensures forest (s.entered course.name)
      (fun value after => ∀ context, good value { after with context }) fun _ _ => True) :
    course.step.Ensures forest s good fun _ _ => True := by
  refine ensures_withFrame_of_popped (Ensures.look rfl ?_)
  rw [entered_store, ← publishedAs, if_neg absent, if_neg kept]
  refine Ensures.look rfl ?_
  rw [entered_policy, taken]
  exact Ensures.look rfl <|
    built.imp (fun _ _ given _ context _ => given context) fun _ _ _ => trivial

/-- The visit only looks, fails, or builds what is taken in. -/
theorem ensures_step {good : List String → Session → Prop} (lawful : course.Lawful forest)
    (looks : ∀ value after, course.Known forest s value → Untouched s after → good value after)
    (built : ¬ publishedAs s.store course.usr course.ok = true → ¬ course.passed = true →
      course.included s.policy = .ok true →
      (∀ s, (course.next true).Recalls forest s []) ∨
        (course.next true).Ensures forest (s.entered course.name)
          (fun value after => ∀ context, good value { after with context }) fun _ _ => True) :
    course.step.Ensures forest s good fun _ _ => True := by
  have looks {value : List String} (known : course.Known forest s value) :
      course.step.Ensures forest s good fun _ _ => True := by
    refine Ensures.imp (recalls lawful known) ?_ fun _ _ failed => failed.elim
    intro found after given
    obtain ⟨rfl, untouched⟩ := given
    exact looks _ _ known untouched
  by_cases found : publishedAs s.store course.usr course.ok = true
  · exact looks (.published found)
  by_cases passed : course.passed = true
  · exact looks (.passed found passed)
  cases answer : course.included s.policy with
  | error error =>
      refine ensures_withFrame_of_popped (Ensures.look rfl ?_)
      rw [entered_store, ← publishedAs, if_neg found, if_neg passed]
      refine Ensures.look rfl ?_
      rw [entered_policy, answer]
      trivial
  | ok taken =>
      cases taken with
      | false => exact looks (.excluded found passed answer)
      | true =>
          rcases built found passed answer with futile | built
          · exact looks (.futile found passed answer futile)
          · exact ensures_taken found passed answer built

/-- What a visit of the course builds is published, and is all that it gives if the course is
exact. -/
def Builds (course : Course) (forest : Forest) (exact : Prop) : Prop :=
  ∀ s : Session, s.Sound → (course.next true).Ensures forest s
    (fun value after => course.usr ∈ after.store.keys ∧ (exact → value = [course.usr]))
    fun _ _ => True

theorem ends {exact : Prop} (lawful : course.Lawful forest)
    (builds : (∀ s, (course.next true).Recalls forest s []) ∨ course.Builds forest exact)
    (sound : s.Sound) :
    course.step.Ensures forest s
      (fun value after => course.Known forest s value ∧ Untouched s after ∨
        course.usr ∈ after.store.keys ∧ (exact → value = [course.usr]))
      fun _ _ => True := by
  refine ensures_step lawful (fun _ _ known untouched => .inl ⟨known, untouched⟩) fun _ _ _ => ?_
  refine builds.imp_right fun builds => ?_
  exact (builds _ (sound.entered _)).imp (fun _ _ built _ => .inr built) fun _ _ _ => trivial

/-- What is taken in is published. -/
theorem publishes {exact : Prop} (lawful : course.Lawful forest)
    (builds : course.Builds forest exact)
    (kept : course.passed = false) (taken : course.included s.policy = .ok true)
    (sound : s.Sound) :
    course.step.Ensures forest s (fun _ after => course.usr ∈ after.store.keys)
      fun _ _ => True := by
  by_cases found : publishedAs s.store course.usr course.ok = true
  · refine Ensures.imp (recalls lawful (.published found)) ?_ fun _ _ failed => failed.elim
    intro _ after given
    rw [given.2]
    exact mem_keys_of_publishedAs found
  · refine ensures_taken found (by simp [kept]) taken ?_
    exact (builds _ (sound.entered _)).imp (fun _ _ built _ => built.1) fun _ _ _ => trivial

theorem revisits {exact : Prop} (lawful : course.Lawful forest)
    (builds : (∀ s, (course.next true).Recalls forest s []) ∨ course.Builds forest exact)
    (sound : s.Sound) :
    course.step.Ensures forest s
      (fun value after =>
        (course.usr ∈ after.store.keys →
          publishedAs after.store course.usr course.ok = true) →
        course.step.Revisits forest exact value after)
      fun _ _ => True := by
  refine (ends lawful builds sound).imp ?_ fun _ _ failed => failed
  rintro value after (⟨known, untouched⟩ | ⟨published, shown⟩) accepted
  · exact ⟨value, recalls lawful (known.untouched untouched), fun _ => rfl⟩
  · exact ⟨[course.usr], recalls lawful (.published (accepted published)),
      fun exact => (shown exact).symm⟩

end Course

/-! The courses of the visits. -/

def recordCourse (c : Cursor) (number : Nat) : Course where
  name := c.spelling
  usr := c.usr
  ok := Declaration.isCompound
  passed := c.anonymous
  pass := return []
  included policy := (recordSelection policy c.kind).includes c.usr c.spelling
  next chosen := do
    if chosen then
      buildRecord declare number
      return [c.usr]
    return []

theorem visitRecord_eq :
    visitRecord number = (do (recordCourse (← cursor number) number).step) := rfl

def interfaceCourse (c : Cursor) (number : Nat) : Course where
  name := c.spelling
  usr := c.usr
  ok := (·.kind == .interface)
  passed := false
  pass := return []
  included policy := policy.interfaces.includes c.usr c.spelling
  next chosen := do
    if chosen then
      buildInterface declare number
      return [c.usr]
    return []

theorem visitInterface_eq :
    visitInterface number = (do (interfaceCourse (← cursor number) number).step) := rfl

def enumerationCourse (c : Cursor) (number : Nat) : Course where
  name := c.spelling
  usr := c.usr
  ok := (·.kind == .enumeration)
  passed := false
  pass := return []
  included policy := policy.enums.includes c.usr c.spelling
  next chosen := do
    if chosen then
      buildEnumeration number
      return [c.usr]
    return []

def typedefCourse (c : Cursor) (number : Nat) : Course where
  name := c.spelling
  usr := c.usr
  ok := Declaration.isTypedef
  passed := (Primitive.wellKnown? c.spelling).isSome
  pass := do
    debug "typedef" ("Typedef " ++ c.spelling ++ " maps to a primitive type")
    return []
  included policy := policy.typedefs.includes c.usr c.spelling
  next chosen := do
    if chosen then return ← addTypedef number c
    return []

theorem visitTypedef_eq :
    visitTypedef number = (do (typedefCourse (← cursor number) number).step) := rfl

def macroCourse (c : Cursor) : Course where
  name := c.spelling
  usr := c.usr
  ok := (·.kind == .constant)
  passed := c.functionLike
  pass := return []
  included policy := policy.macros.includes c.usr c.spelling
  next chosen := do
    if !chosen then return []
    addMacro c

theorem visitMacro_eq :
    visitMacro number = (do (macroCourse (← cursor number)).step) := rfl

theorem lawful_recordCourse (c : Cursor) : (recordCourse c number).Lawful forest :=
  ⟨fun _ => ⟨rfl, rfl⟩, fun _ => ⟨rfl, rfl⟩⟩

theorem lawful_interfaceCourse (c : Cursor) : (interfaceCourse c number).Lawful forest :=
  ⟨fun _ => ⟨rfl, rfl⟩, fun _ => ⟨rfl, rfl⟩⟩

theorem lawful_enumerationCourse (c : Cursor) : (enumerationCourse c number).Lawful forest :=
  ⟨fun _ => ⟨rfl, rfl⟩, fun _ => ⟨rfl, rfl⟩⟩

theorem lawful_typedefCourse (c : Cursor) : (typedefCourse c number).Lawful forest :=
  ⟨fun _ => ⟨rfl, rfl⟩, fun _ => ⟨rfl, rfl⟩⟩

theorem lawful_macroCourse (c : Cursor) : (macroCourse c).Lawful forest :=
  ⟨fun _ => ⟨rfl, rfl⟩, fun _ => ⟨rfl, rfl⟩⟩

theorem ensures_mem_keys {step : Step Unit} {form : Form} {usr : String} {bad : Store → Prop}
    (runs : Runs forest s step
      (fun _ grown => Declared forest form number s.store usr grown) bad) :
    step.Ensures forest s (fun _ after => usr ∈ after.store.keys) fun _ _ => True :=
  Ensures.imp runs (fun _ _ given => given.2.published) fun _ _ _ => trivial

theorem builds_recordCourse (formed : formOf? (forest.cursor number).kind = some .record) :
    (recordCourse (forest.cursor number) number).Builds forest True := by
  intro s sound
  refine Ensures.bind (ensures_mem_keys (buildRecord_runs declare_declares sound formed))
    fun _ _ published => ?_
  exact ⟨published, fun _ => rfl⟩

theorem builds_interfaceCourse :
    (interfaceCourse (forest.cursor number) number).Builds forest True := by
  intro s sound
  refine Ensures.bind (ensures_mem_keys (buildInterface_runs declare_declares sound))
    fun _ _ published => ?_
  exact ⟨published, fun _ => rfl⟩

theorem builds_enumerationCourse :
    (enumerationCourse (forest.cursor number) number).Builds forest True := by
  intro s sound
  refine Ensures.bind (ensures_mem_keys (buildEnumeration_runs sound)) fun _ _ published => ?_
  exact ⟨published, fun _ => rfl⟩

/-- A typedef of an unsupported type is published, but not given. -/
theorem builds_typedefCourse :
    (typedefCourse (forest.cursor number) number).Builds forest False := by
  intro s sound
  refine Ensures.bind (ensures_mem_keys (buildTypedef_runs declare_declares sound))
    fun _ _ published => Ensures.look rfl ?_
  split
  · exact ⟨published, False.elim⟩
  · exact ⟨published, False.elim⟩

/-- A macro that is no literal is never published. -/
theorem builds_macroCourse (c : Cursor) :
    (∀ s, ((macroCourse c).next true).Recalls forest s []) ∨
      (macroCourse c).Builds forest True := by
  have next : (macroCourse c).next true = addMacro c := rfl
  rw [Course.Builds, next, addMacro]
  cases Literal.ofTokens? (macroBody c) with
  | error error => exact .inr fun _ _ => trivial
  | ok found =>
      cases found with
      | none => exact .inl fun _ => ⟨rfl, rfl⟩
      | some literal =>
          refine .inr fun s sound => Ensures.look rfl (ensures_bind_selected fun name _ => ?_)
          refine Ensures.look rfl ?_
          refine Step.ensures_bind.mpr (ensures_publish (fun _ => ?_) fun _ => trivial)
          exact ⟨by simp [macroCourse], fun _ => rfl⟩

end Session

end LuaBinder
