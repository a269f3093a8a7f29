import LuaBinder.Proofs.Session.Values.Fairness

namespace LuaBinder

open Header Session

/-! Every function and every global that a policy takes in is accounted for: all its
bindings are published, or none is and one diagnostic tells why. -/

namespace Sources

open Store Session

variable {sources : Sources} {policy : Policy}

/-- A run decides about every function and every global at the top that is taken in. -/
theorem runAll_progresses (oneKind : sources.OneKind) (configured : policy ∈ sources.policies)
    (agree : sources.forest.ValuesAgree) (apart : sources.forest.ValuesApart policy)
    (top : List Nat) :
    (runAll top).Ensures sources.forest { policy }
      (fun _ ended => ∃ start grown : Session, sources.Progresses policy top start grown ∧
        grown.store.NamedAs ended.store ∧ ended.diagnostics = grown.diagnostics)
      fun _ _ => True := by
  refine Step.Ensures.look rfl (Step.ensures_bind.mpr (ensures_modify.mpr ?_))
  have settled : sources.Settled
      { policy, typedefNamed := typedefNames sources.forest top } :=
    ⟨⟨closed_empty, by simp [Framed]⟩, .empty, configured⟩
  refine Step.Ensures.bind (visitAll_progresses oneKind configured agree apart top _ settled
    (.start _ _ _)) fun _ grown progress => Step.Ensures.look rfl ?_
  dsimp only
  split
  · trivial
  refine Step.ensures_bind.mpr (ensures_modify.mpr ?_)
  refine Step.Ensures.look rfl (Step.Ensures.look rfl ?_)
  exact ⟨_, grown, progress, namedAs_nameAll [] _, rfl⟩

end Sources

namespace Session

open Store

variable {forest : Forest} {policy : Policy} {top : List Nat} {bindings : List String}

/-- All bindings of the function or the global are published and no diagnostic tells that it
is dropped, or none is published and one diagnostic does. -/
def Accounts (forest : Forest) (policy : Policy) (number : Nat) (ended : Session) : Prop :=
  (∀ usr ∈ forest.valueUsrs policy number, ∃ d, ended.store.lookup? usr = some d ∧
      Binds (forest.cursor number) d) ∧ ended.refusals (forest.cursor number).usr = 0 ∨
    (∀ usr ∈ forest.valueUsrs policy number, usr ∉ ended.store.keys) ∧
      ended.refusals (forest.cursor number).usr = 1

theorem Binds.isCompound_eq {c : Cursor} {d : Declaration} (binds : Binds c d) :
    d.isCompound = false := by
  cases binds with
  | function _ _ body | global _ _ body => rw [Declaration.isCompound, body]; rfl

theorem Binds.congr {c other : Cursor} {d : Declaration} (binds : Binds c d)
    (kind : other.kind = c.kind) (spelling : other.spelling = c.spelling)
    (variadic : other.type.isVariadic = c.type.isVariadic) : Binds other d := by
  cases binds with
  | function own native body passes =>
      exact .function (kind.trans own) (native.trans spelling.symm) body
        (passes.trans variadic.symm)
  | global own native body => exact .global (kind.trans own) (native.trans spelling.symm) body

namespace Fair

variable {s ended : Session} {number : Nat}

/-- Whatever is published under the USR of a value binds it. -/
theorem binds_of_mem (fair : Fair forest policy s) (apart : forest.ValuesApart policy)
    (agree : forest.ValuesAgree) {key : String} {d : Declaration}
    (own : key ∈ forest.valueUsrs policy number) (found : s.store.lookup? key = some d)
    (value : d.body.values ≠ []) : Binds (forest.cursor number) d := by
  obtain ⟨other, also, binds⟩ := fair.binds key d found value
  obtain ⟨kind, spelling, variadic⟩ := agree.same (Forest.kind_of_mem_valueUsrs also)
    (Forest.kind_of_mem_valueUsrs own) (apart number other key own also)
  exact binds.congr kind spelling variadic

theorem exists_mem_valueUsrs
    (kind : (forest.cursor number).kind = .function ∨ (forest.cursor number).kind = .global) :
    ∃ usr, usr ∈ forest.valueUsrs policy number := by
  rcases kind with kind | kind
  · rw [Forest.valueUsrs_function kind, Policy.functionUsrs]
    obtain ⟨signature, listed⟩ := List.exists_mem_of_ne_nil _
      (policy.signatures.specialize_ne_nil (forest.cursor number).spelling
        (forest.cursor number).type.isVariadic)
    exact ⟨_, List.mem_map_of_mem listed⟩
  · exact ⟨_, by rw [Forest.valueUsrs_global kind]; exact List.mem_singleton_self _⟩

theorem accounts (fair : Fair forest policy s) (apart : forest.ValuesApart policy)
    (agree : forest.ValuesAgree)
    (values : ∀ usr ∈ forest.valueUsrs policy number, ∀ body, s.store.body? usr = some body →
      body.values ≠ [])
    (kind : (forest.cursor number).kind = .function ∨ (forest.cursor number).kind = .global)
    (decides : Decides forest policy number s) (naming : s.store.NamedAs ended.store)
    (diagnostics : ended.diagnostics = s.diagnostics) : Accounts forest policy number ended := by
  have refused := fair.refused number kind
  rw [refusals, ← diagnostics, ← refusals] at refused
  rcases fair.whole number with unbound | ⟨undropped, published⟩
  · have dropped : (forest.cursor number).usr ∈ s.dropped := by
      refine decides.resolve_right fun published => ?_
      obtain ⟨usr, own⟩ := exists_mem_valueUsrs kind
      exact unbound usr own (published usr own)
    exact .inr ⟨fun usr own => naming.keys_eq ▸ unbound usr own, by simpa [dropped] using refused⟩
  · refine .inl ⟨fun usr own => ?_, by simpa [undropped] using refused⟩
    obtain ⟨body, found⟩ := exists_body? (published usr own)
    obtain ⟨d, located, rfl⟩ := Option.map_eq_some_iff.mp found
    have binds := fair.binds_of_mem apart agree own located (values usr own _ found)
    exact ⟨d, naming.lookup?_eq located binds.isCompound_eq, binds⟩

theorem misconfigurations_eq_one (fair : Fair forest policy s)
    (naming : s.store.NamedAs ended.store) (diagnostics : ended.diagnostics = s.diagnostics)
    {usr : String} {d : Declaration} {f : Function} (found : ended.store.lookup? usr = some d)
    (body : d.body = .function f) (fixed : f.variadic = false)
    (configured : policy.signatures.lookup d.nativeName ≠ []) :
    ended.misconfigurations usr = 1 := by
  obtain ⟨before, located, names⟩ := naming.exists_lookup? found
  obtain rfl : d = before := by
    rcases names with rfl | ⟨compound, -, name, -, rfl⟩
    · rfl
    · simp [Declaration.isCompound, show before.body = .function f from body,
        Body.isCompound] at compound
  obtain ⟨number, own, binds⟩ := fair.binds usr d located (by simp [body, Body.values])
  cases binds with
  | @function g kind native same variadic =>
      obtain rfl : f = g := by simpa [body] using same
      have ignored : (policy.signatures.specialize (forest.cursor number).spelling
          (forest.cursor number).type.isVariadic).2 = true := by
        rw [← variadic, fixed, ← native]
        exact SignatureTable.ignored_of_fixed configured
      rw [usr_mem_valueUsrs_of_ignored kind ignored, List.mem_singleton] at own
      have told := fair.misconfigured number kind
      rw [if_pos ⟨ignored, own ▸ mem_keys_of_lookup? located⟩, ← own] at told
      rw [misconfigurations, diagnostics]
      exact told
  | global _ _ same => simp [body] at same

end Fair

/-- Nothing is lost silently, and nothing is reported twice, however often it is visited. -/
theorem values_accounted_for (oneKind : (Sources.ofCommands forest policy []).OneKind)
    (apart : forest.ValuesApart policy) (agree : forest.ValuesAgree)
    (succeeded : ((runAll top).run forest { policy }).1 = .ok bindings) :
    (∀ number ∈ top, policy.takesValue (forest.cursor number) = true →
      Accounts forest policy number ((runAll top).run forest { policy }).2) ∧
    ∀ usr d f, ((runAll top).run forest { policy }).2.store.lookup? usr = some d →
      d.body = .function f → f.variadic = false → policy.signatures.lookup d.nativeName ≠ [] →
      ((runAll top).run forest { policy }).2.misconfigurations usr = 1 := by
  have progresses : (runAll top).Ensures (Sources.ofCommands forest policy []).forest _ _ _ :=
    Sources.runAll_progresses oneKind List.mem_cons_self agree apart top
  obtain ⟨start, grown, progress, naming, diagnostics⟩ :=
    Step.Ensures.of_ok progresses succeeded
  refine ⟨fun number own taken => ?_, fun usr d f found body fixed configured => ?_⟩
  · refine progress.fair.accounts apart agree (fun usr own body found => ?_)
      (Policy.kind_of_takesValue taken) (progress.decides number own taken) naming diagnostics
    exact Sources.values_ne_nil oneKind List.mem_cons_self progress.settled.described own found
  · exact progress.fair.misconfigurations_eq_one naming diagnostics found body fixed configured

/-- `void log(int level, ...); int size(void); static inline int half(int n);`, and
`struct State state;`, where `struct State` is defined elsewhere. -/
def valuesForest : Forest := ⟨#[
  { kind := .function, spelling := "log", usr := "c:log", result := .ofKind .void
    arguments := [1]
    type := .known { TypeFacts.plain .functionPrototype none with variadic := true }
      .absent .absent .absent (NativeType.ofKind .void) .absent .nil },
  { kind := .parameter, spelling := "level", usr := "c:level", type := .ofKind .int },
  { kind := .function, spelling := "size", usr := "c:size", result := .ofKind .int
    type := .function .functionPrototype (.ofKind .int) .nil },
  { kind := .function, spelling := "half", usr := "c:half", result := .ofKind .int
    inlined := true, storage := .static
    type := .function .functionPrototype (.ofKind .int) .nil },
  { kind := .global, spelling := "state", usr := "c:state", type := .declared .record 5 },
  { kind := .struct, spelling := "State", usr := "c:State", isDefinition := false }]⟩

/-- Two signatures for `log`, and one that `size` has no use for. -/
def valuesPolicy : Policy :=
  { signatures := [("log", [⟨"_int", [.primitive .int32]⟩, ⟨"_two", []⟩]), ("size", [⟨"", []⟩])] }

theorem valuesForest_run :
    ((runAll [0, 2, 3, 4, 3, 4, 2, 0]).run valuesForest { policy := valuesPolicy }).1 =
      .ok ["c:log_int", "c:log_two", "c:size", "c:State"] := by decide +kernel

/-- Everything is visited twice, bound or told of once. -/
theorem valuesForest_accounted_for :
    (∀ number ∈ [0, 2, 3, 4], Accounts valuesForest valuesPolicy number
      ((runAll [0, 2, 3, 4, 3, 4, 2, 0]).run valuesForest { policy := valuesPolicy }).2) ∧
    ((runAll [0, 2, 3, 4, 3, 4, 2, 0]).run valuesForest
      { policy := valuesPolicy }).2.misconfigurations "c:size" = 1 := by
  obtain ⟨accounts, told⟩ := values_accounted_for (by decide +kernel) (by decide +kernel)
    (by decide +kernel) valuesForest_run
  have taken : ∀ number ∈ [0, 2, 3, 4],
      number ∈ [0, 2, 3, 4, 3, 4, 2, 0] ∧
        valuesPolicy.takesValue (valuesForest.cursor number) = true := by decide +kernel
  have each (number : Nat) (own : number ∈ [0, 2, 3, 4]) :=
    accounts number (taken number own).1 (taken number own).2
  refine ⟨each, ?_⟩
  rcases each 2 (by decide) with ⟨bound, -⟩ | ⟨unbound, -⟩
  · obtain ⟨d, found, binds⟩ := bound "c:size" (by decide +kernel)
    cases binds with
    | function _ native body variadic =>
        exact told "c:size" d _ found body (variadic.trans rfl) (by rw [native]; decide)
    | global kind => exact absurd kind (by decide)
  · exact absurd (by decide +kernel) (unbound "c:size" (by decide +kernel))

/-! Without its conditions values get lost, or come back. -/

/-- A function that the policy takes in is neither bound without a refusal nor refused once
without a binding. -/
def Unaccounted (forest : Forest) (policy : Policy) (number : Nat) (ended : Session) : Prop :=
  policy.takesValue (forest.cursor number) = true ∧
    ¬ ((∀ usr ∈ forest.valueUsrs policy number, isFunctionAt ended.store usr = true) ∧
      ended.refusals (forest.cursor number).usr = 0) ∧
    ¬ ((∀ usr ∈ forest.valueUsrs policy number, isFunctionAt ended.store usr = false) ∧
      ended.refusals (forest.cursor number).usr = 1)

/-- No function has the USR of another one with a suffix that is configured. -/
def SuffixesApart (forest : Forest) (policy : Policy) : Prop :=
  ∀ number < forest.size, ∀ other < forest.size,
    number ≠ other ∧ (forest.cursor number).kind = .function ∧
      (forest.cursor other).kind = .function →
    ∀ suffix ∈ policy.signatures.flatMap fun entry => entry.2.map (·.suffix),
      (forest.cursor other).usr ≠ (forest.cursor number).usr ++ suffix

instance (forest : Forest) (policy : Policy) : Decidable (SuffixesApart forest policy) :=
  inferInstanceAs (Decidable (∀ number < forest.size, ∀ other < forest.size, _ → _))

instance (forest : Forest) (policy : Policy) (number : Nat) (ended : Session) :
    Decidable (Unaccounted forest policy number ended) :=
  inferInstanceAs (Decidable (_ ∧ ¬ (_ ∧ _) ∧ ¬ (_ ∧ _)))

/-- `struct fx { int n; }; void f(int n, ...);`, where the USR of the structure is that of
the function with the suffix of its signature. -/
def coveredForest : Forest := ⟨#[
  { kind := .struct, spelling := "fx", usr := "c:fx", children := [1], definition := some 0 },
  { kind := .field, spelling := "n", usr := "c:fx@n", type := .ofKind .int },
  { kind := .function, spelling := "f", usr := "c:f", result := .ofKind .void
    type := .known { TypeFacts.plain .functionPrototype none with variadic := true }
      .absent .absent .absent (NativeType.ofKind .void) .absent .nil }]⟩

def coveredPolicy : Policy := { signatures := [("f", [⟨"x", []⟩])] }

/-- The function is lost without a word. -/
theorem coveredForest_loses_function :
    coveredForest.OneReport ∧ SuffixesApart coveredForest coveredPolicy ∧
      ((runAll [0, 2]).run coveredForest { policy := coveredPolicy }).1 = .ok ["c:fx"] ∧
      Unaccounted coveredForest coveredPolicy 2
        ((runAll [0, 2]).run coveredForest { policy := coveredPolicy }).2 :=
  ⟨Forest.oneReport_of_nodup (by decide +kernel) (by decide +kernel), by decide +kernel,
    by decide +kernel, by decide +kernel⟩

/-- `static inline void ab(int n, ...); void a(int n, ...);` -/
def overlappingForest : Forest := ⟨#[
  { kind := .function, spelling := "ab", usr := "c:ab", result := .ofKind .void
    inlined := true, storage := .static
    type := .known { TypeFacts.plain .functionPrototype none with variadic := true }
      .absent .absent .absent (NativeType.ofKind .void) .absent .nil },
  { kind := .function, spelling := "a", usr := "c:a", result := .ofKind .void
    type := .known { TypeFacts.plain .functionPrototype none with variadic := true }
      .absent .absent .absent (NativeType.ofKind .void) .absent .nil }]⟩

/-- Both functions are to be bound under one USR. -/
def overlappingPolicy : Policy :=
  { signatures := [("a", [⟨"bc", []⟩]), ("ab", [⟨"c", []⟩])] }

/-- The function that is refused is bound as well. -/
theorem overlappingForest_binds_refused :
    overlappingForest.OneReport ∧ SuffixesApart overlappingForest overlappingPolicy ∧
      ((runAll [0, 1]).run overlappingForest { policy := overlappingPolicy }).1 =
        .ok ["c:abc"] ∧
      Unaccounted overlappingForest overlappingPolicy 0
        ((runAll [0, 1]).run overlappingForest { policy := overlappingPolicy }).2 :=
  ⟨Forest.oneReport_of_nodup (by decide +kernel) (by decide +kernel), by decide +kernel,
    by decide +kernel, by decide +kernel⟩

end Session

end LuaBinder
