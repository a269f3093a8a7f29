import LuaBinder.Proofs.Session.History
import LuaBinder.Proofs.Session.Inert.Pairing
import LuaBinder.Proofs.Session.Values.Accounting
import LuaBinder.Proofs.Session.Values.Minding

namespace LuaBinder

open Header Session

/-! A function with further arguments is bound once for each of its call signatures, and
later visits give these bindings. -/

theorem SignatureTable.specialize_of_variadic {table : SignatureTable} {name : String}
    (configured : table.lookup name ≠ []) :
    table.specialize name true = (table.lookup name, false) := by
  unfold specialize
  split
  · contradiction
  · rfl

namespace Session

open Store Step

variable {forest : Forest} {s middle after : Session} {number : Nat} {c : Cursor}

/-! Fixed parameters. -/

/-- A parameter is named as the policy says. If it has no name it is numbered. -/
structure Fixed (selection : Selection) (owner : String) (index : Nat) (spelling : String)
    (p : Parameter) : Prop where
  native : p.nativeName = spelling
  nameless : spelling = "" → p.name = "arg" ++ toString index
  named : spelling ≠ "" → ∃ name, selection.renameMember owner spelling = .ok name ∧
    p.name = if name = "" then "arg" ++ toString index else name

theorem parameterName_fixed (selection : Selection) (owner : String) (index : Nat)
    (spelling : String) (type : CType) :
    (parameterName selection owner index spelling).Ensures forest s
      (fun name after => after = s ∧
        Fixed selection owner index spelling { name, type, nativeName := spelling })
      fun _ _ => True := by
  unfold parameterName
  by_cases nameless : spelling = ""
  · subst nameless
    exact ⟨rfl, rfl, fun _ => rfl, fun named => absurd rfl named⟩
  · rw [if_neg (by simpa using nameless)]
    refine ensures_bind_selected fun name renamed => ?_
    exact ⟨rfl, rfl, fun same => absurd same nameless, fun _ => ⟨name, renamed, by simp⟩⟩

/-- The parameters are those of the arguments in turn. -/
def FixedFor (forest : Forest) (selection : Selection) (owner : String) (index : Nat)
    (arguments : List Nat) (params : List Parameter) : Prop :=
  List.Forall₂ (fun argument p =>
    Fixed selection owner argument.2 (forest.cursor argument.1).spelling p)
    (arguments.zipIdx index) params

theorem functionParameters_fixed (frameNumber : Nat) (owner : String) (arguments : List Nat)
    (index : Nat) (s : Session) :
    (functionParameters frameNumber owner index arguments).Ensures forest s
      (fun params _ => FixedFor forest s.policy.functions owner index arguments params)
      fun _ _ => True := by
  induction arguments generalizing index s with
  | nil => exact List.Forall₂.nil
  | cons argument rest induction =>
      have collects (type : CType) (middle : Session) (same : middle.policy = s.policy) :
          (collectParameter middle.policy.functions owner (forest.cursor argument).spelling index
            type (functionParameters frameNumber owner (index + 1) rest)).Ensures forest middle
            (fun params _ =>
              FixedFor forest s.policy.functions owner index (argument :: rest) params)
            fun _ _ => True := by
        refine Ensures.bind (parameterName_fixed _ _ _ _ type) fun name _ given => ?_
        obtain ⟨rfl, fixed⟩ := given
        refine Ensures.bind (induction (index + 1) _) fun others _ given => ?_
        rw [same] at fixed given
        exact List.Forall₂.cons fixed given
      refine Ensures.look rfl (Step.ensures_bind.mpr (ensures_debug.mpr ?_))
      have spares :
          (resolveParameter declare frameNumber (forest.cursor argument)).Sparing forest :=
        sparing_of_keeps (keeps_resolveParameter keeps_declare _ _)
      refine Ensures.bind (spares _) fun type middle spared => Ensures.look rfl ?_
      dsimp only
      split
      · refine Step.ensures_bind.mpr (ensures_debug.mpr ?_)
        exact Ensures.look rfl (collects type _ spared.policy)
      · exact Ensures.look rfl (collects type _ spared.policy)

/-! Publishing one binding for each signature. -/

/-- The frame with more declarations noted. -/
def Frame.noting (usrs : List String) (f : Frame) : Frame :=
  { f with declarations := f.declarations ++ usrs }

theorem modify_noting_nil (context : Context) (frameNumber : Nat) :
    context.modify frameNumber (Frame.noting []) = context := by
  simp [Context.modify, Frame.noting]

theorem modify_noting_append (context : Context) (frameNumber : Nat) (usrs others : List String) :
    (context.modify frameNumber (Frame.noting usrs)).modify frameNumber (Frame.noting others) =
      context.modify frameNumber (Frame.noting (usrs ++ others)) := by
  simp only [Context.modify, List.map_map]
  refine List.map_congr_left fun f _ => ?_
  by_cases own : f.number = frameNumber <;> simp [own, Frame.noting]

/-- The session with bindings published behind the others and noted in the frame. -/
def bound (s : Session) (frameNumber : Nat) (ds : List Declaration) : Session :=
  { s with
    store := ⟨s.store.entries ++ ds.map fun d => (d.usr, d)⟩
    context := s.context.modify frameNumber (Frame.noting (ds.map (·.usr))) }

theorem run_publish {d : Declaration} (fresh : d.usr ∉ s.store.keys) :
    (publish d).run forest s = (.ok (), { s with store := s.store.push d }) := by
  have looked : getStore.run forest s = (.ok s.store, s) := rfl
  rw [publish, run_bind_of_ok looked, insert_eq_push fresh]
  rfl

/-- All are published in turn if none of them is known. -/
theorem run_publishFunctions (frameNumber : Nat) {ds : List Declaration} (s : Session)
    (fresh : ∀ d ∈ ds, d.usr ∉ s.store.keys) (apart : (ds.map (·.usr)).Nodup) :
    (publishFunctions frameNumber ds).run forest s = (.ok (), s.bound frameNumber ds) := by
  induction ds generalizing s with
  | nil =>
      have unchanged : s.bound frameNumber [] = s := by
        simp [bound, modify_noting_nil]
      rw [unchanged]
      rfl
  | cons d rest induction =>
      rw [List.map_cons, List.nodup_cons] at apart
      have absent := fresh d List.mem_cons_self
      have unknown : s.store.contains d.usr = false := by
        simpa [← contains_iff_mem_keys] using absent
      have looked : getStore.run forest s = (.ok s.store, s) := rfl
      have noted : (note frameNumber d.usr).run forest { s with store := s.store.push d } =
          (.ok (), s.bound frameNumber [d]) := rfl
      have later : ∀ other ∈ rest, other.usr ∉ (s.bound frameNumber [d]).store.keys := by
        intro other member published
        rcases List.mem_append.mp (keys_push ▸ published) with earlier | same
        · exact fresh other (List.mem_cons_of_mem _ member) earlier
        · exact apart.1 (List.mem_singleton.mp same ▸ List.mem_map_of_mem member)
      have together : (s.bound frameNumber [d]).bound frameNumber rest =
          s.bound frameNumber (d :: rest) := by
        simp [bound, modify_noting_append]
      rw [publishFunctions, run_bind_of_ok looked, if_pos (by rw [unknown]; rfl),
        run_bind_of_ok (run_publish absent), run_bind_of_ok noted, induction _ later apart.2,
        together]

theorem lookup?_bound {ds : List Declaration} {d : Declaration} (frameNumber : Nat)
    (fresh : ∀ d ∈ ds, d.usr ∉ s.store.keys) (apart : (ds.map (·.usr)).Nodup) (own : d ∈ ds) :
    (s.bound frameNumber ds).store.lookup? d.usr = some d := by
  have listed : Store.lookup? ⟨ds.map fun d => (d.usr, d)⟩ d.usr = some d := by
    refine lookup?_of_mem_entries ?_ (List.mem_map_of_mem own)
    simpa [keys, Function.comp_def] using apart
  rw [bound, lookup?_append, lookup?_eq_none_iff.mpr (fresh d own), listed]
  rfl

theorem lookup?_bound_of_other {ds : List Declaration} {key : String} (frameNumber : Nat)
    (other : ∀ d ∈ ds, d.usr ≠ key) :
    (s.bound frameNumber ds).store.lookup? key = s.store.lookup? key := by
  have absent : Store.lookup? ⟨ds.map fun d => (d.usr, d)⟩ key = none := by
    simpa [lookup?_eq_none_iff, keys] using other
  rw [bound, lookup?_append, absent, Option.or_none]

/-! The types of a function. -/

/-- The frame of the function is innermost, and is unmarked if values can be passed through
all the parameters. -/
structure Typed (forest : Forest) (number : Nat) (s : Session) (params : List Parameter)
    (after : Session) : Prop where
  inside : Inside s after
  grows : s.store.Extends forest (forest.Leads number) after.store
  clean : after.Clean ↔ ∀ p ∈ params, after.store.Passable p.type
  notes : after.notes.head? = some (s.frames, [])
  fixed : FixedFor forest s.policy.functions (forest.cursor number).spelling 0
    (forest.cursor number).arguments params

theorem resolveSignature_fixed (c : Cursor) (frameNumber : Nat) (s : Session) :
    (resolveSignature c frameNumber).Ensures forest s
      (fun signature _ =>
        FixedFor forest s.policy.functions c.spelling 0 c.arguments signature.2)
      fun _ _ => True := by
  refine Step.ensures_bind.mpr (ensures_debug.mpr ?_)
  have spares : (resolve declare c.result).Sparing forest :=
    sparing_of_keeps (keeps_resolve keeps_declare _)
  refine Ensures.bind (spares _) fun result middle spared => ?_
  refine Ensures.bind (functionParameters_fixed _ _ _ _ _) fun params _ fixed => ?_
  rw [spared.policy] at fixed
  exact fixed

theorem resolveSignature_types (sound : s.Sound) :
    (resolveSignature (forest.cursor number) s.frames).Ensures forest
      (s.entered (forest.cursor number).spelling)
      (fun typed after => Typed forest number s typed.2 after) fun _ _ => True := by
  have spares : (resolveSignature (forest.cursor number) s.frames).Sparing forest :=
    sparing_resolveSignature _ _
  have runs : (resolveSignature (forest.cursor number) s.frames).Ensures forest _ _ _ :=
    resolveSignature_runs sound (inside_entered s (forest.cursor number).spelling) sound.closed
  refine ((runs.and (spares _)).and (resolveSignature_fixed _ _ _)).imp ?_ fun _ _ _ => trivial
  intro typed after given
  obtain ⟨⟨⟨inside, signed⟩, spared⟩, fixed⟩ := given
  exact
    { inside
      grows := signed.built.extended sound.closed (onward_leads number)
      clean := signed.clean.trans (and_iff_right (clean_entered s _))
      notes := by rw [spared.notes]; rfl
      fixed }

/-- The function is taken in, and values can be passed through all its types once they are
resolved. -/
structure Supported (forest : Forest) (number : Nat) (s : Session) (result : CType)
    (params : List Parameter) (resolved : Session) : Prop where
  kind : (forest.cursor number).kind = .function
  taken : s.policy.functions.includes (forest.cursor number).usr
    (forest.cursor number).spelling = .ok true
  undropped : (forest.cursor number).usr ∉ s.dropped
  linked : (forest.cursor number).inlined = false ∨ (forest.cursor number).storage = .external
  typed : (resolveSignature (forest.cursor number) s.frames).run forest
    (s.entered (forest.cursor number).spelling) = (.ok (result, params), resolved)
  passable : ∀ type ∈ result :: params.map (·.type), resolved.store.Passable type

theorem functionRefusal?_eq_none {store : Store} {result : CType} {f : Frame}
    (linked : c.inlined = false ∨ c.storage = .external) (passable : store.Passable result)
    (clean : f.incompleteParameter = false ∧ f.unsupportedParameter = false) :
    functionRefusal? c store result f = none := by
  have visible : (c.inlined && c.storage != .external) = false := by
    rcases linked with linked | linked <;> simp [linked]
  simp [functionRefusal?, visible, passable.supported, passable.complete, clean]

theorem notes_bound {frameNumber : Nat} {usrs : List String} (ds : List Declaration)
    (top : s.notes.head? = some (frameNumber, usrs)) :
    (s.bound frameNumber ds).notes.head? = some (frameNumber, usrs ++ ds.map (·.usr)) := by
  simp only [notes, bound, Context.modify] at top ⊢
  cases opened : s.context with
  | nil => simp [opened] at top
  | cons f rest =>
      simp only [opened, List.map_cons, List.head?_cons, Option.some.injEq, Prod.mk.injEq] at top
      simp [top.1, top.2, Frame.noting]

namespace Supported

variable {result : CType} {params : List Parameter} {resolved : Session} {name : String}
  {exposed : Exposure} (supported : Supported forest number s result params resolved)
include supported

theorem types (sound : s.Sound) : Typed forest number s params resolved := by
  have types := Ensures.of_ok (resolveSignature_types sound) (congrArg Prod.fst supported.typed)
  rwa [supported.typed] at types

theorem run_addFunction (sound : s.Sound) {signatures : List CallSignature}
    (renamed : s.policy.functions.rename (forest.cursor number).spelling = .ok name)
    (exposes : exposure s.policy (forest.cursor number).spelling = .ok exposed)
    {ds : List Declaration}
    (binds : ds = signatures.map (bindFunction s.policy.native exposed (forest.cursor number) name
      (if s.policy.comments then (forest.cursor number).doc else "") result params))
    (fresh : ∀ d ∈ ds, d.usr ∉ resolved.store.keys) (apart : (ds.map (·.usr)).Nodup) :
    (addFunction (forest.cursor number) signatures false s.frames).run forest
      (s.entered (forest.cursor number).spelling) =
      (.ok (ds.map (·.usr)), resolved.bound s.frames ds) := by
  have types := supported.types sound
  have clean : resolved.Clean := types.clean.mpr fun p member =>
    supported.passable _ (List.mem_cons_of_mem _ (List.mem_map_of_mem member))
  rw [types.inside.clean_iff] at clean
  have fine := functionRefusal?_eq_none supported.linked (supported.passable _ List.mem_cons_self)
    clean
  have looked : getStore.run forest resolved = (.ok resolved.store, resolved) := rfl
  have framed : (frame s.frames).run forest resolved = (.ok _, resolved) := rfl
  have documented : (docOf (forest.cursor number)).run forest resolved =
    (.ok (if resolved.policy.comments then (forest.cursor number).doc else ""), resolved) := rfl
  have configured : getPolicy.run forest resolved = (.ok resolved.policy, resolved) := rfl
  have selectedName : (selected (resolved.policy.functions.rename
      (forest.cursor number).spelling)).run forest resolved = (.ok name, resolved) := by
    rw [types.inside.policy, renamed]
    rfl
  have selectedExposure : (selected (exposure resolved.policy
      (forest.cursor number).spelling)).run forest resolved = (.ok exposed, resolved) := by
    rw [types.inside.policy, exposes]
    rfl
  rw [addFunction_eq, run_bind_of_ok supported.typed, decideFunction, run_bind_of_ok looked,
    run_bind_of_ok framed, fine]
  dsimp only
  rw [if_neg (by simp), run_bind_of_ok documented, run_bind_of_ok configured,
    run_bind_of_ok selectedName, run_bind_of_ok selectedExposure, types.inside.policy, ← binds,
    run_bind_of_ok (run_publishFunctions s.frames resolved fresh apart),
    run_noted (notes_bound ds types.notes), List.nil_append]

/-- The bindings are published behind what the types have led to, and given in turn. -/
theorem visit_binds (sound : s.Sound) {signatures : List CallSignature}
    (variadic : (forest.cursor number).type.isVariadic = true)
    (configured : s.policy.signatures.lookup (forest.cursor number).spelling = signatures)
    (nonempty : signatures ≠ [])
    (renamed : s.policy.functions.rename (forest.cursor number).spelling = .ok name)
    (exposes : exposure s.policy (forest.cursor number).spelling = .ok exposed)
    {ds : List Declaration}
    (binds : ds = signatures.map (bindFunction s.policy.native exposed (forest.cursor number) name
      (if s.policy.comments then (forest.cursor number).doc else "") result params))
    (fresh : ∀ d ∈ ds, d.usr ∉ resolved.store.keys) (apart : (ds.map (·.usr)).Nodup) :
    (visit number).run forest s = (.ok (ds.map (·.usr)), (resolved.bound s.frames ds).left) := by
  have types := supported.types sound
  have added := supported.run_addFunction sound renamed exposes binds fresh apart
  have unbound : (signatureUsrs (forest.cursor number) signatures).all (isFunctionAt s.store) =
      false := by
    obtain ⟨signature, listed⟩ := List.exists_mem_of_ne_nil _ nonempty
    refine List.all_eq_false.mpr ⟨_, List.mem_map_of_mem listed, fun found => ?_⟩
    refine fresh _ (binds ▸ List.mem_map_of_mem listed) ?_
    exact types.grows.mem_keys (mem_keys_of_isFunctionAt found)
  have binding : (visitFunction number).Ensures forest s
      (fun value after => value = ds.map (·.usr) ∧ after = (resolved.bound s.frames ds).left)
      fun _ _ => False := by
    refine Ensures.look rfl (Ensures.look rfl ?_)
    rw [variadic, SignatureTable.specialize_of_variadic (configured ▸ nonempty), configured]
    dsimp only
    refine ensures_withFrame (Ensures.look rfl ?_)
    rw [supported.taken]
    refine Ensures.look rfl ?_
    rw [if_neg (by simp), entered_store, if_neg (by rw [unbound]; simp)]
    refine Ensures.look rfl ?_
    rw [entered_dropped, if_neg (by simpa using supported.undropped)]
    unfold Ensures
    rw [added]
    obtain ⟨f, opened, own⟩ := types.inside.context
    refine ⟨⟨f.noting (ds.map (·.usr)), ?_⟩, rfl, rfl⟩
    simp [bound, opened, Context.modify, own, Frame.noting]
  rw [run_visit_function supported.kind]
  exact binding.run_eq

end Supported

/-! Later visits. -/

/-- Whatever is no compound stays as it was published. -/
theorem Steady.lookup?_perform (steady : s.Steady) {key : String} {d : Declaration}
    (found : s.store.lookup? key = some d) (other : d.isCompound = false) (command : Command) :
    (command.perform forest s).store.lookup? key = some d := by
  have published := mem_keys_of_lookup? found
  cases command with
  | visit number => exact (lookup?_of_grown (steady.visit number).2 published).trans found
  | resolve type => exact (lookup?_of_grown (steady.resolve type).2 published).trans found
  | configure policy => exact found
  | run top =>
      refine Step.Ensures.after (fun after => after.store.lookup? key = some d)
        (Step.Ensures.imp (runAll_runs top steady.toSound) ?_ ?_)
      · intro _ after given
        obtain ⟨-, grown, visits, named, -⟩ := given
        have kept := lookup?_of_grown (visits.advances steady.closed).entries published
        exact named.lookup?_eq (kept.trans found) other
      · intro _ after given
        exact (lookup?_of_grown given.2.entries published).trans found

theorem lookup?_history {policy : Policy} {commands : List Command} {key : String}
    {d : Declaration} (found : (history forest policy commands).store.lookup? key = some d)
    (other : d.isCompound = false) (later : List Command) :
    (history forest policy (commands ++ later)).store.lookup? key = some d := by
  refine (history_append_induction (fun s => s.Steady ∧ s.store.lookup? key = some d)
    ⟨steady_history policy commands, found⟩ fun s known command _ => ?_).2
  exact ⟨known.1.perform command, known.1.lookup?_perform known.2 other command⟩

/-- A visit gives all bindings of a function, even if it is not taken in any more. -/
theorem visit_recalls {chosen : Bool} (kind : (forest.cursor number).kind = .function)
    (selects : s.policy.functions.includes (forest.cursor number).usr
      (forest.cursor number).spelling = .ok chosen)
    (published : ∀ usr ∈ s.policy.functionUsrs (forest.cursor number),
      isFunctionAt s.store usr = true) :
    ((visit number).run forest s).1 = .ok (s.policy.functionUsrs (forest.cursor number)) := by
  have known : FunctionKnown forest number s
      (s.policy.functionUsrs (forest.cursor number)) := by
    cases chosen with
    | true => exact .published selects (List.all_eq_true.mpr published)
    | false =>
        have known := FunctionKnown.excluded selects
        rwa [List.filter_eq_self.mpr published] at known
  rw [run_visit_function kind]
  have recalled := visitFunction_known known
  unfold Recalls Ensures at recalled
  split at recalled
  · rename_i ran
    rw [ran, recalled.1]
  · exact recalled.elim

/-- The declaration binds the function with the types of the signature behind its own
parameters. -/
structure Specializes (forest : Forest) (policy : Policy) (c : Cursor) (name : String)
    (signature : CallSignature) (d : Declaration) : Prop where
  usr : d.usr = c.usr ++ signature.suffix
  native : d.nativeName = c.spelling
  name : d.name = name ++ signature.suffix
  body : ∃ f, d.body = .function f ∧
    FixedFor forest policy.functions c.spelling 0 c.arguments f.params ∧
    f.extra.map (·.type) = signature.types ∧
    f.extra.map (·.name) =
      (List.range signature.types.length).map fun index => "va" ++ toString index

theorem specializes_bindFunction {policy : Policy} {native : Native} {exposed : Exposure} {name doc : String}
    {result : CType} {params : List Parameter}
    (fixed : FixedFor forest policy.functions c.spelling 0 c.arguments params)
    (signature : CallSignature) :
    Specializes forest policy c name signature
      (bindFunction native exposed c name doc result params signature) where
  usr := rfl
  native := rfl
  name := rfl
  body := by
    refine ⟨_, rfl, fixed, ?_, ?_⟩
    · simp [extraParameters, Function.comp_def]
    · rw [List.range_eq_range', ← List.zipIdx_map_snd 0 signature.types, List.map_map]
      exact List.map_map

theorem nodup_signatureUsrs {signatures : List CallSignature}
    (apart : (signatures.map (·.suffix)).Nodup) : (signatureUsrs c signatures).Nodup := by
  have distinct := apart.map fun _ _ => (String.append_right_inj c.usr).mp
  rwa [List.map_map] at distinct

/-- `void log(int level, int *, ...);` -/
def variadicForest : Forest := ⟨#[
  { kind := .function, spelling := "log", usr := "c:log", result := .ofKind .void
    arguments := [1, 2]
    type := .known { TypeFacts.plain .functionPrototype none with variadic := true }
      .absent .absent .absent (NativeType.ofKind .void) .absent .nil },
  { kind := .parameter, spelling := "level", usr := "c:level", type := .ofKind .int },
  { kind := .parameter, type := .pointerTo (.ofKind .int) }]⟩

def variadicPolicy : Policy :=
  { signatures := [("log", [⟨"_int", [.primitive .int32]⟩, ⟨"_none", []⟩])] }

def variadicTypes : Except Error (CType × List Parameter) × Session :=
  (resolveSignature (variadicForest.cursor 0) 0).run variadicForest
    (({ policy := variadicPolicy } : Session).entered "log")

def variadicParams : List Parameter :=
  [{ name := "level", type := .primitive .int, nativeName := "level" },
    { name := "arg1", type := .pointer (.primitive .int) false }]

theorem variadicForest_supported :
    Supported variadicForest 0 (history variadicForest variadicPolicy []) .void variadicParams
      variadicTypes.2 where
  kind := rfl
  taken := by decide +kernel
  undropped := by decide
  linked := .inl rfl
  typed := Prod.ext (by decide +kernel) rfl
  passable := by
    have passable : ∀ type ∈ .void :: variadicParams.map (·.type),
        variadicTypes.2.store.isUnsupported type = false ∧
          variadicTypes.2.store.isIncomplete type = false := by decide +kernel
    exact fun type member => ⟨(passable type member).1, (passable type member).2⟩

def variadicSignatures : List CallSignature := [⟨"_int", [.primitive .int32]⟩, ⟨"_none", []⟩]

/-- `struct f_int { int n; }; void f(struct f_int *, ...);`, where the USR of the structure is
that of the function with the suffix of its signature. -/
def takenForest : Forest := ⟨#[
  { kind := .function, spelling := "f", usr := "c:f", result := .ofKind .void
    arguments := [1]
    type := .known { TypeFacts.plain .functionPrototype none with variadic := true }
      .absent .absent .absent (NativeType.ofKind .void) .absent .nil },
  { kind := .parameter, type := .pointerTo (.declared .record 2) },
  { kind := .struct, spelling := "f_int", usr := "c:f_int", children := [3], definition := some 2 },
  { kind := .field, spelling := "n", usr := "c:f_int@n", type := .ofKind .int }]⟩

def takenPolicy : Policy := { signatures := [("f", [⟨"_int", [.primitive .int32]⟩])] }

def takenTypes : Except Error (CType × List Parameter) × Session :=
  (resolveSignature (takenForest.cursor 0) 0).run takenForest
    (({ policy := takenPolicy } : Session).entered "f")

end Session

/-! Where published functions come from: each one binds a function of the header, with the
parameters that it had under some policy of the session. -/

namespace Sources

variable {sources : Sources} {policy : Policy} {number : Nat}

/-- Under a policy of the sources the function is bound so. -/
def Specialized (sources : Sources) (d : Declaration) : Prop :=
  ∃ number, (sources.forest.cursor number).kind = .function ∧
    ∃ policy ∈ sources.policies, ∃ signature ∈ (policy.signatures.specialize
      (sources.forest.cursor number).spelling (sources.forest.cursor number).type.isVariadic).1,
    ∃ name, Specializes sources.forest policy (sources.forest.cursor number) name signature d

/-- What is bound has the parameters that were resolved for it. -/
theorem addFunction_specializes {signatures : List CallSignature}
    (kind : (sources.forest.cursor number).kind = .function) (configured : policy ∈ sources.policies)
    (given : signatures ⊆ (policy.signatures.specialize (sources.forest.cursor number).spelling
      (sources.forest.cursor number).type.isVariadic).1) (ignored : Bool) (frameNumber : Nat) :
    (addFunction (sources.forest.cursor number) signatures ignored frameNumber).Keeps sources.forest
      (minding sources.forest policy fun _ => sources.Specialized) := by
  refine keeps_minding fun s same => ?_
  subst same
  have keeps : (resolveSignature (sources.forest.cursor number) frameNumber).Keeps sources.forest
      (minding sources.forest s.policy fun _ => sources.Specialized) := keeps_resolveSignature _ _
  have resolves := (keeps s).and
    (resolveSignature_fixed (sources.forest.cursor number) frameNumber s)
  rw [addFunction_eq]
  refine Step.Ensures.bind (resolves.imp (fun _ _ given => given) fun _ _ failed => failed.1) ?_
  rintro ⟨result, params⟩ resolved ⟨begun, fixed⟩
  have liberal : (minding sources.forest s.policy fun _ => sources.Specialized).Liberal
      (sources.forest.cursor number) [] :=
    liberal_minding fun d _ _ bound => absurd bound List.not_mem_nil
  refine (keeps_decideFunction liberal ignored frameNumber ?_ resolved).onward begun
  intro signature listed native exposure name doc t d fresh
  exact .of_store rfl fun each => each.push fresh fun _ =>
    ⟨number, kind, s.policy, configured, signature, given listed, name,
      specializes_bindFunction fixed signature⟩

theorem visit_specializes (configured : policy ∈ sources.policies) (number : Nat) :
    (visit number).Keeps sources.forest
      (minding sources.forest policy fun _ => sources.Specialized) := by
  refine keeps_visit_minding fun kind => keeps_minding fun s same => ?_
  subst same
  exact visitFunction_ensures
    (addFunction_specializes kind configured (List.Subset.refl _))

/-- At any time every published function is bound so. -/
theorem specialized_ofCommands (forest : Forest) (policy : Policy) (commands : List Command) :
    (history forest policy commands).store.EachFunction fun _ =>
      (ofCommands forest policy commands).Specialized :=
  (each_ofCommands forest policy commands fun _ configured number =>
    visit_specializes configured number).2

end Sources

end LuaBinder
