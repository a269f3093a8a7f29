import LuaBinder.Proofs.Session.Fuel
import LuaBinder.Proofs.Session.Values.Treatment

namespace LuaBinder

open Header Session

/-- The reasons for which functions and globals are dropped. -/
def Reason.isRefusal : Reason → Bool
  | .inlineFunction | .incompleteByValue | .unimplementedType => true
  | .unsupportedMember | .variadicMismatch => false

/-- The USRs that a function is bound under, one for each of its call signatures. -/
def Policy.functionUsrs (policy : Policy) (c : Cursor) : List String :=
  signatureUsrs c (policy.signatures.specialize c.spelling c.type.isVariadic).1

namespace Session

open Store Step

/-! Visits of functions and globals, case by case. -/

variable {forest : Forest} {s middle after : Session} {number : Nat}

/-- Only the log and the number of frames that there have been may differ. -/
def Untouched (s after : Session) : Prop :=
  after = { s with frames := after.frames, log := after.log }

/-- The step only looks. -/
def Step.Recalls (step : Step α) (forest : Forest) (s : Session) (value : α) : Prop :=
  step.Ensures forest s (fun found after => found = value ∧ Untouched s after) fun _ _ => False

@[simp] theorem entered_store (s : Session) (name : String) :
    (s.entered name).store = s.store := rfl

@[simp] theorem entered_policy (s : Session) (name : String) :
    (s.entered name).policy = s.policy := rfl

@[simp] theorem entered_typedefNamed (s : Session) (name : String) :
    (s.entered name).typedefNamed = s.typedefNamed := rfl

@[simp] theorem entered_dropped (s : Session) (name : String) :
    (s.entered name).dropped = s.dropped := rfl

theorem recalls_withFrame {name : String} {body : Nat → Step α} {value : α}
    (answers : (body s.frames).Recalls forest (s.entered name) value) :
    (withFrame name body).Recalls forest s value := by
  refine ensures_withFrame (answers.imp ?_ fun _ _ failed => failed.elim)
  intro found after given
  obtain ⟨same, untouched⟩ := given
  rw [untouched]
  exact ⟨⟨_, _, rfl, rfl⟩, same, rfl⟩

theorem Treatment.popped {bound : List Declaration} {dropped : List String}
    {told : List Diagnostic} {name : String} {context : Context}
    (treatment : Treatment forest bound dropped told (s.entered name) middle) :
    Treatment forest bound dropped told s { middle with context } :=
  ⟨treatment.policy, treatment.entries, treatment.fresh, treatment.listed, treatment.dropped,
    treatment.diagnostics⟩

theorem Treatment.of_push {d : Declaration} (fresh : d.usr ∉ s.store.keys) :
    Treatment forest [d] [] [] s { s with store := s.store.push d } where
  policy := rfl
  entries := prefix_push
  fresh := by
    intro key other found absent
    rw [lookup?_push fresh] at found
    split at found
    · rename_i own
      obtain rfl := Option.some.inj found
      exact .inl ⟨List.mem_singleton_self _, own.symm⟩
    · exact absurd (mem_keys_of_lookup? found) absent
  listed := by simp
  dropped := by simp
  diagnostics := ⟨[], by simp, by simp⟩

/-- What is refused is dropped, with one diagnostic. -/
theorem refuse_treats (source logged : String) {name usr message : String} {reason : Reason}
    (closed : s.store.Closed) :
    (refuse source logged name usr reason message).Ensures forest s
      (fun value after => value = [] ∧
        Treatment forest [] [usr] [⟨name, usr, reason, message⟩] s after)
      fun _ _ => False := by
  have empty : (s.store.Extends forest (fun _ => True) s.store) := .refl closed
  simp only [refuse, drop, Step.ensures_bind, ensures_debug, ensures_modify, diagnose, record,
    Step.ensures_pure]
  refine ⟨trivial, ?_⟩
  split
  · rename_i known
    have known : usr ∈ s.dropped := by simpa using known
    exact
      { policy := rfl
        entries := List.prefix_rfl
        fresh := fun key d found absent =>
          .inr (empty.valueless key d.body (by simp [Store.body?, found]) absent)
        listed := by simp
        dropped := fun other =>
          ⟨.inl, fun given => given.elim id fun own => List.mem_singleton.mp own ▸ known⟩
        diagnostics := ⟨[], by simp, by simp⟩ }
  · exact
      { policy := rfl
        entries := List.prefix_rfl
        fresh := fun key d found absent =>
          .inr (empty.valueless key d.body (by simp [Store.body?, found]) absent)
        listed := by simp
        dropped := by simp
        diagnostics := ⟨[], by simp, by simp⟩ }

/-- The declaration is published as one that is accepted. -/
def publishedAs (store : Store) (usr : String) (ok : Declaration → Bool) : Bool :=
  ((store.lookup? usr).filter ok).isSome

theorem mem_keys_of_publishedAs {store : Store} {usr : String} {ok : Declaration → Bool}
    (found : publishedAs store usr ok = true) : usr ∈ store.keys := by
  cases located : store.lookup? usr with
  | none => simp [publishedAs, located] at found
  | some d => exact mem_keys_of_lookup? located

theorem isFunctionAt_eq (store : Store) (usr : String) :
    isFunctionAt store usr = publishedAs store usr isFunction := by
  unfold isFunctionAt publishedAs
  cases store.lookup? usr with
  | none => rfl
  | some d => cases accepted : isFunction d <;> simp [accepted]

/-! Functions. -/

theorem keeps_resolveSignature {conduct : Conduct forest} (c : Cursor) (frameNumber : Nat) :
    (resolveSignature c frameNumber).Keeps forest conduct := by
  refine (keeps_debug _ (by simp)).bind fun _ => ?_
  refine (keeps_resolve keeps_declare _).bind fun result => ?_
  exact (keeps_functionParameters _ _ _ _).bind fun params => keeps_pure _

theorem sparing_resolveSignature (c : Cursor) (frameNumber : Nat) :
    (resolveSignature c frameNumber).Sparing forest :=
  sparing_of_keeps (keeps_resolveSignature c frameNumber)

/-- The declaration binds the function or the global. -/
inductive Binds (c : Cursor) (d : Declaration) : Prop
  | function {f : Function} (kind : c.kind = .function) (native : d.nativeName = c.spelling)
      (body : d.body = .function f) (variadic : f.variadic = c.type.isVariadic)
  | global {type : CType} {const exposed : Bool} (kind : c.kind = .global)
      (native : d.nativeName = c.spelling) (body : d.body = .global type const exposed)

/-- The declarations are published, unless something is published under their USRs, and
the visit notes them in its own frame. -/
structure Adds (frameNumber : Nat) (ds : List Declaration) (s after : Session) : Prop where
  policy : after.policy = s.policy
  entries : s.store.entries <+: after.store.entries
  fresh : ∀ key d, after.store.lookup? key = some d → key ∉ s.store.keys →
    d ∈ ds ∧ d.usr = key
  listed : ∀ d ∈ ds, d.usr ∈ after.store.keys
  notes : ∀ noted, s.notes.head? = some (frameNumber, noted) →
    after.notes.head? = some (frameNumber, noted ++ ds.map Declaration.usr)
  dropped : after.dropped = s.dropped
  diagnostics : after.diagnostics = s.diagnostics

namespace Adds

variable {frameNumber : Nat} {ds es : List Declaration} {d : Declaration}

theorem nil : Adds frameNumber [] s s where
  policy := rfl
  entries := List.prefix_rfl
  fresh := fun _ _ found absent => absurd (mem_keys_of_lookup? found) absent
  listed := by simp
  notes := by simp
  dropped := rfl
  diagnostics := rfl

theorem trans (first : Adds frameNumber ds s middle) (second : Adds frameNumber es middle after) :
    Adds frameNumber (ds ++ es) s after where
  policy := second.policy.trans first.policy
  entries := first.entries.trans second.entries
  fresh := by
    intro key d found absent
    by_cases earlier : key ∈ middle.store.keys
    · rw [lookup?_of_grown second.entries earlier] at found
      exact (first.fresh key d found absent).imp_left (List.mem_append_left _)
    · exact (second.fresh key d found earlier).imp_left (List.mem_append_right _)
  listed := by
    intro d member
    rcases List.mem_append.mp member with member | member
    · exact (prefix_keys second.entries).subset (first.listed d member)
    · exact second.listed d member
  notes := by
    intro noted top
    rw [second.notes _ (first.notes noted top), List.map_append, List.append_assoc]
  dropped := second.dropped.trans first.dropped
  diagnostics := second.diagnostics.trans first.diagnostics

theorem of_note (published : d.usr ∈ s.store.keys) :
    (note frameNumber d.usr).Ensures forest s (fun _ after => Adds frameNumber [d] s after)
      fun _ _ => False where
  policy := rfl
  entries := List.prefix_rfl
  fresh := fun _ _ found absent => absurd (mem_keys_of_lookup? found) absent
  listed := by simpa using published
  notes := by
    intro noted top
    simp only [Session.notes, Context.modify] at top ⊢
    cases opened : s.context with
    | nil => simp [opened] at top
    | cons f rest =>
        simp only [opened, List.map_cons, List.head?_cons, Option.some.injEq, Prod.mk.injEq] at top
        simp [top.1, top.2]
  dropped := rfl
  diagnostics := rfl

theorem of_push (fresh : d.usr ∉ s.store.keys)
    (adds : Adds frameNumber [d] { s with store := s.store.push d } after) :
    Adds frameNumber [d] s after where
  policy := adds.policy
  entries := prefix_push.trans adds.entries
  fresh := by
    intro key other found absent
    by_cases earlier : key ∈ (s.store.push d).keys
    · rw [lookup?_of_grown adds.entries earlier, lookup?_push fresh] at found
      split at found
      · rename_i own
        obtain rfl := Option.some.inj found
        exact ⟨List.mem_singleton_self _, own.symm⟩
      · exact absurd (mem_keys_of_lookup? found) absent
    · exact adds.fresh key other found earlier
  listed := adds.listed
  notes := adds.notes
  dropped := adds.dropped
  diagnostics := adds.diagnostics

end Adds

theorem publishFunctions_adds (frameNumber : Nat) (ds : List Declaration) (s : Session) :
    (publishFunctions frameNumber ds).Ensures forest s
      (fun _ after => Adds frameNumber ds s after) fun _ _ => True := by
  induction ds generalizing s with
  | nil => exact .nil
  | cons d rest induction =>
      have others (middle : Session) (adds : Adds frameNumber [d] s middle) :
          (publishFunctions frameNumber rest).Ensures forest middle
            (fun _ after => Adds frameNumber (d :: rest) s after) fun _ _ => True :=
        (induction middle).imp (fun _ _ further => adds.trans further) fun _ _ failed => failed
      refine Step.Ensures.look rfl ?_
      dsimp only
      split
      · refine Step.ensures_bind.mpr (ensures_publish (fun fresh => ?_) fun _ => trivial)
        have noted : (note frameNumber d.usr).Ensures forest { s with store := s.store.push d }
            (fun _ after => Adds frameNumber [d] { s with store := s.store.push d } after)
            fun _ _ => False := .of_note (by simp)
        exact Step.Ensures.bind (noted.imp (fun _ _ adds => adds) fun _ _ failed => failed.elim)
          fun _ middle adds => others middle (.of_push fresh adds)
      · rename_i published
        have published : d.usr ∈ s.store.keys := by
          simpa [contains_iff_mem_keys] using published
        have noted : (note frameNumber d.usr).Ensures forest s
            (fun _ after => Adds frameNumber [d] s after) fun _ _ => False := .of_note published
        exact Step.Ensures.bind (noted.imp (fun _ _ adds => adds) fun _ _ failed => failed.elim)
          fun _ middle adds => others middle adds

/-- A function or a global is bound under its USRs, or it is dropped with a diagnostic. -/
inductive Verdict (forest : Forest) (c : Cursor) (usrs : List String) (told : List Diagnostic)
    (s : Session) : List String → Session → Prop
  | refused {after : Session} (refusal : Diagnostic) (own : refusal.usr = c.usr)
      (reason : refusal.reason.isRefusal = true)
      (treatment : Treatment forest [] [c.usr] [refusal] s after) :
      Verdict forest c usrs told s [] after
  | bound {after : Session} (ds : List Declaration) (named : ds.map (·.usr) = usrs)
      (binds : ∀ d ∈ ds, Binds c d) (treatment : Treatment forest ds [] told s after) :
      Verdict forest c usrs told s usrs after

theorem Verdict.popped {c : Cursor} {usrs value : List String}
    {told : List Diagnostic} {name : String} {context : Context}
    (verdict : Verdict forest c usrs told (s.entered name) value after) :
    Verdict forest c usrs told s value { after with context } := by
  cases verdict with
  | refused refusal own reason treatment => exact .refused refusal own reason treatment.popped
  | bound ds named binds treatment => exact .bound ds named binds treatment.popped

theorem isRefusal_of_functionRefusal? {c : Cursor} {store : Store} {result : CType} {f : Frame}
    {refusal : Refusal} (refused : functionRefusal? c store result f = some refusal) :
    refusal.reason.isRefusal = true := by
  unfold functionRefusal? at refused
  split at refused
  · rw [← Option.some.inj refused]; rfl
  split at refused
  · rw [← Option.some.inj refused]; rfl
  split at refused
  · rw [← Option.some.inj refused]; rfl
  · cases refused

/-- The signatures of a function that takes no further arguments are of no use. -/
def mismatch (c : Cursor) : Diagnostic :=
  ⟨c.spelling, c.usr, .variadicMismatch,
    "variadic-argument config given for a function that is not variadic"⟩

def mismatches (c : Cursor) (ignored : Bool) : List Diagnostic :=
  if ignored then [mismatch c] else []

theorem ensures_bind_selected {result : Except SelectionError α} {next : α → Step β}
    {good : β → Session → Prop}
    (rest : ∀ answer, result = .ok answer → (next answer).Ensures forest s good fun _ _ => True) :
    (selected result >>= next).Ensures forest s good fun _ _ => True := by
  cases result with
  | ok answer => exact Step.Ensures.look rfl (rest answer rfl)
  | error error => exact trivial

/-- The innermost frame tells what its visit has noted. -/
theorem run_noted {frameNumber : Nat} {usrs : List String}
    (top : s.notes.head? = some (frameNumber, usrs)) :
    (noted frameNumber).run forest s = (.ok usrs, s) := by
  cases opened : s.context with
  | nil => simp [notes, opened] at top
  | cons f rest =>
      simp only [notes, opened, List.map_cons, List.head?_cons, Option.some.injEq,
        Prod.mk.injEq] at top
      have found : (s.context.find? (·.number == frameNumber)) = some f := by
        simp [opened, top.1]
      change (Except.ok ((s.context.find? (·.number == frameNumber)).getD
        { number := frameNumber, name := "" }).declarations, s) = _
      rw [found, ← top.2]
      rfl

theorem bindFunctions_adds {c : Cursor} {signatures : List CallSignature} {frameNumber : Nat}
    {result : CType} {params : List Parameter} (kind : c.kind = .function)
    (top : s.notes.head? = some (frameNumber, [])) :
    (bindFunctions c signatures frameNumber result params).Ensures forest s
      (fun value after => value = signatureUsrs c signatures ∧
        ∃ ds : List Declaration, ds.map Declaration.usr = signatureUsrs c signatures ∧
          (∀ d ∈ ds, Binds c d) ∧ Adds frameNumber ds s after)
      fun _ _ => True := by
  refine Step.Ensures.look rfl (Step.Ensures.look rfl ?_)
  refine ensures_bind_selected fun name _ => ensures_bind_selected fun exposed _ => ?_
  refine Step.Ensures.bind (publishFunctions_adds frameNumber _ s) fun _ after adds => ?_
  have marked := adds.notes [] top
  unfold Step.Ensures
  rw [run_noted marked]
  have named : (signatures.map (bindFunction s.policy.native exposed c name
      (if s.policy.comments then c.doc else "") result params)).map Declaration.usr =
      signatureUsrs c signatures := by
    rw [List.map_map]
    rfl
  refine ⟨by simpa using named, _, named, fun d member => ?_, adds⟩
  obtain ⟨signature, -, rfl⟩ := List.mem_map.mp member
  exact .function kind rfl rfl rfl

theorem Adds.treatment {ds : List Declaration} {told : List Diagnostic} {frameNumber : Nat}
    {log : List LogRecord}
    (adds : Adds frameNumber ds { s with diagnostics := s.diagnostics ++ told, log } after) :
    Treatment forest ds [] told s after where
  policy := adds.policy
  entries := adds.entries
  fresh := fun key d found absent => .inl (adds.fresh key d found absent)
  listed := adds.listed
  dropped := by simp [adds.dropped]
  diagnostics := ⟨[], by simp [adds.diagnostics], by simp⟩

theorem addFunction_verdict {outer : Session} {signatures : List CallSignature} {ignored : Bool}
    (kind : (forest.cursor number).kind = .function) (sound : outer.Sound)
    (inside : Inside outer s) (closed : s.store.Closed)
    (top : s.notes.head? = some (outer.frames, [])) :
    (addFunction (forest.cursor number) signatures ignored outer.frames).Ensures forest s
      (Verdict forest (forest.cursor number) (signatureUsrs (forest.cursor number) signatures)
        (mismatches (forest.cursor number) ignored) s)
      fun _ _ => True := by
  rw [addFunction_eq]
  have runs : (resolveSignature (forest.cursor number) outer.frames).Ensures forest s _ _ :=
    resolveSignature_runs sound inside closed
  refine Step.Ensures.bind (((sparing_resolveSignature _ _ s).and runs).imp
    (fun _ _ given => given) fun _ _ _ => trivial) fun typed resolved given => ?_
  obtain ⟨spares, -, signed⟩ := given
  have extended := signed.built.extended closed (onward_leads number)
  have idles : Idles forest s resolved := .of_spares spares (extended.mono fun _ _ => trivial)
  have top : resolved.notes.head? = some (outer.frames, []) := by rw [spares.notes, top]
  refine Step.Ensures.look rfl (Step.Ensures.look rfl ?_)
  split
  · rename_i refusal refused
    refine (refuse_treats "func" _ extended.closed).imp ?_ fun _ _ failed => failed.elim
    intro value after given
    obtain ⟨rfl, treatment⟩ := given
    exact .refused _ rfl (isRefusal_of_functionRefusal? refused) (idles.idle treatment)
  · dsimp only
    cases ignored with
    | true =>
        rw [if_pos rfl]
        refine Step.ensures_bind.mpr (ensures_diagnose.mpr ?_)
        refine (bindFunctions_adds (s := { resolved with
          diagnostics := resolved.diagnostics ++ [mismatch (forest.cursor number)]
          log := resolved.log ++ [_] }) kind top).imp ?_ fun _ _ failed => failed
        intro value after given
        obtain ⟨rfl, ds, named, binds, adds⟩ := given
        exact .bound ds named binds (idles.idle (Adds.treatment adds))
    | false =>
        refine (bindFunctions_adds kind top).imp ?_ fun _ _ failed => failed
        intro value after given
        obtain ⟨rfl, ds, named, binds, adds⟩ := given
        exact .bound ds named binds (idles.idle (Adds.treatment (by simpa [mismatches] using adds)))

theorem mem_keys_of_isFunctionAt {store : Store} {usr : String}
    (found : isFunctionAt store usr = true) : usr ∈ store.keys :=
  mem_keys_of_publishedAs (isFunctionAt_eq store usr ▸ found)

/-- What decides the visit of a function before anything is built: it is left out, bound
already, or dropped. -/
inductive FunctionKnown (forest : Forest) (number : Nat) (s : Session) : List String → Prop
  | excluded
      (out : s.policy.functions.includes (forest.cursor number).usr
        (forest.cursor number).spelling = .ok false) :
      FunctionKnown forest number s
        ((s.policy.functionUsrs (forest.cursor number)).filter (isFunctionAt s.store))
  | published
      (taken : s.policy.functions.includes (forest.cursor number).usr
        (forest.cursor number).spelling = .ok true)
      (bound : (s.policy.functionUsrs (forest.cursor number)).all (isFunctionAt s.store) = true) :
      FunctionKnown forest number s (s.policy.functionUsrs (forest.cursor number))
  | dropped
      (taken : s.policy.functions.includes (forest.cursor number).usr
        (forest.cursor number).spelling = .ok true)
      (unbound : (s.policy.functionUsrs (forest.cursor number)).all (isFunctionAt s.store) =
        false)
      (dropped : (forest.cursor number).usr ∈ s.dropped) : FunctionKnown forest number s []

/-- Nothing is known of the function, which is taken in. -/
structure FunctionOpen (forest : Forest) (number : Nat) (s : Session) : Prop where
  taken : s.policy.functions.includes (forest.cursor number).usr
    (forest.cursor number).spelling = .ok true
  unbound : (s.policy.functionUsrs (forest.cursor number)).all (isFunctionAt s.store) = false
  undropped : (forest.cursor number).usr ∉ s.dropped

theorem known_or_open
    (decided : ¬ ∃ error, s.policy.functions.includes (forest.cursor number).usr
      (forest.cursor number).spelling = .error error) :
    (∃ value, FunctionKnown forest number s value) ∨ FunctionOpen forest number s := by
  cases answer : s.policy.functions.includes (forest.cursor number).usr
      (forest.cursor number).spelling with
  | error error => exact absurd ⟨error, answer⟩ decided
  | ok taken =>
      cases taken with
      | false => exact .inl ⟨_, .excluded answer⟩
      | true =>
          cases unbound : (s.policy.functionUsrs (forest.cursor number)).all
              (isFunctionAt s.store) with
          | true => exact .inl ⟨_, .published answer unbound⟩
          | false =>
              by_cases dropped : (forest.cursor number).usr ∈ s.dropped
              · exact .inl ⟨_, .dropped answer unbound dropped⟩
              · exact .inr ⟨answer, unbound, dropped⟩

theorem visitFunction_known {value : List String} (known : FunctionKnown forest number s value) :
    (visitFunction number).Recalls forest s value := by
  refine Step.Ensures.look rfl (Step.Ensures.look rfl ?_)
  split
  rename_i signatures ignored specialized
  refine recalls_withFrame (Step.Ensures.look rfl ?_)
  have usrs : s.policy.functionUsrs (forest.cursor number) =
      signatureUsrs (forest.cursor number) signatures := by
    rw [Policy.functionUsrs, specialized]
  cases known with
  | excluded out =>
      rw [out, usrs]
      exact ⟨rfl, rfl⟩
  | published taken bound =>
      rw [usrs] at bound
      rw [taken, usrs]
      refine Step.Ensures.look rfl ?_
      rw [if_neg (by simp), entered_store, if_pos bound]
      exact ⟨rfl, rfl⟩
  | dropped taken unbound dropped =>
      rw [usrs] at unbound
      rw [taken]
      refine Step.Ensures.look rfl ?_
      rw [if_neg (by simp), entered_store, if_neg (by rw [unbound]; simp)]
      refine Step.Ensures.look rfl ?_
      rw [entered_dropped, if_pos (by simpa using dropped)]
      exact ⟨rfl, rfl⟩

/-- The verdict on a function of which nothing is known. -/
abbrev FunctionVerdict (forest : Forest) (number : Nat) (s : Session) :
    List String → Session → Prop :=
  Verdict forest (forest.cursor number) (s.policy.functionUsrs (forest.cursor number))
    (mismatches (forest.cursor number) (s.policy.signatures.specialize
      (forest.cursor number).spelling (forest.cursor number).type.isVariadic).2) s

theorem visitFunction_open (kind : (forest.cursor number).kind = .function) (sound : s.Sound)
    (unknown : FunctionOpen forest number s) :
    (visitFunction number).Ensures forest s (FunctionVerdict forest number s)
      fun _ _ => True := by
  refine Step.Ensures.look rfl (Step.Ensures.look rfl ?_)
  rw [FunctionVerdict, Policy.functionUsrs]
  have unbound := unknown.unbound
  rw [Policy.functionUsrs] at unbound
  generalize s.policy.signatures.specialize (forest.cursor number).spelling
    (forest.cursor number).type.isVariadic = specialized at unbound ⊢
  obtain ⟨signatures, ignored⟩ := specialized
  dsimp only at unbound ⊢
  refine ensures_withFrame_of_popped ?_
  rw [unknown.taken]
  refine Step.Ensures.look rfl (Step.Ensures.look rfl ?_)
  rw [if_neg (by simp), entered_store, if_neg (by rw [unbound]; simp)]
  refine Step.Ensures.look rfl ?_
  rw [entered_dropped, if_neg (by simpa using unknown.undropped)]
  refine (addFunction_verdict kind sound (inside_entered s _) sound.closed rfl).imp ?_
    fun _ _ failed => failed
  exact fun _ _ verdict _ _ _ => verdict.popped

theorem visitFunction_ends (kind : (forest.cursor number).kind = .function)
    (sound : s.Sound) :
    (visitFunction number).Ensures forest s
      (fun value after => FunctionKnown forest number s value ∧ Untouched s after ∨
        FunctionOpen forest number s ∧ FunctionVerdict forest number s value after)
      fun _ _ => True := by
  by_cases undecided : ∃ error, s.policy.functions.includes (forest.cursor number).usr
      (forest.cursor number).spelling = .error error
  · obtain ⟨error, undecided⟩ := undecided
    refine Step.Ensures.look rfl (Step.Ensures.look rfl ?_)
    refine ensures_withFrame_of_popped (Step.Ensures.look rfl ?_)
    rw [undecided]
    trivial
  · rcases known_or_open undecided with ⟨value, known⟩ | unknown
    · refine Step.Ensures.imp (visitFunction_known known) ?_ fun _ _ failed => failed.elim
      intro found after given
      obtain ⟨rfl, untouched⟩ := given
      exact .inl ⟨known, untouched⟩
    · exact (visitFunction_open kind sound unknown).imp (fun _ _ verdict => .inr ⟨unknown, verdict⟩)
        fun _ _ failed => failed

/-- A visit gives a function under its own USRs, or not at all. -/
theorem subset_functionUsrs_of_visit {usrs : List String}
    (kind : (forest.cursor number).kind = .function) (sound : s.Sound)
    (visited : (visit number).run forest s = (.ok usrs, after)) :
    usrs ⊆ s.policy.functionUsrs (forest.cursor number) := by
  rw [run_visit_function kind] at visited
  have ends := Ensures.of_ok (visitFunction_ends kind sound) (congrArg Prod.fst visited)
  rcases ends with ⟨known, -⟩ | ⟨-, verdict⟩
  · cases known with
    | excluded => exact List.filter_sublist.subset
    | published => exact List.Subset.refl _
    | dropped => exact List.nil_subset _
  · cases verdict with
    | refused => exact List.nil_subset _
    | bound => exact List.Subset.refl _

/-! Globals. -/

/-- What decides the visit of a global before its type is resolved: it is bound already, has
no symbol, is left out, or was dropped. -/
inductive GlobalKnown (forest : Forest) (number : Nat) (s : Session) : List String → Prop
  | published (bound : publishedAs s.store (forest.cursor number).usr (·.kind == .global) = true) :
      GlobalKnown forest number s [(forest.cursor number).usr]
  | hidden (unbound : publishedAs s.store (forest.cursor number).usr (·.kind == .global) = false)
      (hidden : (forest.cursor number).storage = .static) : GlobalKnown forest number s []
  | excluded (unbound : publishedAs s.store (forest.cursor number).usr (·.kind == .global) = false)
      (linked : (forest.cursor number).storage ≠ .static)
      (out : s.policy.globals.includes (forest.cursor number).usr
        (forest.cursor number).spelling = .ok false) : GlobalKnown forest number s []
  | dropped (unbound : publishedAs s.store (forest.cursor number).usr (·.kind == .global) = false)
      (linked : (forest.cursor number).storage ≠ .static)
      (taken : s.policy.globals.includes (forest.cursor number).usr
        (forest.cursor number).spelling = .ok true)
      (dropped : (forest.cursor number).usr ∈ s.dropped) : GlobalKnown forest number s []

/-- Nothing is known of the global, which has a symbol and is taken in. -/
structure GlobalOpen (forest : Forest) (number : Nat) (s : Session) : Prop where
  taken : s.policy.globals.includes (forest.cursor number).usr
    (forest.cursor number).spelling = .ok true
  linked : (forest.cursor number).storage ≠ .static
  unbound : publishedAs s.store (forest.cursor number).usr (·.kind == .global) = false
  undropped : (forest.cursor number).usr ∉ s.dropped

/-- The verdict on a global of which nothing is known. -/
abbrev GlobalVerdict (forest : Forest) (number : Nat) (s : Session) :
    List String → Session → Prop :=
  Verdict forest (forest.cursor number) [(forest.cursor number).usr] [] s

theorem isRefusal_of_globalRefusal? {store : Store} {type : CType} {refusal : Refusal}
    (refused : globalRefusal? store type = some refusal) : refusal.reason.isRefusal = true := by
  unfold globalRefusal? at refused
  split at refused
  · rw [← Option.some.inj refused]; rfl
  split at refused
  · rw [← Option.some.inj refused]; rfl
  · cases refused

theorem visitGlobal_known {value : List String} (known : GlobalKnown forest number s value) :
    (visitGlobal number).Recalls forest s value := by
  refine Step.Ensures.look rfl (recalls_withFrame (Step.Ensures.look rfl ?_))
  rw [entered_store, ← publishedAs]
  cases known with
  | published bound =>
      rw [if_pos bound]
      exact ⟨rfl, rfl⟩
  | hidden unbound hidden =>
      rw [if_neg (by simp [unbound]), if_pos (by simp [hidden])]
      exact ⟨rfl, rfl⟩
  | excluded unbound linked out =>
      rw [if_neg (by simp [unbound]), if_neg (by simp [linked])]
      refine Step.Ensures.look rfl ?_
      rw [entered_policy, out]
      exact ⟨rfl, rfl⟩
  | dropped unbound linked taken dropped =>
      rw [if_neg (by simp [unbound]), if_neg (by simp [linked])]
      refine Step.Ensures.look rfl ?_
      rw [entered_policy, taken]
      refine Step.Ensures.look rfl (Step.Ensures.look rfl ?_)
      rw [entered_dropped, if_pos (by simpa using dropped)]
      exact ⟨rfl, rfl⟩

theorem addGlobal_verdict (kind : (forest.cursor number).kind = .global) (sound : s.Sound) :
    (addGlobal (forest.cursor number)).Ensures forest s (GlobalVerdict forest number s)
      fun _ _ => True := by
  refine Step.Ensures.bind (idle_debug _ _ sound) fun _ begun given => ?_
  obtain ⟨sound, unlogged⟩ := given
  refine Step.Ensures.bind (idle_resolve _ sound) fun type resolved given => ?_
  obtain ⟨sound, resolving⟩ := given
  have idles := unlogged.idle resolving
  refine Step.Ensures.look rfl ?_
  split
  · rename_i refusal refused
    refine (refuse_treats "var" _ sound.closed).imp ?_ fun _ _ failed => failed.elim
    intro value after given
    obtain ⟨rfl, treatment⟩ := given
    exact .refused _ rfl (isRefusal_of_globalRefusal? refused) (idles.idle treatment)
  · refine Step.Ensures.look rfl (ensures_bind_selected fun name _ => ?_)
    refine Step.Ensures.look rfl (ensures_bind_selected fun exposed _ => ?_)
    refine Step.ensures_bind.mpr (ensures_publish (fun fresh => ?_) fun _ => trivial)
    refine .bound [_] rfl (fun d member => ?_) (idles.idle (.of_push fresh))
    obtain rfl := List.mem_singleton.mp member
    exact .global kind rfl rfl

theorem visitGlobal_open (kind : (forest.cursor number).kind = .global) (sound : s.Sound)
    (unknown : GlobalOpen forest number s) :
    (visitGlobal number).Ensures forest s (GlobalVerdict forest number s) fun _ _ => True := by
  refine Step.Ensures.look rfl (ensures_withFrame_of_popped (Step.Ensures.look rfl ?_))
  rw [entered_store, ← publishedAs, if_neg (by simp [unknown.unbound]),
    if_neg (by simp [unknown.linked])]
  refine Step.Ensures.look rfl ?_
  rw [entered_policy, unknown.taken]
  refine Step.Ensures.look rfl (Step.Ensures.look rfl ?_)
  rw [entered_dropped, if_neg (by simpa using unknown.undropped)]
  refine (addGlobal_verdict kind (sound.entered _)).imp ?_ fun _ _ failed => failed
  exact fun _ _ verdict _ _ _ => verdict.popped

theorem visitGlobal_ends (kind : (forest.cursor number).kind = .global) (sound : s.Sound) :
    (visitGlobal number).Ensures forest s
      (fun value after => GlobalKnown forest number s value ∧ Untouched s after ∨
        GlobalOpen forest number s ∧ GlobalVerdict forest number s value after)
      fun _ _ => True := by
  have recalls {value : List String} (known : GlobalKnown forest number s value) :
      (visitGlobal number).Ensures forest s
        (fun value after => GlobalKnown forest number s value ∧ Untouched s after ∨
          GlobalOpen forest number s ∧ GlobalVerdict forest number s value after)
        fun _ _ => True := by
    refine Step.Ensures.imp (visitGlobal_known known) ?_ fun _ _ failed => failed.elim
    intro found after given
    obtain ⟨rfl, untouched⟩ := given
    exact .inl ⟨known, untouched⟩
  cases unbound : publishedAs s.store (forest.cursor number).usr (·.kind == .global) with
  | true => exact recalls (.published unbound)
  | false =>
      by_cases linked : (forest.cursor number).storage = .static
      · exact recalls (.hidden unbound linked)
      cases answer : s.policy.globals.includes (forest.cursor number).usr
          (forest.cursor number).spelling with
      | error error =>
          refine Step.Ensures.look rfl (ensures_withFrame_of_popped (Step.Ensures.look rfl ?_))
          rw [entered_store, ← publishedAs, if_neg (by simp [unbound]), if_neg (by simp [linked])]
          refine Step.Ensures.look rfl ?_
          rw [entered_policy, answer]
          trivial
      | ok taken =>
          cases taken with
          | false => exact recalls (.excluded unbound linked answer)
          | true =>
              by_cases dropped : (forest.cursor number).usr ∈ s.dropped
              · exact recalls (.dropped unbound linked answer dropped)
              · refine (visitGlobal_open kind sound ⟨answer, linked, unbound, dropped⟩).imp ?_
                  fun _ _ failed => failed
                exact fun _ _ verdict => .inr ⟨⟨answer, linked, unbound, dropped⟩, verdict⟩

end Session

end LuaBinder
