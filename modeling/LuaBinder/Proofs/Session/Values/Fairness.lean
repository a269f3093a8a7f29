import LuaBinder.Proofs.Session.Fares.Running
import LuaBinder.Proofs.Session.Forecast
import LuaBinder.Proofs.Session.Values.Visiting

namespace LuaBinder

open Header Session

/-! What visits leave of functions and globals: each is bound under all its USRs, or dropped
with one diagnostic, or none of both. -/

theorem Body.values_ne_nil_of_kind {body : Body}
    (value : body.kind = .function ∨ body.kind = .global) : body.values ≠ [] := by
  cases body with
  | function | global => simp [values]
  | record kind => cases kind <;> simp [kind, RecordKind.declarationKind] at value
  | enumeration | interface | typedef | constant => simp [kind] at value

/-- The policy binds the function or the global if it can be bound. -/
def Policy.takesValue (policy : Policy) (c : Cursor) : Bool :=
  match c.kind with
  | .function => chosen (policy.functions.includes c.usr c.spelling)
  | .global => c.storage != .static && chosen (policy.globals.includes c.usr c.spelling)
  | _ => false

theorem Policy.kind_of_takesValue {policy : Policy} {c : Cursor}
    (taken : policy.takesValue c = true) :
    c.kind = .function ∨ c.kind = .global := by
  unfold Policy.takesValue at taken
  split at taken
  · rename_i kind
    exact .inl kind
  · rename_i kind
    exact .inr kind
  · cases taken

namespace Header.Forest

variable {forest : Forest} {policy : Policy} {number other : Nat}

/-- Cursors of one USR agree on what function or what global it is. -/
def ValuesAgree (forest : Forest) : Prop :=
  ∀ number < forest.size, ∀ other < forest.size,
    (forest.cursor number).kind = .function ∨ (forest.cursor number).kind = .global →
    (forest.cursor other).usr = (forest.cursor number).usr →
    (forest.cursor other).kind = (forest.cursor number).kind ∧
      (forest.cursor other).spelling = (forest.cursor number).spelling ∧
      (forest.cursor other).type.isVariadic = (forest.cursor number).type.isVariadic

instance : Decidable forest.ValuesAgree :=
  inferInstanceAs (Decidable (∀ number < forest.size, ∀ other < forest.size, _ → _ → _))

theorem lt_size_of_kind (present : (forest.cursor number).kind ≠ ({} : Cursor).kind) :
    number < forest.size := by
  by_contra absent
  exact present (by simp [cursor, Array.getElem?_eq_none (Nat.le_of_not_lt absent)])

theorem valueUsrs_function (kind : (forest.cursor number).kind = .function) :
    forest.valueUsrs policy number = policy.functionUsrs (forest.cursor number) := by
  simp only [valueUsrs, kind]
  rfl

theorem valueUsrs_global (kind : (forest.cursor number).kind = .global) :
    forest.valueUsrs policy number = [(forest.cursor number).usr] := by
  simp only [valueUsrs, kind]

theorem kind_of_mem_valueUsrs {usr : String} (own : usr ∈ forest.valueUsrs policy number) :
    (forest.cursor number).kind = .function ∨ (forest.cursor number).kind = .global := by
  simp only [valueUsrs] at own
  split at own
  · rename_i kind
    exact .inl kind
  · rename_i kind
    exact .inr kind
  · cases own

theorem ValuesAgree.same (agree : forest.ValuesAgree)
    (kind : (forest.cursor number).kind = .function ∨ (forest.cursor number).kind = .global)
    (also : (forest.cursor other).kind = .function ∨ (forest.cursor other).kind = .global)
    (usr : (forest.cursor other).usr = (forest.cursor number).usr) :
    (forest.cursor other).kind = (forest.cursor number).kind ∧
      (forest.cursor other).spelling = (forest.cursor number).spelling ∧
      (forest.cursor other).type.isVariadic = (forest.cursor number).type.isVariadic := by
  have present {number : Nat}
      (kind : (forest.cursor number).kind = .function ∨ (forest.cursor number).kind = .global) :
      number < forest.size :=
    lt_size_of_kind (by rcases kind with kind | kind <;> simp [kind])
  exact agree number (present kind) other (present also) kind usr

/-- What one cursor of a USR is bound under, any other one is. -/
theorem ValuesAgree.valueUsrs_eq (agree : forest.ValuesAgree) {key : String}
    (own : key ∈ forest.valueUsrs policy other)
    (kind : (forest.cursor number).kind = .function ∨ (forest.cursor number).kind = .global)
    (usr : (forest.cursor other).usr = (forest.cursor number).usr) :
    forest.valueUsrs policy other = forest.valueUsrs policy number := by
  obtain ⟨sameKind, spelling, variadic⟩ := agree.same kind (kind_of_mem_valueUsrs own) usr
  rcases kind with kind | kind
  · rw [valueUsrs_function (sameKind.trans kind), valueUsrs_function kind, Policy.functionUsrs,
      Policy.functionUsrs, signatureUsrs, signatureUsrs, usr, spelling, variadic]
  · rw [valueUsrs_global (sameKind.trans kind), valueUsrs_global kind, usr]

end Header.Forest

namespace Session

open Store

/-- How many diagnostics tell that the declaration is dropped. -/
def refusals (s : Session) (usr : String) : Nat :=
  s.diagnostics.countP fun d => d.usr == usr && d.reason.isRefusal

/-- How many diagnostics tell that the signatures of the function are of no use. -/
def misconfigurations (s : Session) (usr : String) : Nat :=
  s.diagnostics.countP fun d => d.usr == usr && d.reason == .variadicMismatch

variable {sources : Sources} {forest : Forest} {policy : Policy} {s after : Session}
  {number : Nat} {bound : List Declaration} {dropped : List String} {told : List Diagnostic}
  {key : String}

/-! What a visit tells of one declaration. -/

theorem Treatment.misconfigurations (treatment : Treatment forest bound dropped told s after)
    (usr : String) :
    after.misconfigurations usr = s.misconfigurations usr +
      told.countP fun d => d.usr == usr && d.reason == .variadicMismatch := by
  obtain ⟨more, appended, incidental⟩ := treatment.diagnostics
  have silent : more.countP (fun d => d.usr == usr && d.reason == .variadicMismatch) = 0 :=
    List.countP_eq_zero.mpr fun d member => by simp [(incidental d member).configured]
  simp only [Session.misconfigurations, appended, List.countP_append, silent, Nat.zero_add]

theorem Treatment.refusals (treatment : Treatment forest bound dropped told s after)
    (agree : forest.ValuesAgree)
    (kind : (forest.cursor number).kind = .function ∨ (forest.cursor number).kind = .global) :
    after.refusals (forest.cursor number).usr = s.refusals (forest.cursor number).usr +
      told.countP fun d => d.usr == (forest.cursor number).usr && d.reason.isRefusal := by
  obtain ⟨more, appended, incidental⟩ := treatment.diagnostics
  have silent : more.countP
      (fun d => d.usr == (forest.cursor number).usr && d.reason.isRefusal) = 0 := by
    refine List.countP_eq_zero.mpr fun d member own => ?_
    simp only [Bool.and_eq_true, beq_iff_eq] at own
    rcases (incidental d member).named with reason | ⟨other, otherKind, usr⟩
    · simp [reason, Reason.isRefusal] at own
    · have present : number < forest.size := by
        refine Forest.lt_size_of_kind ?_
        rcases kind with kind | kind <;> simp [kind]
      have other_present : other < forest.size := by
        refine Forest.lt_size_of_kind ?_
        rcases otherKind with method | typedef
        · intro missing
          simp [missing, CursorKind.isMethod] at method
        · simp [typedef]
      have same := (agree number present other other_present kind (usr.trans own.1)).1
      rw [same] at otherKind
      rcases kind with kind | kind <;> simp [kind, CursorKind.isMethod] at otherKind
  simp only [Session.refusals, appended, List.countP_append, silent, Nat.zero_add]

/-! What holds between two visits. -/

/-- Each function and each global is bound under all its USRs, dropped with one diagnostic,
or none of both. -/
structure Fair (forest : Forest) (policy : Policy) (s : Session) : Prop where
  configured : s.policy = policy
  whole : ∀ number, (∀ usr ∈ forest.valueUsrs policy number, usr ∉ s.store.keys) ∨
    (forest.cursor number).usr ∉ s.dropped ∧
      ∀ usr ∈ forest.valueUsrs policy number, usr ∈ s.store.keys
  refused : ∀ number, (forest.cursor number).kind = .function ∨
      (forest.cursor number).kind = .global →
    s.refusals (forest.cursor number).usr =
      if (forest.cursor number).usr ∈ s.dropped then 1 else 0
  binds : ∀ key d, s.store.lookup? key = some d → d.body.values ≠ [] →
    ∃ number, key ∈ forest.valueUsrs policy number ∧ Binds (forest.cursor number) d
  misconfigured : ∀ number, (forest.cursor number).kind = .function →
    s.misconfigurations (forest.cursor number).usr =
      if (policy.signatures.specialize (forest.cursor number).spelling
          (forest.cursor number).type.isVariadic).2 = true ∧
        (forest.cursor number).usr ∈ s.store.keys then 1 else 0

/-- The function or the global is dropped, or bound under all its USRs. -/
def Decides (forest : Forest) (policy : Policy) (number : Nat) (s : Session) : Prop :=
  (forest.cursor number).usr ∈ s.dropped ∨
    ∀ usr ∈ forest.valueUsrs policy number, usr ∈ s.store.keys

theorem Decides.treatment (decides : Decides forest policy number s)
    (treatment : Treatment forest bound dropped told s after) :
    Decides forest policy number after :=
  decides.imp (fun known => (treatment.dropped _).mpr (.inl known)) fun published usr own =>
    (prefix_keys treatment.entries).subset (published usr own)

end Session

namespace Sources

open Store Session

variable {sources : Sources} {policy : Policy} {s after : Session} {number other : Nat}
  {bound : List Declaration} {dropped : List String} {told : List Diagnostic} {key : String}

/-- What is presented as a value is published as one. -/
theorem values_ne_nil (oneKind : sources.OneKind) (configured : policy ∈ sources.policies)
    (described : sources.Describe s.store)
    (own : key ∈ sources.forest.valueUsrs policy number) {body : Body}
    (found : s.store.body? key = some body) :
    body.values ≠ [] := by
  obtain ⟨kind, presented, value⟩ := presents_of_valueUsrs configured own
  obtain rfl := oneKind _ _ _ (described.body? found).presented presented
  exact Body.values_ne_nil_of_kind value

/-- What a visit publishes under the USR of a value is what it binds. -/
theorem mem_bound (oneKind : sources.OneKind) (configured : policy ∈ sources.policies)
    (described : sources.Describe after.store)
    (treatment : Treatment sources.forest bound dropped told s after)
    (own : key ∈ sources.forest.valueUsrs policy number) (published : key ∈ after.store.keys)
    (absent : key ∉ s.store.keys) : key ∈ bound.map (·.usr) := by
  obtain ⟨body, found⟩ := exists_body? published
  obtain ⟨d, located, rfl⟩ := Option.map_eq_some_iff.mp found
  rcases treatment.fresh key d located absent with ⟨listed, rfl⟩ | valueless
  · exact List.mem_map.mpr ⟨d, listed, rfl⟩
  · exact absurd valueless (values_ne_nil oneKind configured described own found)

theorem mem_keys_iff_of_treatment (oneKind : sources.OneKind)
    (configured : policy ∈ sources.policies) (described : sources.Describe after.store)
    (treatment : Treatment sources.forest bound dropped told s after)
    (own : key ∈ sources.forest.valueUsrs policy number) :
    key ∈ after.store.keys ↔ key ∈ s.store.keys ∨ key ∈ bound.map (·.usr) := by
  constructor
  · intro published
    by_cases earlier : key ∈ s.store.keys
    · exact .inl earlier
    · exact .inr (mem_bound oneKind configured described treatment own published earlier)
  · rintro (earlier | listed)
    · exact (prefix_keys treatment.entries).subset earlier
    · obtain ⟨d, member, rfl⟩ := List.mem_map.mp listed
      exact treatment.listed d member

end Sources

namespace Session.Fair

open Store

variable {forest : Forest} {policy : Policy} {s after : Session} {number : Nat}
  {bound : List Declaration} {dropped : List String} {told : List Diagnostic} {key : String}

theorem start (forest : Forest) (policy : Policy) (names : List (String × String)) :
    Fair forest policy { policy, typedefNamed := names } where
  configured := rfl
  whole := by simp [keys]
  refused := by simp [refusals]
  binds := fun _ _ found => absurd (mem_keys_of_lookup? found) (by simp [keys])
  misconfigured := by simp [misconfigurations, keys]

/-- The keys of a session grow by what is bound, as far as values go. -/
def Binding (forest : Forest) (policy : Policy) (bound : List Declaration) (s after : Session) :
    Prop :=
  ∀ number, ∀ key ∈ forest.valueUsrs policy number,
    (key ∈ after.store.keys ↔ key ∈ s.store.keys ∨ key ∈ bound.map (·.usr))

theorem usr_mem_valueUsrs_of_ignored (kind : (forest.cursor number).kind = .function)
    (ignored : (policy.signatures.specialize (forest.cursor number).spelling
      (forest.cursor number).type.isVariadic).2 = true) :
    forest.valueUsrs policy number = [(forest.cursor number).usr] := by
  rw [Forest.valueUsrs_function kind, Policy.functionUsrs,
    SignatureTable.specialize_of_ignored ignored]
  simp [signatureUsrs, CallSignature.fixedOnly]

theorem treatment (fair : Fair forest policy s) (agree : forest.ValuesAgree)
    (treatment : Treatment forest bound dropped told s after)
    (binding : Binding forest policy bound s after)
    (whole : ∀ number, (∀ usr ∈ forest.valueUsrs policy number, usr ∉ after.store.keys) ∨
      (forest.cursor number).usr ∉ after.dropped ∧
        ∀ usr ∈ forest.valueUsrs policy number, usr ∈ after.store.keys)
    (refused : ∀ number, (forest.cursor number).kind = .function ∨
        (forest.cursor number).kind = .global →
      told.countP (fun d => d.usr == (forest.cursor number).usr && d.reason.isRefusal) =
        if (forest.cursor number).usr ∈ dropped ∧ (forest.cursor number).usr ∉ s.dropped
        then 1 else 0)
    (binds : ∀ d ∈ bound, ∃ number, d.usr ∈ forest.valueUsrs policy number ∧
      Binds (forest.cursor number) d)
    (misconfigured : ∀ number, (forest.cursor number).kind = .function →
      told.countP (fun d =>
          d.usr == (forest.cursor number).usr && d.reason == .variadicMismatch) =
        if (policy.signatures.specialize (forest.cursor number).spelling
            (forest.cursor number).type.isVariadic).2 = true ∧
          (forest.cursor number).usr ∈ bound.map (·.usr) ∧
          (forest.cursor number).usr ∉ s.store.keys then 1 else 0) :
    Fair forest policy after where
  configured := treatment.policy.trans fair.configured
  whole := whole
  refused := by
    intro number kind
    rw [treatment.refusals agree kind, fair.refused number kind, refused number kind]
    by_cases known : (forest.cursor number).usr ∈ s.dropped <;> simp [treatment.dropped, known]
  binds := by
    intro key d found value
    by_cases earlier : key ∈ s.store.keys
    · rw [lookup?_of_grown treatment.entries earlier] at found
      exact fair.binds key d found value
    · rcases treatment.fresh key d found earlier with ⟨listed, rfl⟩ | valueless
      · exact binds d listed
      · exact absurd valueless value
  misconfigured := by
    intro number kind
    rw [treatment.misconfigurations, fair.misconfigured number kind, misconfigured number kind]
    by_cases ignored : (policy.signatures.specialize (forest.cursor number).spelling
      (forest.cursor number).type.isVariadic).2 = true
    · have own := usr_mem_valueUsrs_of_ignored kind ignored
      have grown := binding number (forest.cursor number).usr (by simp [own])
      by_cases earlier : (forest.cursor number).usr ∈ s.store.keys <;>
        simp [ignored, grown, earlier]
    · simp [ignored]

/-- What the visit does has nothing to do with values. -/
theorem idle (fair : Fair forest policy s) (agree : forest.ValuesAgree)
    (idles : Idles forest s after) (binding : Binding forest policy [] s after) :
    Fair forest policy after := by
  refine fair.treatment agree idles binding (fun number => ?_) (by simp) (by simp) (by simp)
  rcases fair.whole number with unbound | ⟨undropped, published⟩
  · refine .inl fun usr own published => unbound usr own ?_
    simpa using (binding number usr own).mp published
  · refine .inr ⟨by simpa [idles.dropped] using undropped, fun usr own => ?_⟩
    exact (binding number usr own).mpr (.inl (published usr own))

/-- A function or a global that is not bound is dropped, with one diagnostic. -/
theorem refuse (fair : Fair forest policy s) (agree : forest.ValuesAgree)
    (kind : (forest.cursor number).kind = .function ∨ (forest.cursor number).kind = .global)
    (unbound : ∀ usr ∈ forest.valueUsrs policy number, usr ∉ s.store.keys)
    (undropped : (forest.cursor number).usr ∉ s.dropped) {refusal : Diagnostic}
    (usr : refusal.usr = (forest.cursor number).usr) (reason : refusal.reason.isRefusal = true)
    (treatment : Treatment forest [] [(forest.cursor number).usr] [refusal] s after)
    (binding : Binding forest policy [] s after) : Fair forest policy after := by
  refine fair.treatment agree treatment binding (fun other => ?_) (fun other _ => ?_)
    (by simp) (fun other _ => ?_)
  · have none_new (unbound : ∀ usr ∈ forest.valueUsrs policy other, usr ∉ s.store.keys) :
        ∀ usr ∈ forest.valueUsrs policy other, usr ∉ after.store.keys := by
      intro usr own published
      exact unbound usr own (by simpa using (binding other usr own).mp published)
    rcases fair.whole other with unbound' | ⟨undropped', published⟩
    · exact .inl (none_new unbound')
    by_cases same : (forest.cursor other).usr = (forest.cursor number).usr
    · refine .inl (none_new fun usr own => ?_)
      exact unbound usr (agree.valueUsrs_eq own kind same ▸ own)
    · refine .inr ⟨by simpa [treatment.dropped, same] using undropped', fun usr own => ?_⟩
      exact (binding other usr own).mpr (.inl (published usr own))
  · by_cases same : (forest.cursor other).usr = (forest.cursor number).usr
    · simp [usr, reason, same, undropped]
    · simp [usr, same, Ne.symm same]
  · have otherwise : refusal.reason ≠ .variadicMismatch := by
      intro same
      simp [same, Reason.isRefusal] at reason
    simp [otherwise]

/-- A function or a global that is not bound is bound under all its USRs. -/
theorem bind (fair : Fair forest policy s) (agree : forest.ValuesAgree)
    (apart : forest.ValuesApart policy)
    (kind : (forest.cursor number).kind = .function ∨ (forest.cursor number).kind = .global)
    (unbound : ∀ usr ∈ forest.valueUsrs policy number, usr ∉ s.store.keys)
    (undropped : (forest.cursor number).usr ∉ s.dropped)
    (usrs : bound.map (·.usr) = forest.valueUsrs policy number)
    (binds : ∀ d ∈ bound, Binds (forest.cursor number) d)
    (quiet : ∀ d ∈ told, d.reason.isRefusal = false)
    (misconfigured : ∀ other, (forest.cursor other).kind = .function →
      told.countP (fun d =>
          d.usr == (forest.cursor other).usr && d.reason == .variadicMismatch) =
        if (policy.signatures.specialize (forest.cursor other).spelling
            (forest.cursor other).type.isVariadic).2 = true ∧
          (forest.cursor other).usr ∈ forest.valueUsrs policy number then 1 else 0)
    (treatment : Treatment forest bound [] told s after)
    (binding : Binding forest policy bound s after) : Fair forest policy after := by
  refine fair.treatment agree treatment binding (fun other => ?_) (fun other _ => ?_)
    (fun d listed => ?_) (fun other otherKind => ?_)
  · by_cases shares : ∃ usr ∈ forest.valueUsrs policy other, usr ∈ forest.valueUsrs policy number
    · obtain ⟨usr, own, shared⟩ := shares
      have same := apart other number usr own shared
      refine .inr ⟨by simpa [treatment.dropped, same] using undropped, fun usr own => ?_⟩
      rw [binding other usr own, usrs, ← agree.valueUsrs_eq own kind same]
      exact .inr own
    · have foreign : ∀ usr ∈ forest.valueUsrs policy other,
          (usr ∈ after.store.keys ↔ usr ∈ s.store.keys) := by
        intro usr own
        rw [binding other usr own, usrs]
        exact or_iff_left fun shared => shares ⟨usr, own, shared⟩
      rcases fair.whole other with unbound | ⟨undropped, published⟩
      · exact .inl fun usr own => (foreign usr own).not.mpr (unbound usr own)
      · refine .inr ⟨by simpa [treatment.dropped] using undropped, fun usr own => ?_⟩
        exact (foreign usr own).mpr (published usr own)
  · simp only [List.not_mem_nil, false_and, ↓reduceIte]
    exact List.countP_eq_zero.mpr fun d member => by simp [quiet d member]
  · refine ⟨number, usrs ▸ List.mem_map_of_mem listed, binds d listed⟩
  · rw [misconfigured other otherKind, usrs]
    by_cases own : (forest.cursor other).usr ∈ forest.valueUsrs policy number
    · simp [own, unbound _ own]
    · simp [own]

end Session.Fair

namespace Session

open Store

variable {forest : Forest} {policy : Policy} {s after : Session} {number other : Nat}

theorem Untouched.idles (untouched : Untouched s after) (closed : s.store.Closed) :
    Idles forest s after := by
  rw [untouched]
  exact .of_store (.of_eq rfl rfl rfl rfl) closed rfl

/-- Only signatures of this very function are told to be of no use. -/
theorem countP_mismatches (agree : forest.ValuesAgree) (apart : forest.ValuesApart policy)
    (kind : (forest.cursor number).kind = .function)
    (otherKind : (forest.cursor other).kind = .function) :
    (mismatches (forest.cursor number) (policy.signatures.specialize
        (forest.cursor number).spelling (forest.cursor number).type.isVariadic).2).countP
      (fun d => d.usr == (forest.cursor other).usr && d.reason == .variadicMismatch) =
      if (policy.signatures.specialize (forest.cursor other).spelling
          (forest.cursor other).type.isVariadic).2 = true ∧
        (forest.cursor other).usr ∈ forest.valueUsrs policy number then 1 else 0 := by
  have alike (usr : (forest.cursor other).usr = (forest.cursor number).usr) :
      (policy.signatures.specialize (forest.cursor other).spelling
          (forest.cursor other).type.isVariadic).2 =
        (policy.signatures.specialize (forest.cursor number).spelling
          (forest.cursor number).type.isVariadic).2 := by
    obtain ⟨-, spelling, variadic⟩ := agree.same (.inl kind) (.inl otherKind) usr
    rw [spelling, variadic]
  by_cases ignored : (policy.signatures.specialize (forest.cursor number).spelling
      (forest.cursor number).type.isVariadic).2 = true
  · rw [Fair.usr_mem_valueUsrs_of_ignored kind ignored, ignored]
    by_cases usr : (forest.cursor other).usr = (forest.cursor number).usr
    · simp [mismatches, mismatch, alike usr, ignored, usr]
    · simp [mismatches, mismatch, usr, Ne.symm usr]
  · rw [if_neg]
    · simp [mismatches, ignored]
    · rintro ⟨ignored', own⟩
      have also := Fair.usr_mem_valueUsrs_of_ignored otherKind ignored'
      exact ignored (alike (apart other number _ (by simp [also]) own) ▸ ignored')

/-- A visit idles if what it leads to is known, or it comes to a verdict on a value of which
nothing is known. -/
inductive Visited (forest : Forest) (policy : Policy) (number : Nat) (s after : Session) : Prop
  | idle (idles : Idles forest s after)
      (decided : policy.takesValue (forest.cursor number) = true →
        Decides forest policy number after)
  | verdict {told : List Diagnostic} {value : List String}
      (kind : (forest.cursor number).kind = .function ∨ (forest.cursor number).kind = .global)
      (unbound : ∀ usr ∈ forest.valueUsrs policy number, usr ∉ s.store.keys)
      (undropped : (forest.cursor number).usr ∉ s.dropped)
      (quiet : ∀ d ∈ told, d.reason.isRefusal = false)
      (misconfigured : ∀ other, (forest.cursor other).kind = .function →
        told.countP (fun d =>
            d.usr == (forest.cursor other).usr && d.reason == .variadicMismatch) =
          if (policy.signatures.specialize (forest.cursor other).spelling
              (forest.cursor other).type.isVariadic).2 = true ∧
            (forest.cursor other).usr ∈ forest.valueUsrs policy number then 1 else 0)
      (verdict : Verdict forest (forest.cursor number) (forest.valueUsrs policy number) told s
        value after)

end Session

namespace Sources

open Store Session

variable {sources : Sources} {policy : Policy} {s : Session} {number : Nat}

/-- What is published is published as what it is. -/
theorem publishedAs_of_mem_keys {usr : String} {kind : DeclarationKind}
    {ok : Declaration → Bool} (oneKind : sources.OneKind) (settled : sources.Settled s)
    (presented : sources.Presents usr kind) (accepts : ∀ d : Declaration, d.kind = kind →
      ok d = true) (published : usr ∈ s.store.keys) : publishedAs s.store usr ok = true := by
  by_contra absent
  exact fresh_of_unpublished settled.described presented absent accepts oneKind published

theorem isFunctionAt_of_mem_keys (oneKind : sources.OneKind) (settled : sources.Settled s)
    (kind : (sources.forest.cursor number).kind = .function) {usr : String}
    (own : usr ∈ sources.forest.valueUsrs s.policy number) (published : usr ∈ s.store.keys) :
    isFunctionAt s.store usr = true := by
  rw [isFunctionAt_eq]
  exact publishedAs_of_mem_keys oneKind settled (presents_function settled.configured kind own)
    (fun _ same => beq_iff_eq.mpr same) published

theorem visitFunction_visited (oneKind : sources.OneKind) (settled : sources.Settled s)
    (fair : Fair sources.forest policy s) (agree : sources.forest.ValuesAgree)
    (apart : sources.forest.ValuesApart policy)
    (kind : (sources.forest.cursor number).kind = .function) :
    (visitFunction number).Ensures sources.forest s
      (fun _ after => Visited sources.forest policy number s after) fun _ _ => True := by
  have usrs : sources.forest.valueUsrs policy number = _ := Forest.valueUsrs_function kind
  obtain rfl := fair.configured
  refine (visitFunction_ends kind settled.toSound).imp ?_ fun _ _ failed => failed
  rintro value after (⟨known, untouched⟩ | ⟨unknown, verdict⟩)
  · refine .idle (untouched.idles settled.closed) fun taken => ?_
    have same : after = { s with frames := after.frames, log := after.log } := untouched
    rw [same]
    cases known with
    | excluded out => simp [Policy.takesValue, kind, chosen, out] at taken
    | published _ bound =>
        refine .inr fun usr own => ?_
        exact mem_keys_of_isFunctionAt (List.all_eq_true.mp bound usr (usrs ▸ own))
    | dropped _ _ dropped => exact .inl dropped
  · rw [FunctionVerdict, ← usrs] at verdict
    refine .verdict (.inl kind) ?_ unknown.undropped ?_
      (fun other otherKind => countP_mismatches agree apart kind otherKind) verdict
    · refine (fair.whole number).resolve_right fun bound => ?_
      have all := List.all_eq_false.mp unknown.unbound
      obtain ⟨usr, own, absent⟩ := all
      rw [← usrs] at own
      exact absent (isFunctionAt_of_mem_keys oneKind settled kind own (bound.2 usr own))
    · intro d told
      unfold mismatches at told
      split at told
      · obtain rfl := List.mem_singleton.mp told
        rfl
      · cases told

theorem visitGlobal_visited (oneKind : sources.OneKind) (settled : sources.Settled s)
    (fair : Fair sources.forest policy s) (agree : sources.forest.ValuesAgree)
    (kind : (sources.forest.cursor number).kind = .global) :
    (visitGlobal number).Ensures sources.forest s
      (fun _ after => Visited sources.forest policy number s after) fun _ _ => True := by
  have usrs : sources.forest.valueUsrs policy number = _ := Forest.valueUsrs_global kind
  obtain rfl := fair.configured
  refine (visitGlobal_ends kind settled.toSound).imp ?_ fun _ _ failed => failed
  rintro value after (⟨known, untouched⟩ | ⟨unknown, verdict⟩)
  · refine .idle (untouched.idles settled.closed) fun taken => ?_
    have same : after = { s with frames := after.frames, log := after.log } := untouched
    rw [same]
    cases known with
    | published bound =>
        refine .inr fun usr own => ?_
        rw [usrs, List.mem_singleton] at own
        exact own ▸ mem_keys_of_publishedAs bound
    | hidden _ hidden => simp [Policy.takesValue, kind, hidden] at taken
    | excluded _ _ out => simp [Policy.takesValue, kind, chosen, out] at taken
    | dropped _ _ _ dropped => exact .inl dropped
  · rw [GlobalVerdict, ← usrs] at verdict
    refine .verdict (.inr kind) ?_ unknown.undropped (by simp) (fun other otherKind => ?_)
      verdict
    · intro usr own
      rw [usrs, List.mem_singleton] at own
      have presented : sources.Presents _ _ := .cursor (show _ = some .global by rw [kind]; rfl)
      have absent : ¬ publishedAs s.store (sources.forest.cursor number).usr
          (·.kind == .global) = true := by simp [unknown.unbound]
      have accepts (d : Declaration) (same : d.kind = .global) : (d.kind == .global) = true := by
        simp [same]
      exact own ▸ fresh_of_unpublished settled.described presented absent accepts oneKind
    · rw [if_neg]
      · rfl
      · rintro ⟨-, own⟩
        rw [usrs, List.mem_singleton] at own
        have same := (agree.same (.inr kind) (.inl otherKind) own).1
        simp [kind, otherKind] at same

theorem visit_visited (oneKind : sources.OneKind) (settled : sources.Settled s)
    (fair : Fair sources.forest policy s) (agree : sources.forest.ValuesAgree)
    (apart : sources.forest.ValuesApart policy) :
    (visit number).Ensures sources.forest s
      (fun _ after => Visited sources.forest policy number s after) fun _ _ => True := by
  have idle {step : Step (List String)} (idle : step.Idle sources.forest s)
      (other : policy.takesValue (sources.forest.cursor number) = false) :
      step.Ensures sources.forest s
        (fun _ after => Visited sources.forest policy number s after) fun _ _ => True :=
    Step.Ensures.imp idle (fun _ _ given => .idle given.2 fun taken => by simp [other] at taken)
      fun _ _ failed => failed
  have sound := settled.toSound
  refine Step.Ensures.look rfl ?_
  split
  case h_1 kind => exact visitFunction_visited oneKind settled fair agree apart kind
  case h_2 kind =>
      exact idle (idle_visitRecord sound (by rw [kind]; rfl)) (by simp [Policy.takesValue, kind])
  case h_3 kind =>
      exact idle (idle_visitRecord sound (by rw [kind]; rfl)) (by simp [Policy.takesValue, kind])
  case h_4 kind => exact idle (idle_visitEnumeration sound kind) (by simp [Policy.takesValue, kind])
  case h_5 kind => exact idle (idle_visitTypedef sound kind) (by simp [Policy.takesValue, kind])
  case h_6 kind => exact visitGlobal_visited oneKind settled fair agree kind
  case h_7 kind => exact idle (idle_visitMacro sound) (by simp [Policy.takesValue, kind])
  case h_8 kind => exact idle (idle_visitInterface sound) (by simp [Policy.takesValue, kind])
  case h_9 =>
    refine idle (.bind (idle_debug _ _ sound) fun _ _ sound _ => .pure sound) ?_
    unfold Policy.takesValue
    split <;> first | contradiction | rfl

/-- What a visit does to values is fair, and it decides what it leads to for good. -/
structure Progresses (sources : Sources) (policy : Policy) (decided : List Nat)
    (s after : Session) : Prop where
  settled : sources.Settled after
  fair : Fair sources.forest policy after
  keeps : ∀ number, Decides sources.forest policy number s →
    Decides sources.forest policy number after
  decides : ∀ number ∈ decided, policy.takesValue (sources.forest.cursor number) = true →
    Decides sources.forest policy number after

theorem progresses_of_visited {after : Session} (oneKind : sources.OneKind)
    (configured : policy ∈ sources.policies)
    (fair : Fair sources.forest policy s) (agree : sources.forest.ValuesAgree)
    (apart : sources.forest.ValuesApart policy)
    (visited : Visited sources.forest policy number s after) (settled : sources.Settled after) :
    sources.Progresses policy [number] s after := by
  have binding {bound : List Declaration} {dropped : List String} {told : List Diagnostic}
      (treatment : Treatment sources.forest bound dropped told s after) :
      Fair.Binding sources.forest policy bound s after :=
    fun _ _ own => mem_keys_iff_of_treatment oneKind configured settled.described treatment own
  cases visited with
  | idle idles decided =>
      exact ⟨settled, fair.idle agree idles (binding idles),
        fun _ decides => decides.treatment idles, by simpa using decided⟩
  | verdict kind unbound undropped quiet misconfigured verdict =>
      cases verdict with
      | refused refusal own reason treatment =>
          refine ⟨settled, fair.refuse agree kind unbound undropped own reason treatment
            (binding treatment), fun _ decides => decides.treatment treatment, ?_⟩
          intro other own _
          obtain rfl := List.mem_singleton.mp own
          exact .inl ((treatment.dropped _).mpr (by simp))
      | bound ds named binds treatment =>
          refine ⟨settled, fair.bind agree apart kind unbound undropped named binds quiet
            misconfigured treatment (binding treatment),
            fun _ decides => decides.treatment treatment, ?_⟩
          intro other own _
          obtain rfl := List.mem_singleton.mp own
          refine .inr fun usr own => (binding treatment _ usr own).mpr (.inr (named ▸ own))

theorem visitAll_progresses (oneKind : sources.OneKind) (configured : policy ∈ sources.policies)
    (agree : sources.forest.ValuesAgree) (apart : sources.forest.ValuesApart policy)
    (top : List Nat) (s : Session) (settled : sources.Settled s)
    (fair : Fair sources.forest policy s) :
    (visitAll top).Ensures sources.forest s
      (fun _ after => sources.Progresses policy top s after) fun _ _ => True := by
  induction top generalizing s with
  | nil => exact ⟨settled, fair, fun _ => id, by simp⟩
  | cons number rest induction =>
      have visits : (visit number).Ensures sources.forest s
          (fun _ middle => sources.Progresses policy [number] s middle) fun _ _ => True := by
        have visited : (visit number).Ensures sources.forest s _ _ :=
          visit_visited oneKind settled fair agree apart
        refine (visited.and (visit_lands settled number)).imp ?_ fun _ _ _ => trivial
        exact fun _ _ given =>
          progresses_of_visited oneKind configured fair agree apart given.1 given.2.1
      refine Step.Ensures.bind visits fun _ middle progress => ?_
      refine (induction middle progress.settled progress.fair).imp ?_ fun _ _ failed => failed
      intro _ after further
      refine ⟨further.settled, further.fair, fun other decides => ?_, fun other own taken => ?_⟩
      · exact further.keeps other (progress.keeps other decides)
      · rcases List.mem_cons.mp own with rfl | own
        · exact further.keeps _ (progress.decides _ (List.mem_singleton_self _) taken)
        · exact further.decides other own taken

end Sources

end LuaBinder
