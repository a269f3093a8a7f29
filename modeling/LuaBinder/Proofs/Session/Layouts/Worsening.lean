import LuaBinder.Proofs.Session.Emission
import LuaBinder.Proofs.Session.Forecast

namespace LuaBinder

open Header Session

/-! What a report lays out when a later store is asked. Typedefs keep their underlying types
and compounds do not get their layouts back, so a later store lays out no more. -/

theorem exists_of_forall₂ {r : α → β → Prop} {as : List α} {bs : List β}
    (each : List.Forall₂ r as bs) {a : α} (listed : a ∈ as) : ∃ b ∈ bs, r a b := by
  induction each with
  | nil => exact absurd listed List.not_mem_nil
  | cons head _ induction =>
      rcases List.mem_cons.mp listed with rfl | listed
      · exact ⟨_, List.mem_cons_self, head⟩
      · obtain ⟨b, also, related⟩ := induction listed
        exact ⟨b, List.mem_cons_of_mem _ also, related⟩

namespace CType

mutual

/-- The same but for the results of function types without parameters. -/
inductive Alike : CType → CType → Prop
  | refl (type : CType) : Alike type type
  | bare {result other : CType} {variadic : Bool} :
      Alike (.function result .nil variadic) (.function other .nil variadic)
  | function {result other : CType} {params others : Params} {variadic : Bool}
      (alike : Alike result other) (each : AlikeParams params others) :
      Alike (.function result params variadic) (.function other others variadic)
  | pointer {target other : CType} {const : Bool} (alike : Alike target other) :
      Alike (.pointer target const) (.pointer other const)
  | array {element other : CType} {length : Option Int} (alike : Alike element other) :
      Alike (.array element length) (.array other length)

inductive AlikeParams : Params → Params → Prop
  | nil : AlikeParams .nil .nil
  | cons {name : String} {type other : CType} {rest others : Params} (alike : Alike type other)
      (more : AlikeParams rest others) :
      AlikeParams (.cons name type rest) (.cons name other others)

end

theorem alikeParams_ofList {params others : List (String × CType)}
    (each : List.Forall₂ (fun p q => p.1 = q.1 ∧ p.2.Alike q.2) params others) :
    AlikeParams (.ofList params) (.ofList others) := by
  induction each with
  | nil => exact .nil
  | @cons p q _ _ head _ induction =>
      obtain ⟨name, type⟩ := p
      obtain ⟨other, also⟩ := q
      obtain ⟨rfl, alike⟩ := head
      exact .cons alike induction

namespace Alike

theorem core : {type other : CType} → Alike type other → Alike type.core other.core
  | _, _, .refl _ => .refl _
  | _, _, .bare => .bare
  | _, _, .function alike each => .function alike each
  | _, _, .pointer alike => alike.core
  | _, _, .array alike => alike.core

theorem element : {type other : CType} → Alike type other → Alike type.element other.element
  | _, _, .refl _ => .refl _
  | _, _, .bare => .bare
  | _, _, .function alike each => .function alike each
  | _, _, .pointer alike => .pointer alike
  | _, _, .array alike => alike.element

theorem isFlexibleArray {type other : CType} (alike : Alike type other) :
    isFlexibleArray other = isFlexibleArray type := by
  cases alike with
  | array => rename_i length _; cases length <;> rfl
  | _ => rfl

end Alike

end CType

namespace Store

variable {store later middle : Store} {type other last : CType} {key : String} {steps : Nat}
  {peel : CType → CType}

/-- A walk that does not end at a function type does not tell alike types apart. -/
theorem Unfolds.alike (walk : store.Unfolds peel steps type last)
    (alike : (peel type).Alike (peel other)) (ended : ∀ type, last.Alike type → type = last) :
    store.Unfolds peel steps other last := by
  cases walk with
  | stop final =>
      have same := ended _ alike
      exact same ▸ .stop fun key named => final key (same ▸ named)
  | step named found rest =>
      rw [named] at alike
      refine .step ?_ found rest
      generalize peel other = peeled at alike
      cases alike
      rfl

theorem isUnsupported_of_alike (alike : type.Alike other)
    (unsupported : store.isUnsupported type = true) : store.isUnsupported other = true := by
  rw [isUnsupported_iff] at unsupported ⊢
  obtain ⟨steps, reason, walk⟩ := unsupported
  exact ⟨steps, reason, walk.alike alike.core fun _ alike => by cases alike; rfl⟩

theorem held?_of_alike (alike : type.Alike other) (held : store.held? type = some key) :
    store.held? other = some key := by
  rw [held?_eq_some_iff] at held ⊢
  obtain ⟨steps, walk⟩ := held
  exact ⟨steps, walk.alike alike.element fun _ alike => by cases alike; rfl⟩

theorem isIncomplete_of_alike (alike : type.Alike other)
    (incomplete : store.isIncomplete type = true) : store.isIncomplete other = true := by
  rw [isIncomplete_iff_compound] at incomplete ⊢
  obtain ⟨steps, key, walk, incomplete⟩ := incomplete
  exact ⟨steps, key, walk.alike alike fun _ alike => by cases alike; rfl, incomplete⟩

theorem lost_of_alike (alike : type.Alike other) (lost : store.Lost type) :
    store.Lost other := by
  rcases lost with unsupported | ⟨key, held, incomplete⟩
  · exact .inl (isUnsupported_of_alike alike unsupported)
  · exact .inr ⟨key, held?_of_alike alike held, incomplete⟩

/-- Typedefs keep their underlying types, and what has no layout does not get one. -/
structure Worsens (store later : Store) : Prop where
  kept : ∀ key type, store.underlying? key = some type → later.underlying? key = some type
  incomplete : ∀ key, store.isIncomplete (.compound key) = true →
    later.isIncomplete (.compound key) = true

namespace Worsens

theorem trans (first : store.Worsens middle) (second : middle.Worsens later) :
    store.Worsens later :=
  ⟨fun key type found => second.kept key type (first.kept key type found),
    fun key lost => second.incomplete key (first.incomplete key lost)⟩

theorem of_body? (same : ∀ key, later.body? key = store.body? key) : store.Worsens later where
  kept := fun key type found => by rwa [underlying?_eq, same, ← underlying?_eq]
  incomplete := fun key lost => by rwa [isIncomplete_compound, same, ← isIncomplete_compound]

theorem mem_keys_of_isIncomplete (lost : store.isIncomplete (.compound key) = true) :
    key ∈ store.keys := by
  by_contra absent
  simp [isIncomplete_compound, body?_eq_none_iff.mpr absent] at lost

theorem of_grows (grows : store.Grows later) : store.Worsens later where
  kept := fun _ _ => grows.kept
  incomplete := fun key lost => by
    rw [isIncomplete_compound, grows.body? (mem_keys_of_isIncomplete lost),
      ← isIncomplete_compound, lost]

theorem of_mapBodies {change : String → Body → Body}
    (kept : ∀ key body, store.body? key = some body → ∀ type, body.underlying? = some type →
      (change key body).underlying? = some type)
    (incomplete : ∀ key body, store.body? key = some body → body.isIncomplete = true →
      (change key body).isIncomplete = true) :
    store.Worsens (store.mapBodies change) where
  kept := by
    intro key type found
    rw [underlying?_eq] at found ⊢
    obtain ⟨body, published, underlying⟩ := Option.bind_eq_some_iff.mp found
    rw [body?_mapBodies, published]
    exact kept key body published type underlying
  incomplete := by
    intro key lost
    rw [isIncomplete_compound] at lost ⊢
    rw [body?_mapBodies]
    cases published : store.body? key with
    | none => simp [published] at lost
    | some body => exact incomplete key body published (by simpa [published] using lost)

theorem amendBody {change : Body → Body}
    (kept : ∀ body, store.body? key = some body → ∀ type, body.underlying? = some type →
      (change body).underlying? = some type)
    (incomplete : ∀ body, store.body? key = some body → body.isIncomplete = true →
      (change body).isIncomplete = true) :
    store.Worsens (store.amendBody key change) := by
  refine of_mapBodies (fun other body published type found => ?_)
    fun other body published lost => ?_
  · split
    · rename_i same
      exact kept body (same ▸ published) type found
    · exact found
  · split
    · rename_i same
      exact incomplete body (same ▸ published) lost
    · exact lost

theorem elaborate {change : Body → Body}
    (elaborates : ∀ body : Body, body.Elaborates (change body)) :
    store.Worsens (store.amendBody key change) := by
  refine amendBody (fun body _ type found => ?_) fun body _ lost => ?_
  · rw [(elaborates body).underlying?_eq, found]
  · rw [(elaborates body).isIncomplete_eq, lost]

theorem setMembers {members : List Member} :
    store.Worsens (store.amendBody key (Session.setMembers members)) := by
  refine amendBody (fun body _ type found => ?_) fun body _ lost => ?_
  · cases body <;> exact found
  · cases body <;> exact lost

/-- A typedef that is being resolved stands for nothing yet. -/
theorem resolve (pending : store.body? key = some (.typedef none)) :
    store.Worsens (store.amendBody key fun _ => .typedef (some type)) := by
  refine amendBody (fun body found other given => ?_) fun body found lost => ?_
  · obtain rfl := Option.some.inj (pending.symm.trans found)
    simp [Body.underlying?] at given
  · obtain rfl := Option.some.inj (pending.symm.trans found)
    simp [Body.isIncomplete] at lost

theorem clear {cleared : List String} : store.Worsens (store.clear cleared) := by
  refine of_mapBodies (fun other body _ type found => ?_) fun other body _ lost => ?_
  all_goals
    split
    · cases body <;> simp_all [clearRecord, Body.underlying?, Body.isIncomplete]
    · assumption

theorem isUnsupported (worsens : store.Worsens later)
    (unsupported : store.isUnsupported type = true) : later.isUnsupported type = true :=
  isUnsupported_mono worsens.kept unsupported

/-- Walks to a compound go on as before. -/
theorem unfolds (worsens : store.Worsens later)
    (walk : store.Unfolds peel steps type (.compound key)) :
    later.Unfolds peel steps type (.compound key) := walk.imp worsens.kept (by simp)

theorem held? (worsens : store.Worsens later) (held : store.held? type = some key) :
    later.held? type = some key := by
  rw [held?_eq_some_iff] at held ⊢
  exact held.imp fun _ walk => worsens.unfolds walk

theorem isIncomplete (worsens : store.Worsens later)
    (incomplete : store.isIncomplete type = true) : later.isIncomplete type = true := by
  rw [isIncomplete_iff_compound] at incomplete ⊢
  obtain ⟨steps, key, walk, incomplete⟩ := incomplete
  exact ⟨steps, key, worsens.unfolds walk, worsens.incomplete key incomplete⟩

theorem lost (worsens : store.Worsens later) (lost : store.Lost type) : later.Lost type := by
  rcases lost with unsupported | ⟨key, held, incomplete⟩
  · exact .inl (worsens.isUnsupported unsupported)
  · exact .inr ⟨key, worsens.held? held, worsens.incomplete key incomplete⟩

end Worsens

end Store

/-! Reports. -/

namespace Store.Worsens

variable {view later : Store}

/-- What a usable signature is made of has its binding. -/
theorem alike_of_usable {params others : List (String × CType)} {result outcome : CType}
    (each : List.Forall₂
      (fun p q => p.1 = q.1 ∧ (p.2.Alike q.2 ∨ later.isUnsupported q.2 = true)) params others)
    (last : result.Alike outcome ∨ later.isUnsupported outcome = true)
    (usable : Session.isUsableSignature later others outcome = true) :
    List.Forall₂ (fun p q => p.1 = q.1 ∧ p.2.Alike q.2) params others ∧ result.Alike outcome := by
  simp only [Session.isUsableSignature, Bool.and_eq_true, List.all_eq_true,
    Bool.not_eq_true'] at usable
  refine ⟨?_, last.resolve_right (by simp [usable.2])⟩
  replace usable := usable.1
  induction each with
  | nil => exact .nil
  | cons head _ induction =>
      obtain ⟨first, rest⟩ := List.forall_mem_cons.mp usable
      exact .cons ⟨head.1, head.2.resolve_right (by simp [first.1])⟩ (induction rest)

/-- A signature that is not usable stays so. -/
theorem isUsableSignature (worsens : view.Worsens later)
    {params others : List (String × CType)} {result outcome : CType}
    (each : List.Forall₂ (fun p q => p.1 = q.1 ∧ p.2.Alike q.2) params others)
    (last : result.Alike outcome)
    (usable : Session.isUsableSignature later others outcome = true) :
    Session.isUsableSignature view params result = true := by
  have passes {first second : CType} (alike : first.Alike second)
      (supported : later.isUnsupported second = false) : view.isUnsupported first = false := by
    by_contra lost
    have later := isUnsupported_of_alike alike (worsens.isUnsupported (by simpa using lost))
    simp [supported] at later
  simp only [Session.isUsableSignature, Bool.and_eq_true, List.all_eq_true,
    Bool.not_eq_true'] at usable ⊢
  refine ⟨fun p listed => ?_, passes last usable.2⟩
  obtain ⟨q, also, -, alike⟩ := exists_of_forall₂ each listed
  obtain ⟨supported, complete⟩ := usable.1 q also
  refine ⟨passes alike supported, ?_⟩
  by_contra lost
  have later := isIncomplete_of_alike alike (worsens.isIncomplete (by simpa using lost))
  simp [complete] at later

theorem ofFunction (worsens : view.Worsens later) {facts : TypeFacts (TypeKind × Option Target)}
    {params others : List (String × Answer)} {result outcome : Answer}
    (each : List.Forall₂ (fun p q => p.1 = q.1 ∧
      (p.2.type.Alike q.2.type ∨ later.isUnsupported q.2.type = true)) params others)
    (last : result.type.Alike outcome.type ∨ later.isUnsupported outcome.type = true) :
    (Answer.ofFunction view facts params result).type.Alike
        (Answer.ofFunction later facts others outcome).type ∨
      later.isUnsupported (Answer.ofFunction later facts others outcome).type = true := by
  simp only [Answer.ofFunction]
  by_cases usable : Session.isUsableSignature later (others.map fun p => (p.1, p.2.type))
      outcome.type = true
  · have typed : List.Forall₂
        (fun p q => p.1 = q.1 ∧ (p.2.Alike q.2 ∨ later.isUnsupported q.2 = true))
        (params.map fun p => (p.1, p.2.type)) (others.map fun p => (p.1, p.2.type)) :=
      List.forall₂_map_left_iff.mpr (List.forall₂_map_right_iff.mpr each)
    obtain ⟨each, last⟩ := alike_of_usable typed last usable
    rw [if_pos usable, if_pos (worsens.isUsableSignature each last usable)]
    exact .inl (.function last (CType.alikeParams_ofList each))
  · rw [if_neg usable]
    exact .inr rfl

mutual

/-- A type comes to the same, or it has lost its binding. -/
theorem ofType (worsens : view.Worsens later) : (type : ReportedType) →
    (Answer.ofType view type).type.Alike (Answer.ofType later type).type ∨
      later.isUnsupported (Answer.ofType later type).type = true
  | .absent => .inl (.refl _)
  | .known facts pointee element named result canonical arguments => by
      rw [Answer.ofType, Answer.ofType]
      split
      · exact .inl (.refl _)
      · exact .inl (.refl _)
      split
      · refine (worsens.ofType pointee).imp .pointer fun lost => ?_
        simpa [Answer.map, isUnsupported_pointer] using lost
      · exact .inl (.refl _)
      · exact (worsens.ofType element).imp .array fun lost => lost
      · exact (worsens.ofType element).imp .array fun lost => lost
      · exact worsens.ofType named
      · split
        · exact .inl (.refl _)
        · exact worsens.ofType canonical
      · exact .inl (.refl _)
      · exact .inl (.refl _)
      · exact .inl (.refl _)
      · exact .inl .bare
      · split
        · exact .inl (.refl _)
        · exact worsens.ofFunction (worsens.ofTypes 0 arguments) (worsens.ofType result)
      · split
        · exact .inl (.refl _)
        · exact worsens.ofType canonical
      · exact .inl (.refl _)

theorem ofTypes (worsens : view.Worsens later) : (index : Nat) →
    (types : TypeTrees (TypeKind × Option Target)) →
    List.Forall₂
      (fun p q => p.1 = q.1 ∧
        (p.2.type.Alike q.2.type ∨ later.isUnsupported q.2.type = true))
      (Answer.ofTypes view index types) (Answer.ofTypes later index types)
  | _, .nil => .nil
  | index, .cons first rest =>
      .cons ⟨rfl, worsens.ofType first⟩ (worsens.ofTypes (index + 1) rest)

end

/-- What a later store lays out was laid out before, with the same types but for the results
of function types without parameters. -/
theorem ofFields (worsens : view.Worsens later) (fields : List (Bool × ReportedType))
    {types : List CType} (laid : (Layout.ofFields later fields).types = some types) :
    ∃ earlier, (Layout.ofFields view fields).types = some earlier ∧
      List.Forall₂ CType.Alike earlier types := by
  induction fields generalizing types with
  | nil => exact ⟨[], rfl, by cases laid; exact .nil⟩
  | cons field rest induction =>
      obtain ⟨bitfield, native⟩ := field
      cases bitfield with
      | true => simp [Layout.ofFields] at laid
      | false =>
          rw [Layout.ofFields, Layout.before] at laid ⊢
          split at laid
          · simp at laid
          rename_i fine
          obtain ⟨others, given, rfl⟩ := Option.map_eq_some_iff.mp laid
          obtain ⟨earlier, found, each⟩ := induction given
          simp only [isSome_memberProblem?_iff, not_or] at fine ⊢
          have alike := (worsens.ofType native).resolve_right fine.1
          refine ⟨(Answer.ofType view native).type :: earlier, ?_, .cons alike each⟩
          rw [if_neg, found]
          · rfl
          intro problem
          rcases problem with lost | incomplete | flexible
          · exact fine.1 (isUnsupported_of_alike alike (worsens.isUnsupported lost))
          · exact fine.2.1 (isIncomplete_of_alike alike (worsens.isIncomplete incomplete))
          · exact fine.2.2 (alike.isFlexibleArray ▸ flexible)

end Store.Worsens

/-- The declaration is laid out with these types, and nothing that they depend on is lost. -/
def Header.Report.Supports (report : Report) (view : Store) (types : List CType) : Prop :=
  (report.layout view).types = some types ∧ ∀ type ∈ types, ¬ view.Lost type

instance (report : Report) (view : Store) (types : List CType) :
    Decidable (report.Supports view types) :=
  inferInstanceAs (Decidable (_ ∧ _))

theorem Store.Worsens.supports {view later : Store} {report : Report} {types : List CType}
    (worsens : view.Worsens later) (supports : report.Supports later types) :
    ∃ earlier, report.Supports view earlier ∧ List.Forall₂ CType.Alike earlier types := by
  obtain ⟨laid, kept⟩ := supports
  unfold Report.Supports Report.layout at *
  cases defined : report.fields with
  | none => simp [defined] at laid
  | some fields =>
      simp only [defined] at laid ⊢
      obtain ⟨earlier, given, alike⟩ := worsens.ofFields fields laid
      refine ⟨earlier, ⟨given, fun type listed lost => ?_⟩, alike⟩
      obtain ⟨other, also, alike⟩ := exists_of_forall₂ alike listed
      exact kept other also (lost_of_alike alike (worsens.lost lost))

theorem Store.Worsens.unsupported {view later : Store} {report : Report}
    (worsens : view.Worsens later) (unsupported : ∀ types, ¬ report.Supports view types)
    (types : List CType) : ¬ report.Supports later types := by
  intro supports
  obtain ⟨earlier, supported, -⟩ := worsens.supports supports
  exact unsupported earlier supported

end LuaBinder
