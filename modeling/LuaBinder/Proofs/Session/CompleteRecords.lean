import LuaBinder.Proofs.Session.Naming

namespace LuaBinder

open Header Session

/-! Complete records and the layouts of their members. Late opacity finds every holder
that it can see; a holder that it cannot see names the compound through a typedef that
is still without its underlying type. -/

namespace Store

variable {forest : Forest} {policy : Policy} {reach : Nat → Prop}
  {store grown : Store} {type : CType} {key holder compound : String} {d : Declaration}
  {members : List Member} {cleared : List String} {steps : Nat}

/-- A record was completed while a compound was built, and the compound for a typedef
that the type passes on its way to the compound. -/
structure Overlooks (forest : Forest) (store : Store) (holder : String) (type : CType)
    (compound : String) : Prop where
  stands : ∃ steps, store.Unfolds id steps type (.compound compound)
  typedef : ∃ key, store.Passes id type key ∧
    [key, compound, holder].Sublist store.keys
  leads : forest.LeadsUsr compound holder

/-- Only through such a typedef does a complete record have a member without a layout. -/
def LaidOut (forest : Forest) (store : Store) : Prop :=
  ∀ holder members, store.Complete holder members → ∀ m ∈ members,
    store.isIncomplete m.type = true → ∃ compound, store.Overlooks forest holder m.type compound

theorem Overlooks.imp (overlooks : store.Overlooks forest holder type compound)
    (kept : ∀ key inner, store.underlying? key = some inner →
      grown.underlying? key = some inner)
    (walks : ∀ steps, store.Unfolds id steps type (.compound compound) →
      grown.Unfolds id steps type (.compound compound))
    (keys : store.keys.Sublist grown.keys) :
    grown.Overlooks forest holder type compound where
  stands := overlooks.stands.imp walks
  typedef := by
    obtain ⟨key, passes, sublist⟩ := overlooks.typedef
    exact ⟨key, passes.imp kept, sublist.trans keys⟩
  leads := overlooks.leads

theorem Overlooks.of_same (overlooks : store.Overlooks forest holder type compound)
    (same : ∀ key, grown.underlying? key = store.underlying? key)
    (keys : grown.keys = store.keys) : grown.Overlooks forest holder type compound :=
  overlooks.imp (fun key _ found => (same key).trans found)
    (fun _ walk => (unfolds_congr same).mpr walk) (keys ▸ List.Sublist.refl _)

theorem LaidOut.of_same (laid : store.LaidOut forest)
    (same : ∀ key, grown.underlying? key = store.underlying? key)
    (keys : grown.keys = store.keys)
    (earlier : ∀ holder members, grown.Complete holder members → ∀ m ∈ members,
      grown.isIncomplete m.type = true →
        store.Complete holder members ∧ store.isIncomplete m.type = true) :
    grown.LaidOut forest := by
  intro holder members complete m member incomplete
  obtain ⟨complete, incomplete⟩ := earlier holder members complete m member incomplete
  obtain ⟨compound, overlooks⟩ := laid holder members complete m member incomplete
  exact ⟨compound, overlooks.of_same same keys⟩

theorem LaidOut.push (laid : store.LaidOut forest) (closed : store.Closed)
    (grows : store.Grows (store.push d)) (fresh : d.usr ∉ store.keys)
    (bare : ∀ kind members, d.body = .record kind false members → members = []) :
    (store.push d).LaidOut forest := by
  intro holder members given m member incomplete
  obtain ⟨kind, complete⟩ := given
  rw [body?_push fresh] at complete
  split at complete
  · rw [bare kind members (Option.some.inj complete)] at member
    simp at member
  have known : store.Knows m.type := fun key mentioned =>
    closed.known holder _ complete key
      (Body.mem_mentions_of_mem_types (List.mem_map_of_mem member) mentioned)
  rw [grows.isIncomplete closed known] at incomplete
  obtain ⟨compound, overlooks⟩ := laid holder members ⟨kind, complete⟩ m member incomplete
  exact ⟨compound, overlooks.imp (fun _ _ found => grows.kept found)
    (fun _ walk => (grows.unfolds_iff closed (fun _ => rfl) known).mpr walk)
    (prefix_keys grows.entries).sublist⟩

/-! Edits of one body that leave what types stand for. -/

theorem isIncomplete_amendBody {change : Body → Body}
    (keeps : ∀ body, (change body).underlying? = body.underlying?)
    (stays : ∀ body, (change body).isIncomplete = body.isIncomplete) :
    (store.amendBody key change).isIncomplete type = store.isIncomplete type := by
  have walks {steps : Nat} {last : CType} :
      (store.amendBody key change).Unfolds id steps type last ↔
        store.Unfolds id steps type last := unfolds_congr fun _ => underlying?_amendBody keeps
  rw [Bool.eq_iff_iff, isIncomplete_iff, isIncomplete_iff]
  simp only [walks, body?_amendBody]
  refine exists_congr fun steps => exists_congr fun other => ?_
  split
  · rename_i same
    subst same
    cases found : store.body? other with
    | none => simp
    | some body => simp [stays body]
  · rfl

theorem LaidOut.elaborate {change : Body → Body} (laid : store.LaidOut forest)
    (elaborates : ∀ body : Body, body.Elaborates (change body)) :
    (store.amendBody key change).LaidOut forest := by
  have keeps := fun body => (elaborates body).underlying?_eq
  refine laid.of_same (fun _ => underlying?_amendBody keeps) keys_amendBody ?_
  intro holder members complete m member incomplete
  rw [isIncomplete_amendBody keeps fun body => (elaborates body).isIncomplete_eq] at incomplete
  refine ⟨?_, incomplete⟩
  obtain ⟨kind, found⟩ := complete
  rw [body?_amendBody] at found
  split at found
  · rename_i same
    obtain ⟨body, published, changed⟩ := Option.map_eq_some_iff.mp found
    have elaborated := elaborates body
    rw [changed] at elaborated
    cases elaborated with
    | same => exact ⟨kind, same ▸ published⟩
  · exact ⟨kind, found⟩

theorem LaidOut.record (laid : store.LaidOut forest)
    (passable : ∀ m ∈ members, store.Passable m.type) :
    (store.amendBody key (setMembers members)).LaidOut forest := by
  have keeps (body : Body) : (setMembers members body).underlying? = body.underlying? := by
    cases body <;> rfl
  have stays (body : Body) : (setMembers members body).isIncomplete = body.isIncomplete := by
    cases body <;> rfl
  refine laid.of_same (fun _ => underlying?_amendBody keeps) keys_amendBody ?_
  intro holder listed given m member incomplete
  obtain ⟨kind, found⟩ := given
  rw [isIncomplete_amendBody keeps stays] at incomplete
  rw [body?_amendBody] at found
  split at found
  · obtain ⟨body, published, changed⟩ := Option.map_eq_some_iff.mp found
    cases body with
    | record =>
        obtain ⟨-, -, rfl⟩ := Body.record.inj changed
        rw [(passable m member).complete] at incomplete
        simp at incomplete
    | _ => simp [setMembers] at changed
  · exact ⟨⟨kind, found⟩, incomplete⟩

/-- After late opacity no complete record holds what has lost its layout. -/
theorem LaidOut.clear (laid : store.LaidOut forest) (clears : store.Clears key cleared) :
    (store.clear cleared).LaidOut forest := by
  refine laid.of_same (fun _ => underlying?_clear) keys_clear ?_
  intro holder members complete m member incomplete
  refine ⟨(complete_clear.mp complete).2, ?_⟩
  obtain ⟨steps, compound, body, walk, found, incomplete⟩ := isIncomplete_iff.mp incomplete
  have held := held?_eq_some_iff.mpr ⟨steps, walk.held rfl⟩
  have kept := clears.settled holder compound ⟨members, complete, m, member, held⟩
  rw [body?_clear, if_neg kept] at found
  exact isIncomplete_iff.mpr ⟨steps, compound, body, unfolds_clear.mp walk, found, incomplete⟩

/-- A typedef gets its underlying type. Late opacity could not see a holder that names a
compound through it; such a holder has been built for the compound. -/
theorem LaidOut.bind (laid : grown.LaidOut forest) (closed : store.Closed)
    (grows : (store.push d).Grows grown) (fresh : d.usr ∉ store.keys)
    (body : d.body = .typedef none)
    (heads : (store.push d).HeadsRecords forest type grown) :
    (grown.amendBody d.usr fun _ => .typedef (some type)).LaidOut forest := by
  have binds := grows.binds fresh body type
  intro holder members complete m member incomplete
  obtain ⟨newer, complete⟩ := complete_amendBody_typedef complete
  obtain ⟨steps, compound, inside, walk, found, incomplete⟩ := isIncomplete_iff.mp incomplete
  have found : grown.body? compound = some inside := by
    rw [body?_amendBody] at found
    split at found
    · obtain ⟨-, -, rfl⟩ := Option.map_eq_some_iff.mp found
      simp [Body.isIncomplete] at incomplete
    · exact found
  rcases binds.unfolds_cases walk with before | ⟨steps, more, -, before, after⟩
  · -- the compound stood behind the type already
    obtain ⟨other, overlooks⟩ := laid holder members complete m member
      (isIncomplete_iff.mpr ⟨_, compound, inside, before, found, incomplete⟩)
    exact ⟨other, overlooks.imp (fun _ _ found => binds.kept found)
      (fun _ walk => binds.unfolds walk (by simp)) (by simp)⟩
  · -- the type ended at the typedef, so the holder is newer than that
    have recent : holder ∉ (store.push d).keys :=
      grows.recent fresh closed (fun _ => rfl) complete.choose_spec newer
        (fun key => Body.mem_mentions_of_mem_types (List.mem_map_of_mem member)) before
    have differs : holder ≠ compound := by
      intro equal
      subst equal
      obtain ⟨kind, complete⟩ := complete
      rw [found] at complete
      obtain rfl := Option.some.inj complete
      simp [Body.isIncomplete] at incomplete
    have ordered := (heads more compound (binds.unfolds_own after) holder members complete
      recent).resolve_left differs
    refine ⟨compound, ⟨_, walk⟩, ⟨d.usr, ?_, ?_⟩, ordered.2⟩
    · exact (before.passes rfl).imp fun _ _ found => binds.kept found
    · have sublist : [d.usr, compound, holder].Sublist
          ((store.push d).keys ++ [compound, holder]) := by simp
      simpa using sublist.trans ordered.1

theorem Builds.laidOut (built : Builds forest reach store grown) (closed : store.Closed)
    (laid : store.LaidOut forest) : grown.LaidOut forest := by
  induction built with
  | refl => exact laid
  | trans built _ first second => exact second (built.grows closed).closed (first closed laid)
  | blank _ _ fresh blank =>
      refine laid.push closed (.push closed fresh ?_) fresh ?_
      · simp [blank.mentions_eq_nil]
      · intro kind members body
        rw [body] at blank
        cases blank
  | elaborate _ _ elaborates _ built => exact (built closed laid).elaborate elaborates
  | typedef _ _ fresh body built _ heads inner =>
      have pushed := Grows.push closed fresh (by simp [body])
      have begun := laid.push closed pushed fresh (by simp [body])
      exact (inner pushed.closed begun).bind closed (built.grows pushed.closed) fresh body heads
  | record _ _ fresh body built _ passable _ inner =>
      have pushed := Grows.push closed fresh (by simp [body])
      have begun := laid.push closed pushed fresh (by simp [body])
      exact (inner pushed.closed begun).record passable
  | opaque_ _ _ fresh body built clears _ inner =>
      have pushed := Grows.push closed fresh (by simp [body])
      have begun := laid.push closed pushed fresh (by simp [body])
      exact (inner pushed.closed begun).clear clears

theorem Visits.laidOut (visits : Visits forest reach policy store grown) (closed : store.Closed)
    (laid : store.LaidOut forest) : grown.LaidOut forest := by
  induction visits with
  | trans visits _ first second =>
      exact second (visits.advances closed).closed (first closed laid)
  | build built => exact built.laidOut closed laid
  | value _ fresh binding =>
      refine laid.push closed (binding.advances closed fresh).toGrows fresh ?_
      intro kind members body
      have value := binding.value
      rw [body] at value
      cases value

theorem NamedAs.laidOut {named : Store} (naming : store.NamedAs named)
    (laid : store.LaidOut forest) : named.LaidOut forest := by
  refine laid.of_same (fun key => ?_) naming.keys_eq ?_
  · rw [underlying?_eq, underlying?_eq, naming.body?_eq]
  · intro holder members given m member incomplete
    obtain ⟨kind, complete⟩ := given
    rw [naming.body?_eq] at complete
    exact ⟨⟨kind, complete⟩, naming.isIncomplete_eq ▸ incomplete⟩

theorem laidOut_empty : LaidOut forest {} := by
  intro holder members given
  obtain ⟨kind, complete⟩ := given
  simp [body?, lookup?] at complete

end Store

namespace Session

open Store

/-- After a run that succeeds, a member of a complete record stands for a compound without
a layout exactly if the record was completed while that compound was built for a typedef
that the member's type passes. -/
theorem complete_record_overlooks_iff {forest : Forest} {policy : Policy} {top : List Nat}
    {bindings : List String}
    (succeeded : ((runAll top).run forest { policy }).1 = .ok bindings) :
    let store := ((runAll top).run forest { policy }).2.store
    ∀ holder members, store.Complete holder members → ∀ m ∈ members,
      (store.isIncomplete m.type = true ↔
        ∃ compound body, store.Overlooks forest holder m.type compound ∧
          store.body? compound = some body ∧ body.isIncomplete = true) := by
  intro store holder members complete m member
  have laid : store.LaidOut forest := by
    obtain ⟨grown, visits, naming, -⟩ := visits_of_run succeeded
    exact naming.laidOut (visits.laidOut closed_empty laidOut_empty)
  constructor
  · intro incomplete
    obtain ⟨compound, overlooks⟩ := laid holder members complete m member incomplete
    obtain ⟨steps, other, body, walk, found, incomplete⟩ := isIncomplete_iff.mp incomplete
    obtain ⟨more, stands⟩ := overlooks.stands
    obtain rfl := CType.compound.inj (walk.unique stands).2
    exact ⟨other, body, overlooks, found, incomplete⟩
  · intro given
    obtain ⟨compound, body, overlooks, found, incomplete⟩ := given
    obtain ⟨steps, stands⟩ := overlooks.stands
    exact isIncomplete_iff.mpr ⟨steps, compound, body, stands, found, incomplete⟩

def aliasUsr : String := "c:T"

/-- `typedef struct { struct E *e; int flags : 3; } T; struct E { T t; };` -/
def lateBitfield : Forest := ⟨#[
  { kind := .struct, usr := "c:X", anonymous := true, children := [1, 2]
    definition := some 0 },
  { kind := .field, spelling := "e", type := .pointerTo (.declared .record 4) },
  { kind := .field, spelling := "flags", type := .ofKind .int, bitfield := true },
  { kind := .typedef, spelling := "T", usr := aliasUsr
    underlying := .elaborated (.declared .record 0) },
  { kind := .struct, spelling := "E", usr := "c:E", children := [5], definition := some 4 },
  { kind := .field, spelling := "t", type := .declared .typedef 3 }]⟩

def aliasMember : Member := { name := "t", type := .typedef aliasUsr, nativeName := "t" }

def lateBitfieldRun : Except Error (List String) × Session :=
  (runAll [0, 3, 4]).run lateBitfield { policy := {} }

/-- The bit-field takes the layout of the structure only after the pointer before it, and
the holder of the typedef keeps its own. -/
theorem lateBitfield_overlooks_holder :
    lateBitfieldRun.1 = .ok [aliasUsr, "c:X", "c:E"] ∧
      lateBitfieldRun.2.store.Complete "c:E" [aliasMember] ∧
      lateBitfieldRun.2.store.isIncomplete aliasMember.type = true ∧
      ∃ compound body,
        lateBitfieldRun.2.store.Overlooks lateBitfield "c:E" aliasMember.type compound ∧
          lateBitfieldRun.2.store.body? compound = some body ∧ body.isIncomplete = true := by
  have succeeded : lateBitfieldRun.1 = .ok [aliasUsr, "c:X", "c:E"] := by decide +kernel
  have complete : lateBitfieldRun.2.store.Complete "c:E" [aliasMember] := by decide +kernel
  have incomplete : lateBitfieldRun.2.store.isIncomplete aliasMember.type = true := by
    decide +kernel
  unfold lateBitfieldRun at *
  have overlooks := complete_record_overlooks_iff succeeded "c:E" _ complete aliasMember
    List.mem_cons_self
  exact ⟨succeeded, complete, incomplete, overlooks.mp incomplete⟩

end Session

end LuaBinder
