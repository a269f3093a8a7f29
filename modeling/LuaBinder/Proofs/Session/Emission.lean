import LuaBinder.Proofs.Session.Naming

namespace LuaBinder

open Header Session

/-! Emitted declarations and the typedefs that their types mention. A typedef without a
bound type is not emitted, so whoever mentions it uses a name that is not declared. -/

theorem CType.IsPlain.mentions_eq_nil {type : CType} (plain : type.IsPlain) :
    type.mentions = [] := by
  obtain ⟨primitive, core⟩ := plain
  rw [← mentions_core, core]
  rfl

/-- The types that a binding is written with, as far as they come from the headers.
Interfaces are not written with types. -/
def Body.written : Body → List CType
  | .interface _ _ _ => []
  | body => body.types

theorem Body.mem_types_of_mem_written {body : Body} {type : CType}
    (found : type ∈ body.written) : type ∈ body.types := by
  cases body with
  | interface => simp [written] at found
  | _ => exact found

theorem Body.IsBlank.written_eq_nil {body : Body} (blank : body.IsBlank) :
    body.written = [] := by
  cases blank <;> rfl

theorem Body.IsBlank.ne_typedef {body : Body} (blank : body.IsBlank) :
    body ≠ .typedef none := by
  cases blank <;> simp

namespace Store

variable {forest : Forest} {policy : Policy} {reach : Nat → Prop}
  {store grown : Store} {type : CType} {key usr : String} {d : Declaration} {body : Body}
  {number steps : Nat}

/-- The typedef stands for a type without a binding since a typedef on its way got its
underlying type; a declaration that was built for that one mentions it already. -/
def Cut (forest : Forest) (store : Store) (usr key : String) : Prop :=
  ∃ late, store.Passes CType.core (.typedef key) late ∧
    store.isUnsupported (.typedef late) = true ∧
    [late, usr].Sublist store.keys ∧ forest.LeadsUsr late usr

/-- The declarations with such a USR, apart from a suffix, lead to a function type without
a prototype. -/
def NamesBareFunction (forest : Forest) (usr : String) : Prop :=
  ∃ number suffix, (forest.cursor number).usr ++ suffix = usr ∧
    forest.LeadsToBareFunction number

/-- Where a type of a declaration mentions a typedef without a bound type. -/
structure Covers (forest : Forest) (store : Store) (usr : String) (type : CType) : Prop where
  typedefs : ∀ key ∈ type.typedefs, store.isUnsupported (.typedef key) = true →
    (key ∈ type.bareTypedefs ∧ NamesBareFunction forest usr) ∨ store.Cut forest usr key
  whole : store.isUnsupported type = true →
    ∃ key, type.core = .typedef key ∧ store.Cut forest usr key

/-- A typedef without a bound type is not emitted. -/
def Emits (store : Store) (body : Body) : Prop :=
  ∀ type, body = .typedef (some type) → store.isUnsupported type = false

def Covered (forest : Forest) (store : Store) : Prop :=
  ∀ usr body, store.body? usr = some body → store.Emits body →
    ∀ type ∈ body.written, store.Covers forest usr type

/-! Types without a binding stay so when further typedefs get their underlying types. -/

theorem isUnsupported_mono
    (kept : ∀ key inner, store.underlying? key = some inner →
      grown.underlying? key = some inner)
    (unsupported : store.isUnsupported type = true) : grown.isUnsupported type = true := by
  rw [isUnsupported_iff] at unsupported ⊢
  obtain ⟨steps, reason, walk⟩ := unsupported
  exact ⟨steps, reason, walk.imp kept (by simp)⟩

theorem isUnsupported_typedef (found : store.underlying? key = some type) :
    store.isUnsupported (.typedef key) = store.isUnsupported type := by
  rw [Bool.eq_iff_iff, isUnsupported_iff, isUnsupported_iff]
  constructor
  · intro given
    obtain ⟨steps, reason, walk⟩ := given
    cases walk with
    | step named found' rest =>
        obtain rfl := CType.typedef.inj named
        obtain rfl := Option.some.inj (found.symm.trans found')
        exact ⟨_, reason, rest⟩
  · intro given
    obtain ⟨steps, reason, walk⟩ := given
    exact ⟨steps + 1, reason, .step rfl found walk⟩

theorem Cut.imp (cut : store.Cut forest usr key)
    (kept : ∀ key inner, store.underlying? key = some inner →
      grown.underlying? key = some inner)
    (keys : store.keys.Sublist grown.keys) : grown.Cut forest usr key := by
  obtain ⟨late, passes, unsupported, sublist, leads⟩ := cut
  exact ⟨late, passes.imp kept, isUnsupported_mono kept unsupported, sublist.trans keys, leads⟩

theorem Covers.of_resolved {bare : Prop} (resolved : store.Resolved bare type)
    (supported : store.isUnsupported type = false)
    (named : bare → NamesBareFunction forest usr) : store.Covers forest usr type where
  typedefs := by
    intro key found unsupported
    rcases resolved.usable supported key found with usable | hidden
    · rw [usable] at unsupported
      simp at unsupported
    · exact .inl ⟨hidden.2, named hidden.1⟩
  whole := fun unsupported => by simp [supported] at unsupported

theorem Covers.imp (covers : store.Covers forest usr type)
    (kept : ∀ key inner, store.underlying? key = some inner →
      grown.underlying? key = some inner)
    (keys : store.keys.Sublist grown.keys)
    (typedefs : ∀ key ∈ type.typedefs, grown.isUnsupported (.typedef key) = true →
      store.isUnsupported (.typedef key) = true)
    (whole : grown.isUnsupported type = true → store.isUnsupported type = true) :
    grown.Covers forest usr type where
  typedefs := fun key found unsupported =>
    (covers.typedefs key found (typedefs key found unsupported)).imp_right
      fun cut => cut.imp kept keys
  whole := by
    intro unsupported
    obtain ⟨key, core, cut⟩ := covers.whole (whole unsupported)
    exact ⟨key, core, cut.imp kept keys⟩

theorem Covered.of_same (same : ∀ key, grown.underlying? key = store.underlying? key)
    (keys : grown.keys = store.keys)
    (earlier : ∀ usr body, grown.body? usr = some body → store.Emits body →
      ∀ type ∈ body.written, store.Covers forest usr type) : grown.Covered forest := by
  intro usr body found emits type member
  have emitted : store.Emits body := fun inner bound =>
    (isUnsupported_congr same).symm.trans (emits inner bound)
  refine (earlier usr body found emitted type member).imp (fun _ _ known => ?_)
    (keys ▸ List.Sublist.refl _) (fun key _ => ?_) ?_
  · rw [same, known]
  · rw [isUnsupported_congr same]
    exact id
  · rw [isUnsupported_congr same]
    exact id

theorem Covered.push (covered : store.Covered forest) (closed : store.Closed)
    (grows : store.Grows (store.push d)) (fresh : d.usr ∉ store.keys)
    (own : ∀ type ∈ d.body.written, (store.push d).Covers forest d.usr type) :
    (store.push d).Covered forest := by
  intro usr body found emits type member
  rw [body?_push fresh] at found
  split at found
  · rename_i same
    rw [same]
    exact own type (Option.some.inj found ▸ member)
  have knows {type : CType} (member : type ∈ body.types) : store.Knows type :=
    fun key mentioned => closed.known usr body found key
      (Body.mem_mentions_of_mem_types member mentioned)
  have known := knows (Body.mem_types_of_mem_written member)
  have emitted : store.Emits body := by
    intro type equal
    subst equal
    have supported := emits type rfl
    rwa [grows.isUnsupported closed (knows (by simp [Body.types]))] at supported
  refine (covered usr body found emitted type member).imp (fun _ _ given => grows.kept given)
    (prefix_keys grows.entries).sublist (fun key mentioned => ?_) ?_
  · rw [grows.isUnsupported closed (knows_typedef known mentioned)]
    exact id
  · rw [grows.isUnsupported closed known]
    exact id

theorem Covered.elaborate {change : Body → Body} (covered : store.Covered forest)
    (elaborates : ∀ body : Body, body.Elaborates (change body)) :
    (store.amendBody key change).Covered forest := by
  have keeps := fun body => (elaborates body).underlying?_eq
  have same (other : String) : (store.amendBody key change).underlying? other =
      store.underlying? other := underlying?_amendBody keeps
  refine .of_same same keys_amendBody ?_
  intro usr body found emitted type member
  rw [body?_amendBody] at found
  split at found
  · rename_i here
    obtain ⟨before, published, rfl⟩ := Option.map_eq_some_iff.mp found
    have elaborated := elaborates before
    generalize change before = after at elaborated member emitted
    cases elaborated with
    | same => exact covered usr _ (here ▸ published) emitted type member
    | enumeration => simp [Body.written, Body.types] at member
    | interface => simp [Body.written] at member
  · exact covered usr body found emitted type member

theorem Covered.record {members : List Member} (covered : store.Covered forest)
    (resolved : ∀ m ∈ members, store.Resolved (forest.LeadsToBareFunction number) m.type)
    (passable : ∀ m ∈ members, store.Passable m.type)
    (usr : (forest.cursor number).usr = key) :
    (store.amendBody key (setMembers members)).Covered forest := by
  have keeps (body : Body) : (setMembers members body).underlying? = body.underlying? := by
    cases body <;> rfl
  have same (other : String) : (store.amendBody key (setMembers members)).underlying? other =
      store.underlying? other := underlying?_amendBody keeps
  refine .of_same same keys_amendBody ?_
  intro other body found emitted type member
  rw [body?_amendBody] at found
  split at found
  · rename_i here
    subst here
    obtain ⟨before, published, changed⟩ := Option.map_eq_some_iff.mp found
    cases before with
    | record kind incomplete old =>
        rw [← changed] at member
        obtain ⟨m, listed, rfl⟩ := List.mem_map.mp member
        exact .of_resolved (resolved m listed) (passable m listed).supported fun bare =>
          ⟨number, "", by simpa using usr, bare⟩
    | _ => exact covered other body (published.trans (congrArg some changed)) emitted type member
  · exact covered other body found emitted type member

theorem Covered.clear {cleared : List String} (covered : store.Covered forest) :
    (store.clear cleared).Covered forest := by
  have same (other : String) : (store.clear cleared).underlying? other =
      store.underlying? other := underlying?_clear
  refine .of_same same keys_clear ?_
  intro usr body found emitted type member
  rw [body?_clear] at found
  split at found
  · obtain ⟨before, published, changed⟩ := Option.map_eq_some_iff.mp found
    cases before with
    | record kind incomplete old =>
        rw [← changed] at member
        simp [clearRecord, Body.written, Body.types] at member
    | _ => exact covered usr body (published.trans (congrArg some changed)) emitted type member
  · exact covered usr body found emitted type member

theorem Binds.isUnsupported_cases {bound : Store} {inner : CType}
    (binds : store.Binds bound key type) (unsupported : bound.isUnsupported inner = true) :
    store.isUnsupported inner = true ∨
      (∃ steps, store.Unfolds CType.core steps inner (.typedef key)) ∧
        bound.isUnsupported type = true := by
  obtain ⟨steps, reason, walk⟩ := isUnsupported_iff.mp unsupported
  rcases binds.unfolds_cases walk with walk | ⟨before, after, -, walk, rest⟩
  · exact .inl (isUnsupported_iff.mpr ⟨steps, reason, walk⟩)
  · exact .inr ⟨⟨before, walk⟩, isUnsupported_iff.mpr ⟨after, reason, rest⟩⟩

/-- A declaration that mentions the typedef already was built for it. -/
theorem Extends.cut {inside : Body} {inner : CType}
    (extended : (store.push d).Extends forest (forest.Leads number) grown)
    (closed : store.Closed) (named : d.usr = (forest.cursor number).usr)
    (fresh : d.usr ∉ store.keys) (found : grown.body? usr = some inside) (differs : usr ≠ d.usr)
    (known : ∀ key ∈ inner.mentions, key ∈ inside.mentions)
    (walk : grown.Unfolds CType.core steps inner (.typedef d.usr)) :
    [d.usr, usr].Sublist grown.keys ∧ forest.LeadsUsr d.usr usr := by
  have recent := extended.toGrows.recent fresh closed CType.mentions_core found differs known
    walk
  have published := mem_keys_of_body? found
  obtain ⟨target, leads, same⟩ := extended.reached usr published recent
  have ordered := sublist_of_published extended.toGrows recent published
  have sublist : [d.usr, usr].Sublist ((store.push d).keys ++ [usr]) := by simp
  exact ⟨sublist.trans ordered, number, target, named.symm, same, leads⟩

/-- The typedef itself is emitted only if its type keeps its binding. -/
theorem Covers.bind {bare : Prop} {bound : Store} (binds : store.Binds bound key type)
    (resolved : store.Resolved bare type) (supported : bound.isUnsupported type = false)
    (named : bare → NamesBareFunction forest usr) : bound.Covers forest usr type where
  typedefs := by
    intro other mentioned unsupported
    have before : store.isUnsupported type = false := by
      by_contra lost
      have lost := isUnsupported_mono (fun _ _ => binds.kept) (by simpa using lost)
      simp [supported] at lost
    rcases resolved.usable before other mentioned with usable | hidden
    · rcases binds.isUnsupported_cases unsupported with already | ⟨-, lost⟩
      · simp [usable] at already
      · simp [supported] at lost
    · exact .inl ⟨hidden.2, named hidden.1⟩
  whole := fun unsupported => by simp [supported] at unsupported

theorem Covered.bind (covered : grown.Covered forest) (closed : store.Closed)
    (named : d.usr = (forest.cursor number).usr)
    (extended : (store.push d).Extends forest (forest.Leads number) grown)
    (fresh : d.usr ∉ store.keys) (body : d.body = .typedef none)
    (resolved : grown.Resolved (forest.LeadsToBareFunction number) type) :
    (grown.amendBody d.usr fun _ => .typedef (some type)).Covered forest := by
  have binds := extended.toGrows.binds fresh body type
  have kept (key : String) (inner : CType) (found : grown.underlying? key = some inner) :=
    binds.kept found
  intro usr inside found emits inner member
  rw [body?_amendBody] at found
  split at found
  · rename_i same
    subst same
    obtain rfl : .typedef (some type) = inside := by
      simpa [extended.toGrows.pending fresh body] using found
    obtain rfl : inner = type := by simpa [Body.written, Body.types] using member
    exact .bind binds resolved (emits inner rfl) fun bare =>
      ⟨number, "", by simp [named], bare⟩
  rename_i differs
  have emitted : grown.Emits inside := fun type same => by
    by_contra lost
    have lost := isUnsupported_mono kept (by simpa using lost)
    simp [emits type same] at lost
  have covers := covered usr inside found emitted inner member
  have mentioned {key : String} (found : key ∈ inner.mentions) : key ∈ inside.mentions :=
    Body.mem_mentions_of_mem_types (Body.mem_types_of_mem_written member) found
  -- a type that loses its binding only now was given while the typedef was resolved
  have cut {other : CType} {key : String} {steps : Nat}
      (known : ∀ key ∈ other.mentions, key ∈ inside.mentions)
      (walk : grown.Unfolds CType.core steps other (.typedef d.usr))
      (passes : grown.Passes CType.core (.typedef key) d.usr)
      (lost : (grown.amendBody d.usr fun _ => .typedef (some type)).isUnsupported type = true) :
      (grown.amendBody d.usr fun _ => .typedef (some type)).Cut forest usr key := by
    have built := extended.cut closed named fresh found differs known walk
    refine ⟨d.usr, passes.imp kept, ?_, by simpa using built.1, built.2⟩
    rw [isUnsupported_typedef binds.given, lost]
  refine { typedefs := fun key listed unsupported => ?_, whole := fun unsupported => ?_ }
  · rcases binds.isUnsupported_cases unsupported with already | ⟨⟨steps, walk⟩, lost⟩
    · exact (covers.typedefs key listed already).imp_right fun cut => cut.imp kept (by simp)
    · refine .inr (cut (fun other same => ?_) walk (walk.passes rfl) lost)
      rw [List.mem_singleton.mp same]
      exact mentioned (inner.typedefs_subset_mentions listed)
  · rcases binds.isUnsupported_cases unsupported with already | ⟨⟨steps, walk⟩, lost⟩
    · obtain ⟨key, core, earlier⟩ := covers.whole already
      exact ⟨key, core, earlier.imp kept (by simp)⟩
    · obtain ⟨key, core, passes⟩ := (walk.passes rfl).named
      exact ⟨key, core, cut (fun _ => mentioned) walk (passes rfl) lost⟩

theorem Builds.covered (built : Builds forest reach store grown) (closed : store.Closed)
    (covered : store.Covered forest) : grown.Covered forest := by
  induction built with
  | refl => exact covered
  | trans built _ first second =>
      exact second (built.grows closed).closed (first closed covered)
  | blank _ _ fresh blank =>
      refine covered.push closed (.push closed fresh ?_) fresh fun type member => ?_
      · simp [blank.mentions_eq_nil]
      · simp [blank.written_eq_nil] at member
  | elaborate _ _ elaborates _ built => exact (built closed covered).elaborate elaborates
  | typedef _ usr fresh body built resolved _ inner =>
      have pushed := Grows.push closed fresh (by simp [body])
      have begun := covered.push closed pushed fresh (by simp [body, Body.written, Body.types])
      exact (inner pushed.closed begun).bind closed usr
        (built.extended pushed.closed (onward_leads _)) fresh body resolved
  | record _ usr fresh body built resolved passable _ inner =>
      have pushed := Grows.push closed fresh (by simp [body])
      have begun := covered.push closed pushed fresh (by simp [body, Body.written, Body.types])
      exact (inner pushed.closed begun).record resolved passable usr.symm
  | opaque_ _ _ fresh body built _ _ inner =>
      have pushed := Grows.push closed fresh (by simp [body])
      have begun := covered.push closed pushed fresh (by simp [body, Body.written, Body.types])
      exact (inner pushed.closed begun).clear

theorem Visits.covered (visits : Visits forest reach policy store grown) (closed : store.Closed)
    (covered : store.Covered forest) : grown.Covered forest := by
  induction visits with
  | trans visits _ first second =>
      exact second (visits.advances closed).closed (first closed covered)
  | build built => exact built.covered closed covered
  | @value store d number suffix usr fresh binding =>
      have grows := (binding.advances closed fresh).toGrows
      refine covered.push closed grows fresh fun type member => ?_
      have own := Body.mem_types_of_mem_written member
      have later := binding.grow grows closed
      exact .of_resolved (later.resolved type own) (later.passable type own).supported
        fun bare => ⟨number, suffix, usr, bare⟩

theorem NamedAs.covered {named : Store} (naming : store.NamedAs named)
    (covered : store.Covered forest) : named.Covered forest := by
  refine .of_same (fun key => ?_) naming.keys_eq fun usr body found => ?_
  · rw [underlying?_eq, underlying?_eq, naming.body?_eq]
  · rw [naming.body?_eq] at found
    exact covered usr body found

/-! When nothing is being built, every typedef has its underlying type. -/

theorem pending_of_mapBodies {change : String → Body → Body}
    (form : ∀ key body, change key body = .typedef none → body = .typedef none)
    (pending : (store.mapBodies change).body? key = some (.typedef none)) :
    store.body? key = some (.typedef none) := by
  rw [body?_mapBodies] at pending
  obtain ⟨body, found, changed⟩ := Option.map_eq_some_iff.mp pending
  rw [found, form key body changed]

theorem pending_of_push (fresh : d.usr ∉ store.keys) (other : d.body ≠ .typedef none)
    (pending : (store.push d).body? key = some (.typedef none)) :
    store.body? key = some (.typedef none) := by
  rw [body?_push fresh] at pending
  split at pending
  · exact absurd (Option.some.inj pending) other
  · exact pending

/-- What is built is built to its end. -/
theorem Builds.settled (built : Builds forest reach store grown)
    (pending : grown.body? key = some (.typedef none)) :
    store.body? key = some (.typedef none) := by
  induction built with
  | refl => exact pending
  | trans _ _ first second => exact first (second pending)
  | blank _ _ fresh blank => exact pending_of_push fresh blank.ne_typedef pending
  | elaborate _ _ elaborates _ built =>
      refine built (pending_of_mapBodies (fun other body changed => ?_) pending)
      split at changed
      · have elaborated := elaborates body
        rw [changed] at elaborated
        cases elaborated
        rfl
      · exact changed
  | typedef _ _ fresh _ _ _ _ inner =>
      rw [body?_amendBody] at pending
      split at pending
      · obtain ⟨before, -, changed⟩ := Option.map_eq_some_iff.mp pending
        simp at changed
      · rename_i differs
        have begun := inner pending
        rwa [body?_push fresh, if_neg differs] at begun
  | record _ _ fresh body _ _ _ _ inner =>
      have begun := inner (pending_of_mapBodies (fun other inside changed => ?_) pending)
      · exact pending_of_push fresh (by simp [body]) begun
      split at changed
      · cases inside with
        | record => simp [setMembers] at changed
        | _ => exact changed
      · exact changed
  | opaque_ _ _ fresh body _ _ _ inner =>
      have begun := inner (pending_of_mapBodies (fun other inside changed => ?_) pending)
      · exact pending_of_push fresh (by simp [body]) begun
      split at changed
      · cases inside with
        | record => simp [clearRecord] at changed
        | _ => exact changed
      · exact changed

theorem Visits.settled (visits : Visits forest reach policy store grown)
    (pending : grown.body? key = some (.typedef none)) :
    store.body? key = some (.typedef none) := by
  induction visits with
  | trans _ _ first second => exact first (second pending)
  | build built => exact built.settled pending
  | value _ fresh binding =>
      refine pending_of_push fresh (fun body => ?_) pending
      have value := binding.value
      rw [body] at value
      cases value

/-! Further parameters of functions come from the policy. -/

def AppendsTypes (policy : Policy) (store : Store) : Prop :=
  ∀ usr f, store.body? usr = some (.function f) → ∀ p ∈ f.extra,
    policy.signatures.Appends p.type

theorem Visits.appendsTypes (visits : Visits forest reach policy store grown)
    (closed : store.Closed) (appends : store.AppendsTypes policy) :
    grown.AppendsTypes policy := by
  induction visits with
  | trans visits _ first second =>
      exact second (visits.advances closed).closed (first closed appends)
  | @build store grown built =>
      have extended := built.extended_wide closed
      intro usr f found
      by_cases published : usr ∈ store.keys
      · exact appends usr f (extended.toGrows.body? published ▸ found)
      · simpa [Body.values] using extended.valueless usr _ found published
  | value _ fresh binding =>
      intro usr f found
      rw [body?_push fresh] at found
      split at found
      · exact binding.extra f (Option.some.inj found)
      · exact appends usr f found

/-! Plain types. -/

theorem isUnsupported_pending (pending : store.underlying? key = none) :
    store.isUnsupported (.typedef key) = false := by
  by_contra unsupported
  obtain ⟨steps, reason, walk⟩ := isUnsupported_iff.mp (by simpa using unsupported)
  generalize ended : CType.unsupported reason = last at walk
  cases walk with
  | stop => simp [CType.core] at ended
  | step named found =>
      obtain rfl := CType.typedef.inj named
      simp [pending] at found

theorem isUnsupported_of_core (core : type.core = .typedef key) :
    store.isUnsupported type = store.isUnsupported (.typedef key) := by
  simp [isUnsupported, base, baseWithin, CType.baseWith_eq, core, CType.core]

theorem Covers.of_plain (plain : type.IsPlain) : store.Covers forest usr type := by
  have silent := plain.mentions_eq_nil
  obtain ⟨primitive, core⟩ := plain
  have supported : store.isUnsupported type = false := by
    simp [isUnsupported, base, baseWithin, CType.baseWith_eq, core, CType.isUnsupported]
  have resolved : store.Resolved False type := .of_silent silent
  exact .of_resolved resolved supported fun bare => bare.elim

end Store

namespace Session

open Store

/-- All types that a binding is written with. -/
def spelledTypes : Body → List CType
  | .function f => f.result :: f.allParams.map (·.type)
  | body => body.written

variable {store : Store} {forest : Forest} {policy : Policy} {key usr : String} {body : Body}
  {type : CType}

theorem spelled_cases (member : type ∈ spelledTypes body) :
    type ∈ body.written ∨ ∃ f, body = .function f ∧ ∃ p ∈ f.extra, p.type = type := by
  cases body with
  | function f =>
      rw [spelledTypes, Function.allParams, List.map_append, ← List.cons_append,
        List.mem_append] at member
      exact member.imp_right fun appended => ⟨f, rfl, List.mem_map.mp appended⟩
  | _ => exact .inl member

section

variable (appends : store.AppendsTypes policy)
  (plain : policy.signatures.IsPlain)
  (found : store.body? usr = some body) (member : type ∈ spelledTypes body)
include appends plain found member

theorem covers_of_spelled (covered : store.Covered forest) (emits : store.Emits body) :
    store.Covers forest usr type := by
  rcases spelled_cases member with written | ⟨f, rfl, p, listed, rfl⟩
  · exact covered usr body found emits type written
  · exact .of_plain (plain p.type (appends usr f found p listed))

theorem knows_of_spelled (closed : store.Closed) : store.Knows type := by
  intro key mentioned
  rcases spelled_cases member with written | ⟨f, rfl, p, listed, rfl⟩
  · exact closed.known usr body found key
      (Body.mem_mentions_of_mem_types (Body.mem_types_of_mem_written written) mentioned)
  · simp [(plain p.type (appends usr f found p listed)).mentions_eq_nil] at mentioned

end

theorem mem_emitted_iff (closed : store.Closed) :
    key ∈ emitted store ↔
      ∃ d, store.lookup? key = some d ∧ isEmitted store d = true := by
  simp only [emitted, List.mem_map, List.mem_filter]
  constructor
  · intro given
    obtain ⟨⟨other, d⟩, ⟨member, emitted⟩, rfl⟩ := given
    exact ⟨d, lookup?_of_mem_entries closed.nodup member, emitted⟩
  · intro given
    obtain ⟨d, found, emitted⟩ := given
    exact ⟨(key, d), ⟨mem_entries_of_lookup? found, emitted⟩, rfl⟩

theorem emits_of_mem_emitted (closed : store.Closed) (listed : usr ∈ emitted store)
    (found : store.body? usr = some body) : store.Emits body := by
  obtain ⟨d, located, emitted⟩ := (mem_emitted_iff closed).mp listed
  obtain ⟨other, located', rfl⟩ := Option.map_eq_some_iff.mp found
  obtain rfl := Option.some.inj (located.symm.trans located')
  intro type same
  simpa [isEmitted, same] using emitted

theorem mentions_of_core (core : type.core = .typedef key) : key ∈ type.mentions := by
  rw [← CType.mentions_core, core]
  simp [CType.mentions]

/-- When a run of its own ends, no typedef is being resolved. -/
theorem not_pending_of_visits {grown named : Store} (visits : Visits forest reach policy {} grown)
    (naming : grown.NamedAs named) (key : String) : named.body? key ≠ some (.typedef none) := by
  intro pending
  rw [naming.body?_eq] at pending
  simpa [Store.body?, Store.lookup?] using visits.settled pending

/-- A published declaration is emitted unless it is a typedef without a bound type. -/
theorem mem_emitted_iff_supported (closed : store.Closed)
    (settled : ∀ key, store.body? key ≠ some (.typedef none)) (published : key ∈ store.keys) :
    key ∈ emitted store ↔ store.isUnsupported (.typedef key) = false := by
  rw [mem_emitted_iff closed]
  obtain ⟨body, found⟩ := exists_body? published
  obtain ⟨d, located, rfl⟩ := Option.map_eq_some_iff.mp found
  have own : (∃ other, store.lookup? key = some other ∧ isEmitted store other = true) ↔
      isEmitted store d = true := by simp [located]
  have given : store.underlying? key = d.body.underlying? := by
    simp [underlying?_eq, found]
  rw [own, isEmitted]
  cases body : d.body with
  | typedef underlying =>
      rw [body] at found given
      cases underlying with
      | none => exact absurd found (settled key)
      | some type => simp [isUnsupported_typedef given]
  | _ =>
      rw [body] at given
      simp [isUnsupported_pending given]

/-- What a run of its own leaves. -/
structure Ended (forest : Forest) (policy : Policy) (store : Store) : Prop where
  closed : store.Closed
  covered : store.Covered forest
  appends : store.AppendsTypes policy
  settled : ∀ key, store.body? key ≠ some (.typedef none)

theorem ended_of_run {top : List Nat} {bindings : List String}
    (succeeded : ((runAll top).run forest { policy }).1 = .ok bindings) :
    let store := ((runAll top).run forest { policy }).2.store
    Ended forest policy store ∧ emitted store = bindings := by
  obtain ⟨grown, visits, naming, rfl⟩ := visits_of_run succeeded
  have closed := (visits.advances closed_empty).closed
  have covers : Covered forest {} := by simp [Covered, Store.body?, Store.lookup?]
  have appends : AppendsTypes policy {} := by simp [AppendsTypes, Store.body?, Store.lookup?]
  refine ⟨⟨naming.closed closed, ?_, ?_, not_pending_of_visits visits naming⟩, rfl⟩
  · exact naming.covered (visits.covered closed_empty covers)
  · intro usr f found
    rw [naming.body?_eq] at found
    exact visits.appendsTypes closed_empty appends usr f found

/-- A binding that a run emits mentions a typedef without emitting it exactly if that
typedef stands for a type without a binding and is hidden in the result of a function type
without a prototype, or was being resolved when the binding was built for it. -/
theorem undeclared_typedef_iff {top : List Nat} {bindings : List String}
    (plain : policy.signatures.IsPlain)
    (succeeded : ((runAll top).run forest { policy }).1 = .ok bindings) :
    let store := ((runAll top).run forest { policy }).2.store
    ∀ usr ∈ bindings, ∀ body, store.body? usr = some body → ∀ type ∈ spelledTypes body,
      (∀ key ∈ type.typedefs, key ∉ bindings ↔
        store.isUnsupported (.typedef key) = true ∧
          (key ∈ type.bareTypedefs ∧ NamesBareFunction forest usr ∨
            store.Cut forest usr key)) ∧
      (store.isUnsupported type = true ↔
        ∃ key, type.core = .typedef key ∧ key ∉ bindings ∧ store.Cut forest usr key) := by
  obtain ⟨⟨closed, covered, appends, settled⟩, rfl⟩ := ended_of_run succeeded
  intro store usr listed body found type member
  have emits : store.Emits body := emits_of_mem_emitted closed listed found
  have covers := covers_of_spelled appends plain found member covered emits
  have knows := knows_of_spelled appends plain found member closed
  have unlisted (key : String) (mentioned : key ∈ type.mentions) :
      key ∉ emitted store ↔ store.isUnsupported (.typedef key) = true := by
    rw [mem_emitted_iff_supported closed settled (knows key mentioned), Bool.not_eq_false]
  constructor
  · intro key within
    rw [unlisted key (type.typedefs_subset_mentions within)]
    constructor
    · intro unsupported
      exact ⟨unsupported, covers.typedefs key within unsupported⟩
    · intro lost
      exact lost.1
  · constructor
    · intro unsupported
      obtain ⟨key, core, cut⟩ := covers.whole unsupported
      rw [isUnsupported_of_core core] at unsupported
      exact ⟨key, core, (unlisted key (mentions_of_core core)).mpr unsupported, cut⟩
    · intro cut
      obtain ⟨key, core, absent, -⟩ := cut
      rw [isUnsupported_of_core core]
      exact (unlisted key (mentions_of_core core)).mp absent

def callbackUsr : String := "c:T"

/-- `struct S; typedef long double (*T)(struct S *); struct S { T callback; };` -/
def callbackCycle : Forest := ⟨#[
  { kind := .typedef, spelling := "T", usr := callbackUsr
    underlying := .pointerTo <| .function .functionPrototype (.ofKind .longDouble) <|
      .cons (NativeType.pointerTo (.declared .record 1)) .nil },
  { kind := .struct, spelling := "S", usr := "c:S", children := [2], definition := some 1 },
  { kind := .field, spelling := "callback", type := .declared .typedef 0 }]⟩

def callbackMember : Member :=
  { name := "callback", type := .typedef callbackUsr, nativeName := "callback" }

def callbackCycleRun : Except Error (List String) × Session :=
  (runAll [0, 1]).run callbackCycle { policy := {} }

/-- The structure is built before the typedef of its member turns out to have no binding. -/
theorem callbackCycle_undeclared_typedef :
    callbackCycleRun.1 = .ok ["c:S"] ∧
      callbackCycleRun.2.store.Complete "c:S" [callbackMember] ∧
      callbackCycleRun.2.store.isUnsupported callbackMember.type = true ∧
      callbackCycleRun.2.store.Cut callbackCycle "c:S" callbackUsr := by
  have succeeded : callbackCycleRun.1 = .ok ["c:S"] := by decide +kernel
  have complete : callbackCycleRun.2.store.Complete "c:S" [callbackMember] := by
    decide +kernel
  have unsupported : callbackCycleRun.2.store.isUnsupported callbackMember.type = true := by
    decide +kernel
  unfold callbackCycleRun at *
  obtain ⟨kind, found⟩ := complete
  have undeclared := undeclared_typedef_iff SignatureTable.isPlain_nil succeeded "c:S"
    (List.mem_singleton.mpr rfl) _ found callbackMember.type (List.mem_singleton.mpr rfl)
  obtain ⟨key, core, -, cut⟩ := undeclared.2.mp unsupported
  obtain rfl := CType.typedef.inj core
  exact ⟨succeeded, ⟨kind, found⟩, unsupported, cut⟩

end Session

end LuaBinder
