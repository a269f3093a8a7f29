import LuaBinder.Proofs.CType.Typedefs
import LuaBinder.Proofs.Header.Reference
import LuaBinder.Proofs.Session.Answer
import LuaBinder.Proofs.Session.Opacity

namespace LuaBinder

open Header Session

namespace Body

/-- The parts of an enumeration or an interface change, its form does not. -/
inductive Elaborates : Body → Body → Prop
  | same (body : Body) : Elaborates body body
  | enumeration (incomplete : Bool) (before after : List EnumConstant) :
      Elaborates (.enumeration incomplete before) (.enumeration incomplete after)
  | interface (incomplete : Bool) (parent superclass : Option String)
      (before after : List Method) :
      Elaborates (.interface incomplete parent before) (.interface incomplete superclass after)

/-- Bodies that nothing has to be built for: opaque records, and enumerations and
interfaces without their parts. -/
inductive IsBlank : Body → Prop
  | record (kind : RecordKind) : IsBlank (.record kind true [])
  | enumeration (incomplete : Bool) : IsBlank (.enumeration incomplete [])
  | interface (incomplete : Bool) : IsBlank (.interface incomplete none [])

variable {body after : Body}

theorem Elaborates.underlying?_eq (elaborates : Elaborates body after) :
    after.underlying? = body.underlying? := by
  cases elaborates <;> rfl

theorem Elaborates.isIncomplete_eq (elaborates : Elaborates body after) :
    after.isIncomplete = body.isIncomplete := by
  cases elaborates <;> rfl

theorem Elaborates.values_eq_nil (elaborates : Elaborates body after)
    (silent : body.values = []) : after.values = [] := by
  cases elaborates with
  | same => exact silent
  | enumeration | interface => rfl

theorem IsBlank.mentions_eq_nil (blank : IsBlank body) : body.mentions = [] := by
  cases blank <;> rfl

theorem IsBlank.values_eq_nil (blank : IsBlank body) : body.values = [] := by
  cases blank <;> rfl

theorem setMembers_values_eq_nil (members : List Member) (silent : body.values = []) :
    (setMembers members body).values = [] := by
  cases body with
  | record => rfl
  | _ => exact silent

theorem mem_mentions_setMembers {members : List Member} {key : String}
    (mentioned : key ∈ (setMembers members body).mentions) :
    (∃ m ∈ members, key ∈ m.type.mentions) ∨ key ∈ body.mentions := by
  cases body with
  | record => exact .inl (by simpa [setMembers, mentions, types, superclass?] using mentioned)
  | _ => exact .inr mentioned

end Body

namespace Store

/-! What nested declarations do to a closed store: a step that may have failed midway
extends it, a step that succeeded has built declarations to their end. Both are told of
the declarations that may be built, and those lead to whatever is new. -/

variable {forest : Forest} {reach wider : Nat → Prop} {store middle grown : Store}
  {type last : CType} {key other : String} {d : Declaration} {number : Nat}

structure Extends (forest : Forest) (reach : Nat → Prop) (store grown : Store) : Prop
    extends Grows store grown where
  reached : ∀ key ∈ grown.keys, key ∉ store.keys →
    ∃ number, reach number ∧ (forest.cursor number).usr = key
  valueless : ∀ key body, grown.body? key = some body → key ∉ store.keys → body.values = []

namespace Extends

theorem refl (closed : store.Closed) : store.Extends forest reach store where
  toGrows := .refl closed
  reached := fun _ member absent => absurd member absent
  valueless := fun _ _ found absent => absurd (mem_keys_of_body? found) absent

theorem trans (first : store.Extends forest reach middle)
    (second : middle.Extends forest reach grown) : store.Extends forest reach grown where
  toGrows := first.toGrows.trans second.toGrows
  reached := by
    intro key member absent
    by_cases earlier : key ∈ middle.keys
    · exact first.reached key earlier absent
    · exact second.reached key member earlier
  valueless := by
    intro key body found absent
    by_cases earlier : key ∈ middle.keys
    · exact first.valueless key body (second.body? earlier ▸ found) absent
    · exact second.valueless key body found earlier

theorem mono (extends_ : store.Extends forest reach grown)
    (weaker : ∀ number, reach number → wider number) : store.Extends forest wider grown where
  toGrows := extends_.toGrows
  reached := by
    intro key member absent
    obtain ⟨number, reached, usr⟩ := extends_.reached key member absent
    exact ⟨number, weaker number reached, usr⟩
  valueless := extends_.valueless

theorem push (closed : store.Closed) (reached : reach number)
    (usr : d.usr = (forest.cursor number).usr) (fresh : d.usr ∉ store.keys)
    (silent : d.body.mentions = []) (valueless : d.body.values = []) :
    store.Extends forest reach (store.push d) where
  toGrows := .push closed fresh (by simp [silent])
  reached := by
    intro key member absent
    rw [keys_push, List.mem_append] at member
    have same : key = d.usr := by simpa using member.resolve_left absent
    exact ⟨number, reached, by rw [same, usr]⟩
  valueless := by
    intro key body found absent
    rw [body?_push fresh] at found
    split at found
    · exact Option.some.inj found ▸ valueless
    · exact absurd (mem_keys_of_body? found) absent

theorem amendBody {change : Body → Body} (extended : store.Extends forest reach grown)
    (fresh : key ∉ store.keys)
    (known : ∀ body, grown.body? key = some body →
      ∀ other ∈ (change body).mentions, other ∈ grown.keys)
    (valueless : ∀ body, body.values = [] → (change body).values = []) :
    store.Extends forest reach (grown.amendBody key change) where
  entries := prefix_amendBody extended.entries fresh
  closed := extended.closed.amendBody known
  reached := by simpa using extended.reached
  valueless := by
    intro other body found absent
    rw [body?_amendBody] at found
    split at found
    · rename_i same
      obtain ⟨before, published, rfl⟩ := Option.map_eq_some_iff.mp found
      exact valueless before (extended.valueless key before published (same ▸ absent))
    · exact extended.valueless other body found absent

theorem clear {cleared : List String} (extended : store.Extends forest reach grown)
    (closed : store.Closed) (fresh : key ∉ store.keys)
    (holding : ∀ other ∈ cleared, Relation.ReflTransGen grown.Holds other key) :
    store.Extends forest reach (grown.clear cleared) where
  toGrows := extended.toGrows.clear closed fresh holding
  reached := by simpa using extended.reached
  valueless := by
    intro other body found absent
    rw [body?_clear] at found
    split at found
    · obtain ⟨before, published, rfl⟩ := Option.map_eq_some_iff.mp found
      have silent := extended.valueless other before published absent
      cases before <;> simp_all [clearRecord, Body.values]
    · exact extended.valueless other body found absent

end Extends

/-! What is known of a resolved type. -/

/-- All that the type mentions is published. A type with a binding mentions only typedefs
with one, unless a typedef stands in the result of a function type without a prototype. -/
structure Resolved (store : Store) (bare : Prop) (type : CType) : Prop where
  known : store.Knows type
  usable : store.isUnsupported type = false → ∀ key ∈ type.typedefs,
    store.isUnsupported (.typedef key) = false ∨ (bare ∧ key ∈ type.bareTypedefs)

theorem knows_typedef (known : store.Knows type) (found : key ∈ type.typedefs) :
    store.Knows (.typedef key) := by
  intro other mentioned
  rw [List.mem_singleton.mp mentioned]
  exact known key (type.typedefs_subset_mentions found)

theorem Grows.resolved {bare : Prop} (grows : store.Grows grown) (closed : store.Closed)
    (resolved : store.Resolved bare type) : grown.Resolved bare type where
  known := grows.knows resolved.known
  usable := by
    intro supported key found
    rw [grows.isUnsupported closed resolved.known] at supported
    rw [grows.isUnsupported closed (knows_typedef resolved.known found)]
    exact resolved.usable supported key found

theorem Resolved.imp {bare weaker : Prop} (resolved : store.Resolved bare type)
    (implied : bare → weaker) : store.Resolved weaker type where
  known := resolved.known
  usable := fun supported key found =>
    (resolved.usable supported key found).imp_right fun hidden =>
      ⟨implied hidden.1, hidden.2⟩

/-- Two declarations are new, one before the other, and the one leads to the other. -/
def Before (forest : Forest) (store grown : Store) (key other : String) : Prop :=
  (store.keys ++ [key, other]).Sublist grown.keys ∧ forest.LeadsUsr key other

/-- Of all that is new, the key comes first. -/
def Heads (forest : Forest) (store : Store) (key : String) (grown : Store) : Prop :=
  ∀ other ∈ grown.keys, other ∉ store.keys →
    other = key ∨ store.Before forest grown key other

/-- Of all complete records that are new, the compound that the type stands for comes
first. -/
def HeadsRecords (forest : Forest) (store : Store) (type : CType) (grown : Store) : Prop :=
  ∀ steps key, grown.Unfolds id steps type (.compound key) →
    ∀ other members, grown.Complete other members → other ∉ store.keys →
      other = key ∨ store.Before forest grown key other

theorem Heads.headsRecords (heads : store.Heads forest key grown) :
    store.HeadsRecords forest (.compound key) grown := by
  intro steps other walk holder members ⟨kind, complete⟩ absent
  obtain rfl : key = other := by
    cases walk with
    | stop => rfl
    | step named => simp at named
  exact heads holder (mem_keys_of_body? complete) absent

theorem headsRecords_of_layer
    (layer : ∀ key, type ≠ .compound key ∧ type ≠ .typedef key) :
    store.HeadsRecords forest type grown := by
  intro steps key walk
  cases walk with
  | stop => exact absurd rfl (layer key).1
  | step named => exact absurd named (layer _).2

theorem Heads.refl : store.Heads forest key store :=
  fun _ member absent => absurd member absent

theorem Heads.push : store.Heads forest d.usr (store.push d) := by
  intro other member absent
  rw [keys_push, List.mem_append] at member
  exact .inl (by simpa using member.resolve_left absent)

theorem Heads.extend (heads : store.Heads forest key middle)
    (begun : (store.keys ++ [key]).Sublist middle.keys)
    (usr : (forest.cursor number).usr = key)
    (extended : middle.Extends forest (forest.Leads number) grown) :
    store.Heads forest key grown := by
  intro other member absent
  by_cases earlier : other ∈ middle.keys
  · exact (heads other earlier absent).imp_right fun before =>
      ⟨before.1.trans (prefix_keys extended.entries).sublist, before.2⟩
  · obtain ⟨target, leads, same⟩ := extended.reached other member earlier
    obtain ⟨rest, whole⟩ := prefix_keys extended.entries
    have later : other ∈ rest := by
      rw [← whole, List.mem_append] at member
      exact member.resolve_left earlier
    have ordered := begun.append (List.singleton_sublist.mpr later)
    rw [whole, List.append_assoc] at ordered
    exact .inr ⟨ordered, number, target, usr, same, leads⟩

theorem Heads.of_keys (heads : store.Heads forest key middle)
    (same : grown.keys = middle.keys) : store.Heads forest key grown := by
  simpa [Heads, Before, same] using heads

/-! Completed builds. -/

inductive Builds (forest : Forest) : (Nat → Prop) → Store → Store → Prop
  | refl {reach : Nat → Prop} (store : Store) : Builds forest reach store store
  | trans {reach : Nat → Prop} {store middle grown : Store}
      (first : Builds forest reach store middle)
      (second : Builds forest reach middle grown) : Builds forest reach store grown
  | blank {reach : Nat → Prop} {store : Store} {d : Declaration} {number : Nat}
      (reached : reach number) (usr : d.usr = (forest.cursor number).usr)
      (fresh : d.usr ∉ store.keys) (blank : d.body.IsBlank)
      (hides : d.isRecord = true → forest.Hides number store) :
      Builds forest reach store (store.push d)
  | elaborate {reach : Nat → Prop} {store grown : Store} {key : String}
      {change : Body → Body} (built : Builds forest reach store grown)
      (fresh : key ∉ store.keys) (elaborates : ∀ body : Body, body.Elaborates (change body))
      (known : ∀ body, ∀ other ∈ (change body).mentions,
        other ∈ body.mentions ∨ other ∈ grown.keys) :
      Builds forest reach store (grown.amendBody key change)
  | typedef {reach : Nat → Prop} {store grown : Store} {d : Declaration} {number : Nat}
      {type : CType} (reached : reach number) (usr : d.usr = (forest.cursor number).usr)
      (fresh : d.usr ∉ store.keys) (body : d.body = .typedef none)
      (inner : Builds forest (forest.Leads number) (store.push d) grown)
      (resolved : grown.Resolved (forest.LeadsToBareFunction number) type)
      (heads : (store.push d).HeadsRecords forest type grown) :
      Builds forest reach store (grown.amendBody d.usr fun _ => .typedef (some type))
  | record {reach : Nat → Prop} {store grown : Store} {d : Declaration} {number : Nat}
      {kind : RecordKind} {members : List Member} (reached : reach number)
      (usr : d.usr = (forest.cursor number).usr) (fresh : d.usr ∉ store.keys)
      (body : d.body = .record kind false [])
      (inner : Builds forest (forest.Leads number) (store.push d) grown)
      (resolved : ∀ m ∈ members, grown.Resolved (forest.LeadsToBareFunction number) m.type)
      (passable : ∀ m ∈ members, grown.Passable m.type)
      (laid : forest.Lays number grown members) :
      Builds forest reach store (grown.amendBody d.usr (setMembers members))
  | opaque_ {reach : Nat → Prop} {store grown : Store} {d : Declaration} {number : Nat}
      {kind : RecordKind} {cleared : List String} (reached : reach number)
      (usr : d.usr = (forest.cursor number).usr) (fresh : d.usr ∉ store.keys)
      (body : d.body = .record kind false [])
      (inner : Builds forest (forest.Leads number) (store.push d) grown)
      (clears : grown.Clears d.usr cleared)
      (hides : forest.Hides number grown) :
      Builds forest reach store (grown.clear cleared)

namespace Builds

theorem mono (built : Builds forest reach store grown)
    (weaker : ∀ number, reach number → wider number) : Builds forest wider store grown := by
  induction built with
  | refl => exact .refl _
  | trans _ _ first second => exact .trans (first weaker) (second weaker)
  | blank reached usr fresh blank hides =>
      exact .blank (weaker _ reached) usr fresh blank hides
  | elaborate _ fresh elaborates known built =>
      exact .elaborate (built weaker) fresh elaborates known
  | typedef reached usr fresh body inner resolved heads =>
      exact .typedef (weaker _ reached) usr fresh body inner resolved heads
  | record reached usr fresh body inner resolved passable laid =>
      exact .record (weaker _ reached) usr fresh body inner resolved passable laid
  | opaque_ reached usr fresh body inner clears hides =>
      exact .opaque_ (weaker _ reached) usr fresh body inner clears hides

theorem extends_push (closed : store.Closed) (reached : reach number)
    (onward : ∀ source target, reach source → forest.Leads source target → reach target)
    (usr : d.usr = (forest.cursor number).usr) (fresh : d.usr ∉ store.keys)
    (silent : d.body.mentions = []) (valueless : d.body.values = [])
    (inner : (store.push d).Closed →
      (store.push d).Extends forest (forest.Leads number) grown) :
    store.Extends forest reach grown := by
  have pushed : store.Extends forest reach (store.push d) :=
    .push closed reached usr fresh silent valueless
  exact pushed.trans ((inner pushed.closed).mono fun target leads =>
    onward number target reached leads)

theorem extended (built : Builds forest reach store grown) (closed : store.Closed)
    (onward : ∀ source target, reach source → forest.Leads source target → reach target) :
    store.Extends forest reach grown := by
  induction built with
  | refl => exact .refl closed
  | trans _ _ first second =>
      have begun := first closed onward
      exact begun.trans (second begun.closed onward)
  | blank reached usr fresh blank =>
      exact .push closed reached usr fresh blank.mentions_eq_nil blank.values_eq_nil
  | elaborate _ fresh elaborates known built =>
      have extended := built closed onward
      refine extended.amendBody fresh (fun body found other mentioned => ?_)
        fun body => (elaborates body).values_eq_nil
      rcases known body other mentioned with mentioned | published
      · exact extended.closed.known _ body found other mentioned
      · exact published
  | @typedef reach store grown d number type reached usr fresh body _ resolved _ inner =>
      have extended : store.Extends forest reach grown :=
        extends_push closed reached onward usr fresh (by rw [body]; rfl) (by rw [body]; rfl)
          fun closed => inner closed fun _ _ => Forest.Leads.trans
      refine extended.amendBody fresh (fun _ _ other mentioned => ?_) fun _ _ => rfl
      exact resolved.known other (by simpa [Body.mentions, Body.types, Body.superclass?]
        using mentioned)
  | @record reach store grown d number kind members reached usr fresh body _ resolved _ _
      inner =>
      have extended : store.Extends forest reach grown :=
        extends_push closed reached onward usr fresh (by rw [body]; rfl) (by rw [body]; rfl)
          fun closed => inner closed fun _ _ => Forest.Leads.trans
      refine extended.amendBody fresh (fun body found other mentioned => ?_)
        fun body => Body.setMembers_values_eq_nil members
      rcases Body.mem_mentions_setMembers mentioned with ⟨m, member, mentioned⟩ | mentioned
      · exact (resolved m member).known other mentioned
      · exact extended.closed.known _ body found other mentioned
  | @opaque_ reach store grown d number kind cleared reached usr fresh body _ clears _
      inner =>
      have extended : store.Extends forest reach grown :=
        extends_push closed reached onward usr fresh (by rw [body]; rfl) (by rw [body]; rfl)
          fun closed => inner closed fun _ _ => Forest.Leads.trans
      exact extended.clear closed fresh clears.holding

theorem extended_wide (built : Builds forest reach store grown) (closed : store.Closed) :
    store.Extends forest (fun _ => True) grown :=
  (built.mono fun _ _ => trivial).extended closed fun _ _ _ _ => trivial

theorem grows (built : Builds forest reach store grown) (closed : store.Closed) :
    store.Grows grown := (built.extended_wide closed).toGrows

end Builds

end Store

end LuaBinder
