import LuaBinder.Proofs.Session.Emission
import LuaBinder.Proofs.Session.Fares.Running

namespace LuaBinder

open Header Session

/-! Whatever a published declaration mentions is itself published, under its own USR and
as what it is mentioned as. -/

/-- All types in a body, also those that come from the policy. -/
def Body.allTypes : Body → List CType
  | .function f => f.result :: f.allParams.map (·.type)
  | body => body.types

theorem Body.mem_allTypes {body : Body} {type : CType} (member : type ∈ body.allTypes) :
    type ∈ body.types ∨ ∃ f, body = .function f ∧ ∃ p ∈ f.extra, p.type = type := by
  cases body with
  | function f =>
      rw [allTypes, Function.allParams, List.map_append, ← List.cons_append,
        List.mem_append] at member
      exact member.imp_right fun appended => ⟨f, rfl, List.mem_map.mp appended⟩
  | _ => exact .inl member

/-- The declaration stands under its own USR, and no other one has this USR. -/
structure Store.Identifies (store : Store) (key : String) (d : Declaration) : Prop where
  found : store.lookup? key = some d
  own : d.usr = key
  only : ∀ entry ∈ store.entries, entry.2.usr = key → entry = (key, d)

namespace Sources

variable {sources : Sources} {store : Store} {s : Session} {key : String}
  {kind : DeclarationKind} {d : Declaration}

theorem Describe.identifies (described : sources.Describe store) (nodup : store.keys.Nodup)
    (member : (key, d) ∈ store.entries) : store.Identifies key d where
  found := Store.lookup?_of_mem_entries nodup member
  own := (described _ member).1
  only := by
    intro entry listed same
    have key : entry.1 = key := (described _ listed).1.symm.trans same
    exact List.inj_on_of_nodup_map nodup listed member key

theorem Describe.exists_identified (described : sources.Describe store)
    (nodup : store.keys.Nodup) (published : key ∈ store.keys) :
    ∃ d, store.Identifies key d ∧ sources.Presents key d.kind := by
  obtain ⟨⟨key, d⟩, member, rfl⟩ := List.mem_map.mp published
  exact ⟨d, described.identifies nodup member, (described _ member).2.presented⟩

section

variable (settled : sources.Settled s) (oneKind : sources.OneKind)
  (listed : (key, d) ∈ s.store.entries)
include settled listed

theorem Settled.mem_keys_of_mentions {other : String} (mentioned : other ∈ d.body.mentions) :
    other ∈ s.store.keys := by
  have found : s.store.body? key = some d.body := by
    simp [Store.body?, Store.lookup?_of_mem_entries settled.closed.nodup listed]
  exact settled.closed.known key d.body found other mentioned

include oneKind

theorem Settled.written_identified {type : CType} (own : type ∈ d.body.types) {other : String}
    (mentioned : other ∈ type.mentions) :
    ∃ target, s.store.Identifies other target ∧
      (other ∈ type.compounds → target.kind.IsCompound) ∧
      (other ∈ type.typedefs → target.kind = .typedef) := by
  obtain ⟨native, parts, resolution⟩ := (settled.described _ listed).2.yielded type own
  obtain ⟨typedefs, compounds⟩ := resolution.presented parts
  obtain ⟨target, identified, presented⟩ :=
    settled.described.exists_identified settled.closed.nodup
      (settled.mem_keys_of_mentions listed (Body.mem_mentions_of_mem_types own mentioned))
  refine ⟨target, identified, ?_, ?_⟩
  · intro compound
    obtain ⟨kind, isCompound, required⟩ := compounds _ compound
    exact oneKind _ _ _ required presented ▸ isCompound
  · intro typedef
    exact oneKind _ _ _ presented (typedefs _ typedef)

theorem Settled.mentioned_identified
    (plain : ∀ policy ∈ sources.policies, policy.signatures.IsPlain) {type : CType}
    (member : type ∈ d.body.allTypes) {other : String} (mentioned : other ∈ type.mentions) :
    ∃ target, s.store.Identifies other target ∧
      (other ∈ type.compounds → target.kind.IsCompound) ∧
      (other ∈ type.typedefs → target.kind = .typedef) := by
  rcases Body.mem_allTypes member with own | ⟨f, same, p, appended, rfl⟩
  · exact settled.written_identified oneKind listed own mentioned
  · obtain ⟨policy, configured, appends⟩ := (settled.described _ listed).2.extra f same p appended
    simp [(plain policy configured p.type appends).mentions_eq_nil] at mentioned

theorem Settled.superclass_identified {superclass : String}
    (parent : superclass ∈ d.body.superclass?) :
    ∃ target, s.store.Identifies superclass target ∧ target.kind = .interface := by
  have mentioned : superclass ∈ d.body.mentions :=
    List.mem_append_right _ (Option.mem_toList.mpr parent)
  obtain ⟨target, identified, presented⟩ :=
    settled.described.exists_identified settled.closed.nodup
      (settled.mem_keys_of_mentions listed mentioned)
  have required := (settled.described _ listed).2.parent superclass parent
  exact ⟨target, identified, oneKind _ _ _ presented required⟩

end

end Sources

namespace Session

open Sources

/-- At every point of every session, a declaration is told by its USR: it stands under it,
whatever mentions it means the one entry there, which is of the kind it is mentioned as,
and later commands publish behind it. -/
theorem mentioned_declarations_identified (forest : Forest) (policy : Policy)
    (commands : List Command) (oneKind : (ofCommands forest policy commands).OneKind)
    (plain : ∀ p ∈ (ofCommands forest policy commands).policies, p.signatures.IsPlain) :
    let s := history forest policy commands
    (∀ entry ∈ s.store.entries, s.store.Identifies entry.1 entry.2) ∧
    (∀ entry ∈ s.store.entries,
      (∀ type ∈ entry.2.body.allTypes, ∀ key ∈ type.mentions,
        ∃ target, s.store.Identifies key target ∧
          (key ∈ type.compounds → target.kind.IsCompound) ∧
          (key ∈ type.typedefs → target.kind = .typedef)) ∧
      ∀ superclass ∈ entry.2.body.superclass?,
        ∃ target, s.store.Identifies superclass target ∧ target.kind = .interface) ∧
    ∀ command : Command, s.store.keys <+: (command.perform forest s).store.keys := by
  intro s
  have settled : (ofCommands forest policy commands).Settled s :=
    settled_ofCommands forest policy commands
  refine ⟨?_, ?_, ?_⟩
  · intro entry listed
    exact settled.described.identifies settled.closed.nodup listed
  · intro entry listed
    refine ⟨fun type member key mentioned => ?_, fun superclass parent => ?_⟩
    · exact settled.mentioned_identified oneKind listed plain member mentioned
    · exact settled.superclass_identified oneKind listed parent
  · intro command
    exact ((settled_longer forest policy commands command).perform (allows_ofCommands
      (List.mem_append_right _ (List.mem_singleton_self command)))).2

def linkUsr : String := "c:Link"

/-- `typedef struct node *Link; struct node { Link next; };` and a class with its parent. -/
def linkedForest : Forest := ⟨#[
  { kind := .typedef, spelling := "Link", usr := linkUsr
    underlying := .pointerTo (.elaborated (.declared .record 1)) },
  { kind := .struct, spelling := "node", usr := "c:node", children := [2]
    definition := some 1 },
  { kind := .field, spelling := "next", type := .declared .typedef 0 },
  { kind := .interface, spelling := "Child", usr := "c:Child", children := [4]
    definition := some 3 },
  { kind := .superclass, referenced := some 5 },
  { kind := .interface, spelling := "Parent", usr := "c:Parent", definition := some 5 }]⟩

def linkedCommands : List Command := [.resolve (.declared .typedef 0), .visit 1, .run [3]]

/-- A typedef and a parent class are published because they are mentioned. -/
theorem linkedForest_identified :
    let store := (history linkedForest {} linkedCommands).store
    (∃ d, store.Identifies linkUsr d ∧ d.kind = .typedef) ∧
      ∃ d, store.Identifies "c:Parent" d ∧ d.kind = .interface := by
  intro store
  have oneKind : (ofCommands linkedForest {} linkedCommands).OneKind := by decide +kernel
  have plain : ∀ p ∈ (ofCommands linkedForest {} linkedCommands).policies,
      p.signatures.IsPlain := by
    intro p configured
    obtain rfl : p = {} := List.mem_singleton.mp configured
    exact SignatureTable.isPlain_nil
  have typed : [CType.typedef linkUsr] ∈ store.entries.map (·.2.body.allTypes) := by
    decide +kernel
  have parented : some "c:Parent" ∈ store.entries.map (·.2.body.superclass?) := by
    decide +kernel
  obtain ⟨node, listed, same⟩ := List.mem_map.mp typed
  obtain ⟨child, listed', same'⟩ := List.mem_map.mp parented
  have identified := mentioned_declarations_identified linkedForest {} linkedCommands oneKind
    plain
  obtain ⟨d, found, -, kind⟩ := (identified.2.1 node listed).1 (.typedef linkUsr)
    (by simp [same]) linkUsr (List.mem_singleton_self _)
  exact ⟨⟨d, found, kind (List.mem_singleton_self _)⟩,
    (identified.2.1 child listed').2 "c:Parent" same'⟩

end Session

end LuaBinder
