import LuaBinder.Declaration.Store
import Mathlib.Data.List.Infix
import Mathlib.Data.List.Nodup

namespace LuaBinder

/-! Stores by their look-ups. Every edit of a store either publishes a declaration at
its end or changes bodies where they stand. -/

namespace Body

def underlying? : Body → Option CType
  | .typedef underlying => underlying
  | _ => none

/-- The types in a body. The extra parameters of a function come from the policy, not
from the headers. -/
def types : Body → List CType
  | .function f => f.result :: f.params.map (·.type)
  | .record _ _ members => members.map (·.type)
  | .interface _ _ methods => methods.flatMap fun m => m.result :: m.params.map (·.type)
  | .typedef underlying => underlying.toList
  | .global type _ _ => [type]
  | _ => []

def superclass? : Body → Option String
  | .interface _ superclass _ => superclass
  | _ => none

/-- The declarations that a body mentions. -/
def mentions (body : Body) : List String :=
  body.types.flatMap CType.mentions ++ body.superclass?.toList

@[simp] theorem mentions_typedef_none : (typedef none).mentions = [] := rfl

@[simp] theorem mentions_record_nil {kind : RecordKind} {incomplete : Bool} :
    (record kind incomplete []).mentions = [] := rfl

theorem mem_mentions_of_mem_types {body : Body} {type : CType} {key : String}
    (found : type ∈ body.types) (mentioned : key ∈ type.mentions) :
    key ∈ body.mentions :=
  List.mem_append_left _ (List.mem_flatMap.mpr ⟨type, found, mentioned⟩)

theorem mem_types_of_underlying? {body : Body} {type : CType}
    (found : body.underlying? = some type) : type ∈ body.types := by
  cases body <;> simp_all [underlying?, types]

end Body

namespace Store

variable {store grown : Store} {key other : String} {d : Declaration}

def body? (store : Store) (key : String) : Option Body :=
  (store.lookup? key).map (·.body)

theorem contains_iff_mem_keys : store.contains key = true ↔ key ∈ store.keys := by
  simp [contains, keys]

theorem mem_entries_of_lookup? (found : store.lookup? key = some d) :
    (key, d) ∈ store.entries := by
  obtain ⟨entry, located, rfl⟩ := Option.map_eq_some_iff.mp found
  have same : entry.1 = key := by simpa using List.find?_some located
  exact same ▸ List.mem_of_find?_eq_some located

theorem lookup?_eq_none_iff : store.lookup? key = none ↔ key ∉ store.keys := by
  simp [lookup?, keys, List.find?_eq_none]
  exact ⟨fun absent d found => absent _ _ found rfl,
    fun absent other d found same => absent d (same ▸ found)⟩

theorem mem_keys_of_lookup? (found : store.lookup? key = some d) : key ∈ store.keys := by
  by_contra absent
  simp [lookup?_eq_none_iff.mpr absent] at found

theorem lookup?_of_mem_entries (nodup : store.keys.Nodup)
    (found : (key, d) ∈ store.entries) : store.lookup? key = some d := by
  cases located : store.lookup? key with
  | none =>
      exact absurd (List.mem_map_of_mem found) (lookup?_eq_none_iff.mp located)
  | some other =>
      have same := List.inj_on_of_nodup_map nodup found
        (mem_entries_of_lookup? located) rfl
      exact congrArg (fun entry => some entry.2) same.symm

theorem body?_eq_none_iff : store.body? key = none ↔ key ∉ store.keys := by
  simp [body?, lookup?_eq_none_iff]

theorem mem_keys_of_body? {body : Body} (found : store.body? key = some body) :
    key ∈ store.keys := by
  by_contra absent
  simp [body?_eq_none_iff.mpr absent] at found

theorem exists_body? (published : key ∈ store.keys) :
    ∃ body, store.body? key = some body := by
  cases found : store.body? key with
  | none => exact absurd published (body?_eq_none_iff.mp found)
  | some body => exact ⟨body, rfl⟩

theorem underlying?_eq : store.underlying? key = (store.body? key).bind Body.underlying? := by
  unfold underlying? body?
  cases store.lookup? key with
  | none => rfl
  | some d => rfl

theorem mem_keys_of_underlying? {type : CType} (found : store.underlying? key = some type) :
    key ∈ store.keys := by
  by_contra absent
  simp [underlying?_eq, body?_eq_none_iff.mpr absent] at found

@[simp] theorem length_keys : store.keys.length = store.size := by
  simp [keys, size]

/-! Publishing. -/

def push (store : Store) (d : Declaration) : Store := ⟨store.entries ++ [(d.usr, d)]⟩

theorem insert_eq_push (fresh : d.usr ∉ store.keys) :
    store.insert d.usr d = .ok (store.push d) := by
  simp [insert, push, contains_iff_mem_keys, fresh]

theorem insert_eq_error (published : d.usr ∈ store.keys) :
    store.insert d.usr d = .error ⟨d.usr⟩ := by
  simp [insert, contains_iff_mem_keys, published]

@[simp] theorem keys_push : (store.push d).keys = store.keys ++ [d.usr] := by
  simp [push, keys]

theorem lookup?_push (fresh : d.usr ∉ store.keys) :
    (store.push d).lookup? key = if key = d.usr then some d else store.lookup? key := by
  by_cases same : key = d.usr
  · subst same
    have absent := lookup?_eq_none_iff.mpr fresh
    simp only [lookup?, Option.map_eq_none_iff] at absent
    simp [push, lookup?, List.find?_append, absent]
  · have differs : ¬ d.usr = key := fun h => same h.symm
    simp [push, lookup?, List.find?_append, same, differs]

theorem body?_push (fresh : d.usr ∉ store.keys) :
    (store.push d).body? key = if key = d.usr then some d.body else store.body? key := by
  simp only [body?, lookup?_push fresh]
  split <;> rfl

/-! Bodies changed where they stand. -/

def mapBodies (store : Store) (change : String → Body → Body) : Store :=
  ⟨store.entries.map fun entry =>
    (entry.1, { entry.2 with body := change entry.1 entry.2.body })⟩

variable {change : String → Body → Body}

@[simp] theorem keys_mapBodies : (store.mapBodies change).keys = store.keys := by
  simp [mapBodies, keys]

theorem lookup?_mapBodies :
    (store.mapBodies change).lookup? key =
      (store.lookup? key).map fun d => { d with body := change key d.body } := by
  unfold lookup? mapBodies
  rw [List.find?_map]
  change ((store.entries.find? (·.1 == key)).map _).map _ = _
  cases located : store.entries.find? (·.1 == key) with
  | none => rfl
  | some entry =>
      have same : entry.1 = key := by simpa using List.find?_some located
      simp only [Option.map_some, same]

theorem body?_mapBodies :
    (store.mapBodies change).body? key = (store.body? key).map (change key) := by
  simp [body?, lookup?_mapBodies, Function.comp_def]

theorem mapBodies_mapBodies (change next : String → Body → Body) :
    (store.mapBodies change).mapBodies next =
      store.mapBodies fun key body => next key (change key body) := by
  simp [mapBodies, Function.comp_def]

def amendBody (store : Store) (key : String) (change : Body → Body) : Store :=
  store.mapBodies fun other body => if other = key then change body else body

theorem modify_eq_amendBody (change : Body → Body) :
    (store.modify key fun d => { d with body := change d.body }) =
      store.amendBody key change := by
  unfold modify amendBody mapBodies
  congr 1
  refine List.map_congr_left fun entry _ => ?_
  by_cases same : entry.1 = key <;> simp [same]

theorem body?_amendBody {change : Body → Body} :
    (store.amendBody key change).body? other =
      if other = key then (store.body? key).map change else store.body? other := by
  unfold amendBody
  rw [body?_mapBodies]
  by_cases same : other = key <;> simp [same]

@[simp] theorem keys_amendBody {change : Body → Body} :
    (store.amendBody key change).keys = store.keys := keys_mapBodies

theorem underlying?_mapBodies
    (keeps : ∀ body, store.body? key = some body →
      (change key body).underlying? = body.underlying?) :
    (store.mapBodies change).underlying? key = store.underlying? key := by
  rw [underlying?_eq, underlying?_eq, body?_mapBodies]
  cases found : store.body? key with
  | none => rfl
  | some body => exact keeps body found

theorem underlying?_amendBody {change : Body → Body}
    (keeps : ∀ body, (change body).underlying? = body.underlying?) :
    (store.amendBody key change).underlying? other = store.underlying? other := by
  refine underlying?_mapBodies fun body _ => ?_
  split
  · exact keeps body
  · rfl

/-! A store that another one begins with. -/

theorem prefix_keys (grows : store.entries <+: grown.entries) : store.keys <+: grown.keys :=
  grows.map _

theorem lookup?_append (more : List (String × Declaration)) :
    lookup? ⟨store.entries ++ more⟩ key = (store.lookup? key).or (lookup? ⟨more⟩ key) := by
  simp [lookup?, List.find?_append, Option.map_or]

theorem lookup?_of_grown (grows : store.entries <+: grown.entries)
    (published : key ∈ store.keys) : grown.lookup? key = store.lookup? key := by
  obtain ⟨rest, extended⟩ := grows
  cases located : store.lookup? key with
  | none => exact absurd published (lookup?_eq_none_iff.mp located)
  | some d =>
      obtain rfl : ⟨store.entries ++ rest⟩ = grown := congrArg Store.mk extended
      simp [lookup?_append, located]

theorem body?_of_prefix (grows : store.entries <+: grown.entries)
    (published : key ∈ store.keys) : grown.body? key = store.body? key := by
  simp [body?, lookup?_of_grown grows published]

theorem prefix_push : store.entries <+: (store.push d).entries :=
  List.prefix_append _ _

theorem prefix_mapBodies (grows : store.entries <+: grown.entries)
    (keeps : ∀ key ∈ store.keys, ∀ body, change key body = body) :
    store.entries <+: (grown.mapBodies change).entries := by
  obtain ⟨rest, extended⟩ := grows
  have same : store.entries.map (fun entry =>
      (entry.1, { entry.2 with body := change entry.1 entry.2.body })) = store.entries := by
    refine (List.map_congr_left fun entry member => ?_).trans (List.map_id _)
    simp [keeps entry.1 (List.mem_map_of_mem member)]
  refine ⟨rest.map fun entry =>
    (entry.1, { entry.2 with body := change entry.1 entry.2.body }), ?_⟩
  simp [mapBodies, ← extended, same]

theorem prefix_amendBody {change : Body → Body} (grows : store.entries <+: grown.entries)
    (fresh : key ∉ store.keys) : store.entries <+: (grown.amendBody key change).entries := by
  refine prefix_mapBodies grows fun other published body => ?_
  have differs : other ≠ key := fun same => fresh (same ▸ published)
  simp [differs]

end Store

end LuaBinder
