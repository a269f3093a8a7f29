import LuaBinder.Proofs.Declaration.Unfolding

namespace LuaBinder

namespace Body

/-- The types of a function or a global that values are passed through. -/
def values : Body → List CType
  | .function f => f.result :: f.params.map (·.type)
  | .global type _ _ => [type]
  | _ => []

theorem mem_types_of_mem_values {body : Body} {type : CType} (found : type ∈ body.values) :
    type ∈ body.types := by
  cases body <;> simp_all [values, types]

end Body

namespace Store

variable {store middle grown : Store} {type last : CType} {key : String} {steps : Nat}
  {d : Declaration} {peel : CType → CType}

/-! A store is closed if all that its declarations mention is published. What a type of
a closed store stands for cannot change when the store grows. -/

structure Closed (store : Store) : Prop where
  nodup : store.keys.Nodup
  known : ∀ key body, store.body? key = some body →
    ∀ other ∈ body.mentions, other ∈ store.keys

/-- All that the type mentions is published. -/
def Knows (store : Store) (type : CType) : Prop := ∀ key ∈ type.mentions, key ∈ store.keys

theorem closed_empty : Closed {} where
  nodup := List.nodup_nil
  known := by intro key body found; simp [body?, lookup?] at found

theorem Closed.knows_underlying? (closed : store.Closed)
    (found : store.underlying? key = some type) : store.Knows type := by
  rw [underlying?_eq] at found
  obtain ⟨body, published, underlying⟩ := Option.bind_eq_some_iff.mp found
  exact fun other mentioned => closed.known key body published other
    (Body.mem_mentions_of_mem_types (Body.mem_types_of_underlying? underlying) mentioned)

theorem Closed.push (closed : store.Closed) (fresh : d.usr ∉ store.keys)
    (known : ∀ other ∈ d.body.mentions, other ∈ store.keys) : (store.push d).Closed where
  nodup := by
    simpa [List.nodup_append, closed.nodup] using
      fun key published (same : key = d.usr) => fresh (same ▸ published)
  known := by
    intro key body found other mentioned
    rw [keys_push]
    refine List.mem_append_left _ ?_
    rw [body?_push fresh] at found
    split at found
    · exact known other (Option.some.inj found ▸ mentioned)
    · exact closed.known key body found other mentioned

theorem Closed.mapBodies {change : String → Body → Body} (closed : store.Closed)
    (known : ∀ key body, store.body? key = some body →
      ∀ other ∈ (change key body).mentions, other ∈ store.keys) :
    (store.mapBodies change).Closed where
  nodup := by simpa using closed.nodup
  known := by
    intro key body found other mentioned
    rw [body?_mapBodies] at found
    obtain ⟨before, published, rfl⟩ := Option.map_eq_some_iff.mp found
    simpa using known key before published other mentioned

theorem Closed.amendBody {change : Body → Body} (closed : store.Closed)
    (known : ∀ body, store.body? key = some body →
      ∀ other ∈ (change body).mentions, other ∈ store.keys) :
    (store.amendBody key change).Closed := by
  refine closed.mapBodies fun other body published => ?_
  by_cases same : other = key
  · subst same
    simpa using known body published
  · simpa [same] using closed.known other body published

/-- One store begins with another and is closed. -/
structure Grows (store grown : Store) : Prop where
  entries : store.entries <+: grown.entries
  closed : grown.Closed

namespace Grows

theorem refl (closed : store.Closed) : store.Grows store := ⟨List.prefix_rfl, closed⟩

theorem trans (first : store.Grows middle) (second : middle.Grows grown) :
    store.Grows grown :=
  ⟨first.entries.trans second.entries, second.closed⟩

theorem mem_keys (grows : store.Grows grown) (published : key ∈ store.keys) :
    key ∈ grown.keys :=
  (prefix_keys grows.entries).subset published

theorem knows (grows : store.Grows grown) (known : store.Knows type) : grown.Knows type :=
  fun key mentioned => grows.mem_keys (known key mentioned)

theorem body? (grows : store.Grows grown) (published : key ∈ store.keys) :
    grown.body? key = store.body? key :=
  body?_of_prefix grows.entries published

theorem underlying? (grows : store.Grows grown) (published : key ∈ store.keys) :
    grown.underlying? key = store.underlying? key := by
  rw [underlying?_eq, underlying?_eq, grows.body? published]

theorem kept (grows : store.Grows grown) (found : store.underlying? key = some type) :
    grown.underlying? key = some type := by
  rw [grows.underlying? (mem_keys_of_underlying? found), found]

theorem push (closed : store.Closed) (fresh : d.usr ∉ store.keys)
    (known : ∀ other ∈ d.body.mentions, other ∈ store.keys) : store.Grows (store.push d) :=
  ⟨prefix_push, closed.push fresh known⟩

end Grows

theorem mem_keys_of_peel (keeps : ∀ type, (peel type).mentions = type.mentions)
    (known : store.Knows type) (named : peel type = .typedef key) : key ∈ store.keys := by
  refine known key ?_
  rw [← keeps, named]
  simp [CType.mentions]

theorem Grows.unfolds_iff (grows : store.Grows grown) (closed : store.Closed)
    (keeps : ∀ type, (peel type).mentions = type.mentions) (known : store.Knows type) :
    grown.Unfolds peel steps type last ↔ store.Unfolds peel steps type last := by
  constructor
  · intro walk
    induction walk with
    | stop final =>
        refine .stop fun key named => ?_
        rw [← grows.underlying? (mem_keys_of_peel keeps known named)]
        exact final key named
    | step named found rest induction =>
        rw [grows.underlying? (mem_keys_of_peel keeps known named)] at found
        exact .step named found (induction (closed.knows_underlying? found))
  · intro walk
    induction walk with
    | stop final =>
        refine .stop fun key named => ?_
        rw [grows.underlying? (mem_keys_of_peel keeps known named)]
        exact final key named
    | step named found rest induction =>
        refine .step named ?_ (induction (closed.knows_underlying? found))
        rw [grows.underlying? (mem_keys_of_peel keeps known named)]
        exact found

theorem Unfolds.knows (walk : store.Unfolds peel steps type last) (closed : store.Closed)
    (keeps : ∀ type, (peel type).mentions = type.mentions) (known : store.Knows type) :
    store.Knows last := by
  induction walk with
  | stop => intro key mentioned; exact known key (keeps _ ▸ mentioned)
  | step named found rest induction => exact induction (closed.knows_underlying? found)

theorem Grows.knows_of_unfolds (grows : store.Grows grown) (closed : store.Closed)
    (keeps : ∀ type, (peel type).mentions = type.mentions) (known : store.Knows type)
    (walk : grown.Unfolds peel steps type last) : store.Knows last :=
  ((grows.unfolds_iff closed keeps known).mp walk).knows closed keeps known

theorem Grows.isUnsupported (grows : store.Grows grown) (closed : store.Closed)
    (known : store.Knows type) : grown.isUnsupported type = store.isUnsupported type := by
  rw [Bool.eq_iff_iff, isUnsupported_iff, isUnsupported_iff]
  simp only [grows.unfolds_iff closed CType.mentions_core known]

theorem Grows.held? (grows : store.Grows grown) (closed : store.Closed)
    (known : store.Knows type) : grown.held? type = store.held? type := by
  refine Option.ext fun key => ?_
  rw [held?_eq_some_iff, held?_eq_some_iff]
  simp only [grows.unfolds_iff closed CType.mentions_element known]

/-- A type stands for a compound without a known layout. -/
theorem isIncomplete_iff :
    store.isIncomplete type = true ↔
      ∃ steps key body, store.Unfolds id steps type (.compound key) ∧
        store.body? key = some body ∧ body.isIncomplete = true := by
  unfold isIncomplete
  constructor
  · intro incomplete
    split at incomplete
    · rename_i key target
      obtain ⟨steps, walk⟩ := target_eq_compound_iff.mp target
      cases found : store.lookup? key with
      | none => simp [found] at incomplete
      | some d =>
          exact ⟨steps, key, d.body, walk, by simp [body?, found],
            by simpa [found, Declaration.isIncomplete] using incomplete⟩
    · simp at incomplete
  · intro given
    obtain ⟨steps, key, body, walk, published, incomplete⟩ := given
    obtain ⟨d, found, rfl⟩ := Option.map_eq_some_iff.mp published
    simpa [target_eq_compound_iff.mpr ⟨steps, walk⟩, found, Declaration.isIncomplete]
      using incomplete

theorem Grows.isIncomplete (grows : store.Grows grown) (closed : store.Closed)
    (known : store.Knows type) : grown.isIncomplete type = store.isIncomplete type := by
  have published {steps : Nat} {key : String}
      (walk : store.Unfolds id steps type (.compound key)) : key ∈ store.keys :=
    walk.knows closed (fun _ => rfl) known key (by simp [CType.mentions])
  have same {steps : Nat} {last : CType} :
      grown.Unfolds id steps type last ↔ store.Unfolds id steps type last :=
    grows.unfolds_iff closed (fun _ => rfl) known
  rw [Bool.eq_iff_iff, isIncomplete_iff, isIncomplete_iff]
  simp only [same]
  constructor
  · intro given
    obtain ⟨steps, key, body, walk, found, incomplete⟩ := given
    exact ⟨steps, key, body, walk, grows.body? (published walk) ▸ found, incomplete⟩
  · intro given
    obtain ⟨steps, key, body, walk, found, incomplete⟩ := given
    exact ⟨steps, key, body, walk, (grows.body? (published walk)).symm ▸ found, incomplete⟩

/-! Values can only be passed through types with a binding and a layout. -/

structure Passable (store : Store) (type : CType) : Prop where
  supported : store.isUnsupported type = false
  complete : store.isIncomplete type = false

theorem Grows.passable_iff (grows : store.Grows grown) (closed : store.Closed)
    (known : store.Knows type) : grown.Passable type ↔ store.Passable type := by
  have supported := grows.isUnsupported closed known
  have complete := grows.isIncomplete closed known
  constructor
  · exact fun passable => ⟨supported ▸ passable.supported, complete ▸ passable.complete⟩
  · exact fun passable => ⟨supported ▸ passable.supported, complete ▸ passable.complete⟩

theorem Grows.passable (grows : store.Grows grown) (closed : store.Closed)
    (known : store.Knows type) (passable : store.Passable type) : grown.Passable type :=
  (grows.passable_iff closed known).mpr passable

def PassesValues (store : Store) : Prop :=
  ∀ key body, store.body? key = some body → ∀ type ∈ body.values, store.Passable type

end Store

end LuaBinder
