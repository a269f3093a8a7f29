import LuaBinder.Proofs.Declaration.Growth
import Mathlib.Logic.Relation
import Mathlib.Order.WellFoundedSet

namespace LuaBinder.Store

/-! The compounds whose layout a type carries. What is looked for in the members of a
complete record goes through arrays, what is looked for in a type that is used by value
does not. -/

/-- The layout of a compound is part of the type's own. -/
inductive Carries (store : Store) : CType → String → Prop
  | compound {key : String} : Carries store (.compound key) key
  | array {element : CType} {length : Option Int} {key : String}
      (inner : Carries store element key) : Carries store (.array element length) key
  | typedef {name key : String} {type : CType} (found : store.underlying? name = some type)
      (inner : Carries store type key) : Carries store (.typedef name) key

variable {store : Store} {type other last : CType} {key : String} {steps : Nat}

theorem carries_of_element :
    (type : CType) → store.Carries type.element key → store.Carries type key
  | .array element _, carries => .array (carries_of_element element carries)
  | .pointer _ _, carries | .primitive _, carries | .compound _, carries
  | .typedef _, carries | .function _ _ _, carries | .unsupported _, carries => carries

theorem Unfolds.of_element (walk : store.Unfolds CType.element steps other last)
    (same : type.element = other.element) : store.Unfolds CType.element steps type last := by
  cases walk with
  | stop final =>
      rw [← same] at final ⊢
      exact .stop final
  | step named found rest => exact .step (same.trans named) found rest

theorem held?_eq_some_iff_carries : store.held? type = some key ↔ store.Carries type key := by
  rw [held?_eq_some_iff]
  constructor
  · intro given
    obtain ⟨steps, walk⟩ := given
    generalize reached : CType.compound key = last at walk
    induction walk with
    | @stop type final =>
        apply carries_of_element type
        rw [← reached]
        exact .compound
    | @step type inner last name steps named found rest induction =>
        apply carries_of_element type
        rw [named]
        exact .typedef found (induction reached)
  · intro carries
    induction carries with
    | compound => exact ⟨0, .stop (by simp [CType.element])⟩
    | array inner induction =>
        obtain ⟨steps, walk⟩ := induction
        exact ⟨steps, walk.of_element rfl⟩
    | typedef found inner induction =>
        obtain ⟨steps, walk⟩ := induction
        exact ⟨steps + 1, .step rfl found walk⟩

/-- The way to a carried compound leads through typedefs alone or comes to an array. -/
theorem Carries.unfolds (carries : store.Carries type key) :
    ∃ steps last, store.Unfolds id steps type last ∧
      (last = .compound key ∨ ∃ element length, last = .array element length) := by
  induction carries with
  | compound => exact ⟨0, _, .stop (by simp), .inl rfl⟩
  | array inner => exact ⟨0, _, .stop (by simp), .inr ⟨_, _, rfl⟩⟩
  | typedef found inner induction =>
      obtain ⟨steps, last, walk, reached⟩ := induction
      exact ⟨steps + 1, last, .step rfl found walk, reached⟩

/-- A type is incomplete by value if it carries an incomplete compound and does not stand
for an array. -/
theorem isIncomplete_iff_held (store : Store) (type : CType) :
    store.isIncomplete type = true ↔
      (∃ key body, store.held? type = some key ∧ store.body? key = some body ∧
        body.isIncomplete = true) ∧
      ∀ element length, store.target type ≠ .array element length := by
  rw [isIncomplete_iff]
  constructor
  · intro given
    obtain ⟨steps, key, body, walk, found, incomplete⟩ := given
    have held : store.held? type = some key := held?_eq_some_iff.mpr ⟨steps, walk.held rfl⟩
    have target : store.target type = .compound key := target_eq_compound_iff.mpr ⟨steps, walk⟩
    refine ⟨⟨key, body, held, found, incomplete⟩, fun element length array => ?_⟩
    rw [target] at array
    cases array
  · intro given
    obtain ⟨⟨key, body, held, found, incomplete⟩, apart⟩ := given
    obtain ⟨steps, last, walk, reached⟩ := (held?_eq_some_iff_carries.mp held).unfolds
    rcases reached with rfl | ⟨element, length, rfl⟩
    · exact ⟨steps, key, body, walk, found, incomplete⟩
    · exact absurd (targetWithin_of_unfolds walk walk.steps_lt) (apart element length)

/-- An opaque structure. -/
def opaqueStore : Store :=
  ⟨[("a", { usr := "a", nativeName := "a", name := "a", body := .record .struct true [] })]⟩

example : opaqueStore.held? (.array (.compound "a") (some 2)) = some "a" ∧
    opaqueStore.isIncomplete (.array (.compound "a") (some 2)) = false := by
  decide

/-! Where no typedef stands for itself, all walks end. -/

/-- A walk goes from each typedef to one that it is another name of, and there are only
finitely many published ones. -/
theorem exists_unfolds {peel : CType → CType} {names : String → String → Prop}
    (acyclic : ∀ key, ¬ Relation.TransGen names key key)
    (renames : ∀ key inner name, store.underlying? key = some inner →
      peel inner = .typedef name → names key name) (type : CType) :
    ∃ steps last, store.Unfolds peel steps type last := by
  let Below (inner outer : String) : Prop := Relation.TransGen names outer inner
  have : IsTrans String Below := ⟨fun _ _ _ first second => second.trans first⟩
  have : Std.Irrefl Below := ⟨acyclic⟩
  have : IsStrictOrder String Below := {}
  have descends : {key | key ∈ store.keys}.WellFoundedOn Below :=
    (List.finite_toSet store.keys).wellFoundedOn
  have onward (type : CType)
      (ends : ∀ key inner, peel type = .typedef key → store.underlying? key = some inner →
        ∃ steps last, store.Unfolds peel steps inner last) :
      ∃ steps last, store.Unfolds peel steps type last := by
    by_cases final : ∀ key, peel type = .typedef key → store.underlying? key = none
    · exact ⟨0, _, .stop final⟩
    · simp only [not_forall] at final
      obtain ⟨key, named, given⟩ := final
      obtain ⟨inner, found⟩ := Option.ne_none_iff_exists'.mp given
      obtain ⟨steps, last, walk⟩ := ends key inner named found
      exact ⟨steps + 1, last, .step named found walk⟩
  let Ends (key : String) : Prop := ∀ inner, store.underlying? key = some inner →
    ∃ steps last, store.Unfolds peel steps inner last
  have each (key : String) (published : key ∈ store.keys) : Ends key := by
    refine descends.induction published fun key _ induction => ?_
    intro inner found
    refine onward inner fun other next named found' => ?_
    refine induction other (mem_keys_of_underlying? found') ?_ next found'
    exact .single (renames key inner other found named)
  exact onward type fun key inner _ found => each key (mem_keys_of_underlying? found) inner found

/-- A typedef stands for another one, or for arrays of it. -/
def Renames (store : Store) (key other : String) : Prop :=
  ∃ type, store.underlying? key = some type ∧ type.element = .typedef other

theorem exists_unfolds_element (acyclic : ∀ key, ¬ Relation.TransGen store.Renames key key)
    (type : CType) : ∃ steps last, store.Unfolds CType.element steps type last :=
  exists_unfolds acyclic (fun _ inner _ found named => ⟨inner, found, named⟩) type

end LuaBinder.Store
