import LuaBinder.Proofs.Declaration.Store

namespace LuaBinder

/-! What a type stands for, as a walk along the underlying types of typedefs. The walk
takes off other layers on its way: none, arrays, or arrays and pointers. -/

namespace CType

def element : CType → CType
  | .array inner _ => inner.element
  | type => type

/-- The type below arrays and pointers. -/
def core : CType → CType
  | .pointer target _ => target.core
  | .array inner _ => inner.core
  | type => type

@[simp] theorem element_element : (type : CType) → type.element.element = type.element
  | .array inner _ => element_element inner
  | .pointer _ _ | .primitive _ | .compound _ | .typedef _ | .function _ _ _
  | .unsupported _ => rfl

@[simp] theorem core_element : (type : CType) → type.element.core = type.core
  | .array inner _ => core_element inner
  | .pointer _ _ | .primitive _ | .compound _ | .typedef _ | .function _ _ _
  | .unsupported _ => rfl

@[simp] theorem core_core : (type : CType) → type.core.core = type.core
  | .array inner _ => core_core inner
  | .pointer target _ => core_core target
  | .primitive _ | .compound _ | .typedef _ | .function _ _ _ | .unsupported _ => rfl

theorem mentions_element : (type : CType) → type.element.mentions = type.mentions
  | .array inner _ => by simp [element, mentions, mentions_element inner]
  | .pointer _ _ | .primitive _ | .compound _ | .typedef _ | .function _ _ _
  | .unsupported _ => rfl

theorem mentions_core : (type : CType) → type.core.mentions = type.mentions
  | .array inner _ => by simp [core, mentions, mentions_core inner]
  | .pointer target _ => by simp [core, mentions, mentions_core target]
  | .primitive _ | .compound _ | .typedef _ | .function _ _ _ | .unsupported _ => rfl

theorem baseWith_eq (unfold : String → Option CType) : (type : CType) →
    type.baseWith unfold =
      match type.core with
      | .typedef key => (unfold key).getD (.typedef key)
      | core => core
  | .array inner _ => by simp [core, baseWith, baseWith_eq unfold inner]
  | .pointer target _ => by simp [core, baseWith, baseWith_eq unfold target]
  | .primitive _ | .compound _ | .typedef _ | .function _ _ _ | .unsupported _ => rfl

end CType

namespace Store

theorem heldWith_eq (unfold : String → Option String) : (type : CType) →
    heldWith unfold type =
      match type.element with
      | .typedef key => unfold key
      | .compound key => some key
      | _ => none
  | .array inner _ => by simp [CType.element, heldWith, heldWith_eq unfold inner]
  | .pointer _ _ | .primitive _ | .compound _ | .typedef _ | .function _ _ _
  | .unsupported _ => rfl

variable {store grown : Store} {peel : CType → CType} {type last other : CType}
  {key : String} {steps more fuel : Nat}

/-- `type` stands for `last` after so many typedefs; at a typedef without an underlying
type the walk ends. -/
inductive Unfolds (store : Store) (peel : CType → CType) : Nat → CType → CType → Prop
  | stop {type : CType}
      (final : ∀ key, peel type = .typedef key → store.underlying? key = none) :
      Unfolds store peel 0 type (peel type)
  | step {type inner last : CType} {key : String} {steps : Nat}
      (named : peel type = .typedef key) (found : store.underlying? key = some inner)
      (rest : Unfolds store peel steps inner last) :
      Unfolds store peel (steps + 1) type last

namespace Unfolds

theorem unique (first : store.Unfolds peel steps type last)
    (second : store.Unfolds peel more type other) : steps = more ∧ last = other := by
  induction first generalizing more with
  | stop final =>
      cases second with
      | stop => exact ⟨rfl, rfl⟩
      | step named found => simp [final _ named] at found
  | step named found _ induction =>
      cases second with
      | stop final => simp [final _ named] at found
      | step named' found' rest' =>
          rw [named] at named'
          cases named'
          rw [found] at found'
          cases found'
          exact ⟨congrArg (· + 1) (induction rest').1, (induction rest').2⟩

/-- The walk passes each published typedef at most once. -/
theorem exists_trail (walk : store.Unfolds peel steps type last) :
    ∃ trail : List String, trail.length = steps ∧ trail.Nodup ∧
      ∀ key ∈ trail, key ∈ store.keys ∧
        ∃ inner fewer, store.underlying? key = some inner ∧ fewer < steps ∧
          store.Unfolds peel fewer inner last := by
  induction walk with
  | stop final => exact ⟨[], rfl, List.nodup_nil, by simp⟩
  | @step type inner last key steps named found rest induction =>
      obtain ⟨trail, length, nodup, passed⟩ := induction
      refine ⟨key :: trail, by simp [length], List.nodup_cons.mpr ⟨?_, nodup⟩, ?_⟩
      · intro again
        obtain ⟨-, inner', fewer, found', shorter, walk'⟩ := passed key again
        rw [found] at found'
        cases found'
        exact absurd (rest.unique walk').1 (by omega)
      · intro other member
        rcases List.mem_cons.mp member with rfl | member
        · exact ⟨mem_keys_of_underlying? found, inner, steps, found, Nat.lt_succ_self _, rest⟩
        · obtain ⟨published, inner', fewer, found', shorter, walk'⟩ := passed other member
          exact ⟨published, inner', fewer, found', by omega, walk'⟩

theorem steps_le_size (walk : store.Unfolds peel steps type last) : steps ≤ store.size := by
  obtain ⟨trail, length, nodup, passed⟩ := walk.exists_trail
  have within : trail ⊆ store.keys := fun key member => (passed key member).1
  simpa [length] using nodup.length_le_of_subset within

/-- A longer walk than the typedefs allow does not exist, so any larger bound will do. -/
theorem steps_lt (walk : store.Unfolds peel steps type last) : steps < store.size + 1 :=
  Nat.lt_succ_of_le walk.steps_le_size

end Unfolds

/-- Walks depend only on what typedefs stand for. -/
theorem unfolds_congr (same : ∀ key, grown.underlying? key = store.underlying? key) :
    grown.Unfolds peel steps type last ↔ store.Unfolds peel steps type last := by
  constructor
  · intro walk
    induction walk with
    | stop final => exact .stop fun key named => same key ▸ final key named
    | step named found _ induction => exact .step named (same _ ▸ found) induction
  · intro walk
    induction walk with
    | stop final => exact .stop fun key named => (same key).symm ▸ final key named
    | step named found _ induction => exact .step named ((same _).symm ▸ found) induction

/-- The walk passes a typedef. -/
inductive Passes (store : Store) (peel : CType → CType) : CType → String → Prop
  | here {type : CType} {key : String} (named : peel type = .typedef key) :
      Passes store peel type key
  | step {type inner : CType} {key passed : String} (named : peel type = .typedef key)
      (found : store.underlying? key = some inner) (rest : Passes store peel inner passed) :
      Passes store peel type passed

theorem Passes.imp {passed : String} (passes : store.Passes peel type passed)
    (kept : ∀ key inner, store.underlying? key = some inner →
      grown.underlying? key = some inner) :
    grown.Passes peel type passed := by
  induction passes with
  | here named => exact .here named
  | step named found _ induction => exact .step named (kept _ _ found) induction

/-- A walk that does not end at a typedef goes on as before. -/
theorem Unfolds.imp (walk : store.Unfolds peel steps type last)
    (kept : ∀ key inner, store.underlying? key = some inner →
      grown.underlying? key = some inner)
    (ended : ∀ key, last ≠ .typedef key) : grown.Unfolds peel steps type last := by
  induction walk with
  | stop final => exact .stop fun key named => absurd named (ended key)
  | step named found _ induction => exact .step named (kept _ _ found) (induction ended)

theorem Unfolds.passes (walk : store.Unfolds peel steps type last)
    (reached : last = .typedef key) : store.Passes peel type key := by
  induction walk with
  | stop => exact .here reached
  | step named found _ induction => exact .step named found (induction reached)

theorem Passes.named {passed : String} (passes : store.Passes peel type passed) :
    ∃ key, peel type = .typedef key ∧
      (peel (.typedef key) = .typedef key → store.Passes peel (.typedef key) passed) := by
  cases passes with
  | here named => exact ⟨passed, named, fun own => .here own⟩
  | step named found rest => exact ⟨_, named, fun own => .step own found rest⟩

/-! A typedef that gets its underlying type: walks that ended at it go on. -/

structure Binds (store bound : Store) (key : String) (type : CType) : Prop where
  pending : store.underlying? key = none
  given : bound.underlying? key = some type
  others : ∀ other, other ≠ key → bound.underlying? other = store.underlying? other

namespace Binds

variable {bound : Store} {inner : CType}

theorem kept (binds : store.Binds bound key type) {other : String}
    (found : store.underlying? other = some inner) :
    bound.underlying? other = some inner := by
  have differs : other ≠ key := by
    intro equal
    subst equal
    simp [binds.pending] at found
  rw [binds.others other differs, found]

theorem unfolds (binds : store.Binds bound key type)
    (walk : store.Unfolds peel steps inner last) (apart : last ≠ .typedef key) :
    bound.Unfolds peel steps inner last := by
  induction walk with
  | stop final =>
      refine .stop fun other named => ?_
      rw [binds.others other fun same => apart (same ▸ named)]
      exact final other named
  | step named found _ induction =>
      exact .step named (binds.kept found) (induction apart)

theorem unfolds_cases (binds : store.Binds bound key type)
    (walk : bound.Unfolds peel steps inner last) :
    store.Unfolds peel steps inner last ∨
      ∃ before after, steps = before + 1 + after ∧
        store.Unfolds peel before inner (.typedef key) ∧
        bound.Unfolds peel after type last := by
  induction walk with
  | stop final =>
      refine .inl (.stop fun other named => ?_)
      have pending := final other named
      have differs : other ≠ key := by
        intro equal
        subst equal
        simp [binds.given] at pending
      rw [← binds.others other differs, pending]
  | @step outer next final passed steps named found rest induction =>
      by_cases same : passed = key
      · subst same
        obtain rfl : type = next := by simpa [binds.given] using found
        have stopped : store.Unfolds peel 0 outer (.typedef passed) := by
          rw [← named]
          refine .stop fun other named' => ?_
          obtain rfl : passed = other := by simpa [named] using named'
          exact binds.pending
        exact .inr ⟨0, steps, by omega, stopped, rest⟩
      · rw [binds.others passed same] at found
        rcases induction with walk | ⟨before, after, length, walk, rest⟩
        · exact .inl (.step named found walk)
        · exact .inr ⟨before + 1, after, by omega, .step named found walk, rest⟩

theorem unfolds_own (binds : store.Binds bound key type)
    (walk : bound.Unfolds peel steps type last) : store.Unfolds peel steps type last := by
  rcases binds.unfolds_cases walk with walk | ⟨before, after, length, -, rest⟩
  · exact walk
  · exact absurd (walk.unique rest).1 (by omega)

end Binds

/-! The functions that follow typedefs, as walks. -/

theorem targetWithin_of_unfolds (walk : store.Unfolds id steps type last)
    (enough : steps < fuel) : store.targetWithin fuel type = last := by
  induction walk generalizing fuel with
  | @stop type final =>
      obtain ⟨fuel, rfl⟩ := Nat.exists_eq_add_of_lt enough
      cases type <;> simp_all [targetWithin]
  | @step type inner last key steps named found rest induction =>
      obtain ⟨fuel, rfl⟩ : ∃ less, fuel = less + 1 := ⟨fuel - 1, by omega⟩
      have named : type = .typedef key := named
      subst named
      simpa [targetWithin, found] using induction (by omega)

theorem unfolds_of_targetWithin :
    (fuel : Nat) → (type : CType) → store.targetWithin fuel type = .compound key →
      ∃ steps, store.Unfolds id steps type (.compound key)
  | 0, type, found => by
      have same : type = .compound key := by simpa [targetWithin] using found
      subst same
      exact ⟨0, .stop (by simp)⟩
  | fuel + 1, .typedef other, found => by
      cases inner : store.underlying? other with
      | none => simp [targetWithin, inner] at found
      | some type =>
          have rest : store.targetWithin fuel type = .compound key := by
            simpa [targetWithin, inner] using found
          obtain ⟨steps, walk⟩ := unfolds_of_targetWithin fuel type rest
          exact ⟨steps + 1, .step rfl inner walk⟩
  | fuel + 1, .compound other, found => by
      have same : other = key := by simpa [targetWithin] using found
      exact ⟨0, same ▸ .stop (by simp)⟩
  | fuel + 1, .primitive _, found | fuel + 1, .pointer _ _, found
  | fuel + 1, .array _ _, found | fuel + 1, .function _ _ _, found
  | fuel + 1, .unsupported _, found => by simp [targetWithin] at found

theorem target_eq_compound_iff :
    store.target type = .compound key ↔
      ∃ steps, store.Unfolds id steps type (.compound key) :=
  ⟨unfolds_of_targetWithin _ type, fun ⟨_, walk⟩ =>
    targetWithin_of_unfolds walk walk.steps_lt⟩

theorem baseWithin_of_unfolds (walk : store.Unfolds CType.core steps type last)
    (enough : steps < fuel) : store.baseWithin fuel type = last := by
  induction walk generalizing fuel with
  | @stop type final =>
      obtain ⟨fuel, rfl⟩ : ∃ less, fuel = less + 1 := ⟨fuel - 1, by omega⟩
      rw [baseWithin, CType.baseWith_eq]
      cases core : type.core <;> simp_all
  | @step type inner last key steps named found rest induction =>
      obtain ⟨fuel, rfl⟩ : ∃ less, fuel = less + 1 := ⟨fuel - 1, by omega⟩
      rw [baseWithin, CType.baseWith_eq]
      simpa [named, found] using induction (by omega)

theorem unfolds_of_baseWithin {reason : String} :
    (fuel : Nat) → (type : CType) → store.baseWithin fuel type = .unsupported reason →
      ∃ steps, store.Unfolds CType.core steps type (.unsupported reason)
  | 0, type, found => by
      have same : type = .unsupported reason := by simpa [baseWithin] using found
      subst same
      exact ⟨0, .stop (by simp [CType.core])⟩
  | fuel + 1, type, found => by
      rw [baseWithin, CType.baseWith_eq] at found
      split at found
      · rename_i other core
        cases inner : store.underlying? other with
        | none => simp [inner] at found
        | some type' =>
            have rest : store.baseWithin fuel type' = .unsupported reason := by
              simpa [inner] using found
            obtain ⟨steps, walk⟩ := unfolds_of_baseWithin fuel type' rest
            exact ⟨steps + 1, .step core inner walk⟩
      · exact ⟨0, found ▸ .stop (by simp [found])⟩

theorem isUnsupported_iff :
    store.isUnsupported type = true ↔
      ∃ steps reason, store.Unfolds CType.core steps type (.unsupported reason) := by
  unfold isUnsupported base
  constructor
  · intro unsupported
    cases found : store.baseWithin (store.size + 1) type <;>
      simp [found, CType.isUnsupported] at unsupported
    obtain ⟨steps, walk⟩ := unfolds_of_baseWithin _ type found
    exact ⟨steps, _, walk⟩
  · intro given
    obtain ⟨steps, reason, walk⟩ := given
    simp [baseWithin_of_unfolds walk walk.steps_lt, CType.isUnsupported]

theorem isUnsupported_congr (same : ∀ key, grown.underlying? key = store.underlying? key) :
    grown.isUnsupported type = store.isUnsupported type := by
  rw [Bool.eq_iff_iff, isUnsupported_iff, isUnsupported_iff]
  simp only [unfolds_congr same]

theorem heldWithin_of_unfolds (walk : store.Unfolds CType.element steps type last)
    (enough : steps < fuel) :
    store.heldWithin fuel type = heldWith (fun _ => none) last := by
  induction walk generalizing fuel with
  | @stop type final =>
      obtain ⟨fuel, rfl⟩ : ∃ less, fuel = less + 1 := ⟨fuel - 1, by omega⟩
      rw [heldWithin, heldWith_eq, heldWith_eq, CType.element_element]
      cases element : type.element <;> simp_all
  | @step type inner last key steps named found rest induction =>
      obtain ⟨fuel, rfl⟩ : ∃ less, fuel = less + 1 := ⟨fuel - 1, by omega⟩
      rw [heldWithin, heldWith_eq]
      simpa [named, found] using induction (by omega)

theorem unfolds_of_heldWithin :
    (fuel : Nat) → (type : CType) → store.heldWithin fuel type = some key →
      ∃ steps, store.Unfolds CType.element steps type (.compound key)
  | 0, type, found => by simp [heldWithin] at found
  | fuel + 1, type, found => by
      rw [heldWithin, heldWith_eq] at found
      split at found
      · rename_i other element
        cases inner : store.underlying? other with
        | none => simp [inner] at found
        | some type' =>
            have rest : store.heldWithin fuel type' = some key := by
              simpa [inner] using found
            obtain ⟨steps, walk⟩ := unfolds_of_heldWithin fuel type' rest
            exact ⟨steps + 1, .step element inner walk⟩
      · rename_i other element
        have same : other = key := by simpa using found
        exact ⟨0, same ▸ element ▸ .stop (by simp [element])⟩
      · simp at found

theorem held?_eq_some_iff :
    store.held? type = some key ↔
      ∃ steps, store.Unfolds CType.element steps type (.compound key) :=
  ⟨unfolds_of_heldWithin _ type, fun ⟨_, walk⟩ =>
    heldWithin_of_unfolds walk walk.steps_lt⟩

theorem Unfolds.held (walk : store.Unfolds id steps type last)
    (reached : last = .compound key) :
    store.Unfolds CType.element steps type (.compound key) := by
  induction walk with
  | @stop type final =>
      have same : type = .compound key := reached
      subst same
      exact .stop (by simp [CType.element])
  | @step type inner last other steps named found rest induction =>
      have same : type = .typedef other := named
      subst same
      exact .step rfl found (induction reached)

end Store

end LuaBinder
