import LuaBinder.Proofs.Declaration.Unfolding

namespace LuaBinder

/-! The unsupported types that stand in the place of parts of a type, and those of them that
stand in the result of a function type without parameters. -/

mutual

/-- The reasons of the unsupported types anywhere in a type. -/
def CType.placeholders : CType → List String
  | .unsupported reason => [reason]
  | .pointer target _ => target.placeholders
  | .array element _ => element.placeholders
  | .function result params _ => result.placeholders ++ params.placeholders
  | _ => []

def Params.placeholders : Params → List String
  | .nil => []
  | .cons _ type rest => type.placeholders ++ rest.placeholders

end

mutual

def CType.barePlaceholders : CType → List String
  | .pointer target _ => target.barePlaceholders
  | .array element _ => element.barePlaceholders
  | .function result .nil _ => result.placeholders
  | .function result (.cons name type rest) _ =>
      result.barePlaceholders ++ (Params.cons name type rest).barePlaceholders
  | _ => []

def Params.barePlaceholders : Params → List String
  | .nil => []
  | .cons _ type rest => type.barePlaceholders ++ rest.barePlaceholders

end

mutual

theorem CType.barePlaceholders_subset : (type : CType) →
    type.barePlaceholders ⊆ type.placeholders
  | .pointer target _ => target.barePlaceholders_subset
  | .array element _ => element.barePlaceholders_subset
  | .function _ .nil _ => List.subset_append_left _ _
  | .function result (.cons _ type rest) _ =>
      List.append_subset.mpr
        ⟨List.subset_append_of_subset_left _ result.barePlaceholders_subset,
          List.subset_append_of_subset_right _
            (Params.barePlaceholders_subset (.cons _ type rest))⟩
  | .typedef _ | .primitive _ | .compound _ | .unsupported _ => List.nil_subset _

theorem Params.barePlaceholders_subset : (params : Params) →
    params.barePlaceholders ⊆ params.placeholders
  | .nil => List.nil_subset _
  | .cons _ type rest =>
      List.append_subset.mpr
        ⟨List.subset_append_of_subset_left _ type.barePlaceholders_subset,
          List.subset_append_of_subset_right _ rest.barePlaceholders_subset⟩

end

variable {reason : String}

theorem Params.mem_placeholders_ofList {params : List (String × CType)} :
    reason ∈ (Params.ofList params).placeholders ↔ ∃ p ∈ params, reason ∈ p.2.placeholders := by
  induction params with
  | nil => simp [ofList, placeholders]
  | cons head tail induction => simp [ofList, placeholders, induction]

theorem Params.mem_barePlaceholders_ofList {params : List (String × CType)} :
    reason ∈ (Params.ofList params).barePlaceholders ↔
      ∃ p ∈ params, reason ∈ p.2.barePlaceholders := by
  induction params with
  | nil => simp [ofList, barePlaceholders]
  | cons head tail induction => simp [ofList, barePlaceholders, induction]

namespace CType

theorem mem_barePlaceholders_function {result : CType} {params : List (String × CType)}
    {variadic : Bool}
    (found : reason ∈ result.barePlaceholders ∨ ∃ p ∈ params, reason ∈ p.2.barePlaceholders) :
    reason ∈ (CType.function result (.ofList params) variadic).barePlaceholders := by
  cases params with
  | nil =>
      have inResult : reason ∈ result.barePlaceholders := by simpa using found
      exact result.barePlaceholders_subset inResult
  | cons head tail =>
      rcases found with found | found
      · exact List.mem_append_left _ found
      · exact List.mem_append_right _ (Params.mem_barePlaceholders_ofList.mpr found)

/-! Pointers and arrays add none. -/

theorem placeholders_core : (type : CType) → type.core.placeholders = type.placeholders
  | .array inner _ => placeholders_core inner
  | .pointer target _ => placeholders_core target
  | .primitive _ | .compound _ | .typedef _ | .function _ _ _ | .unsupported _ => rfl

theorem barePlaceholders_core : (type : CType) →
    type.core.barePlaceholders = type.barePlaceholders
  | .array inner _ => barePlaceholders_core inner
  | .pointer target _ => barePlaceholders_core target
  | .primitive _ | .compound _ | .typedef _ | .function _ _ _ | .unsupported _ => rfl

end CType

namespace Store

variable {store : Store} {type : CType}

theorem isUnsupported_of_placeholder (core : type.core = .unsupported reason) :
    store.isUnsupported type = true := by
  have walk : store.Unfolds CType.core 0 type type.core :=
    .stop fun key named => by simp [core] at named
  exact isUnsupported_iff.mpr ⟨0, reason, core ▸ walk⟩

/-- A function type has a binding whatever it is built from. -/
theorem isUnsupported_of_barePlaceholders (hidden : type.barePlaceholders ≠ []) :
    store.isUnsupported type = false := by
  rw [← CType.barePlaceholders_core] at hidden
  unfold isUnsupported base
  rw [baseWithin, CType.baseWith_eq]
  cases core : type.core <;> simp_all [CType.barePlaceholders, CType.isUnsupported]

end Store

/-- A type with an unsupported part is unsupported itself, unless the part stands in the result
of a function type without parameters. -/
def CType.Propagates (type : CType) (bare : Prop) : Prop :=
  ∀ reason ∈ type.placeholders,
    type.core = .unsupported reason ∨ (bare ∧ reason ∈ type.barePlaceholders)

namespace CType.Propagates

variable {type result : CType} {params : List (String × CType)} {const variadic : Bool}
  {length : Option Int} {bare weaker : Prop} {store : Store}

theorem imp (propagates : type.Propagates bare) (implied : bare → weaker) :
    type.Propagates weaker :=
  fun reason found => (propagates reason found).imp_right fun hidden =>
    ⟨implied hidden.1, hidden.2⟩

theorem pointer (propagates : type.Propagates bare) :
    (CType.pointer type const).Propagates bare := propagates

theorem array (propagates : type.Propagates bare) :
    (CType.array type length).Propagates bare := propagates

/-- Supported types hide unsupported parts at most deep inside. -/
theorem hidden (propagates : type.Propagates bare) (supported : store.isUnsupported type = false)
    (found : reason ∈ type.placeholders) : bare ∧ reason ∈ type.barePlaceholders := by
  refine (propagates reason found).resolve_left fun core => ?_
  rw [Store.isUnsupported_of_placeholder core] at supported
  cases supported

theorem function (propagates : result.Propagates bare)
    (each : ∀ p ∈ params, p.2.Propagates bare)
    (supported : store.isUnsupported result = false)
    (usable : ∀ p ∈ params, store.isUnsupported p.2 = false) :
    (CType.function result (.ofList params) variadic).Propagates bare := by
  intro reason found
  right
  rcases List.mem_append.mp found with found | found
  · obtain ⟨holds, hidden⟩ := propagates.hidden supported found
    exact ⟨holds, mem_barePlaceholders_function (.inl hidden)⟩
  · obtain ⟨p, member, found⟩ := Params.mem_placeholders_ofList.mp found
    obtain ⟨holds, hidden⟩ := (each p member).hidden (usable p member) found
    exact ⟨holds, mem_barePlaceholders_function (.inr ⟨p, member, hidden⟩)⟩

/-- Without a prototype the result is not checked. -/
theorem bareFunction (holds : bare) : (CType.function result .nil variadic).Propagates bare := by
  intro reason found
  refine .inr ⟨holds, ?_⟩
  simpa [placeholders, Params.placeholders, barePlaceholders] using found

/-- Exactly the results of function types without parameters hide unsupported parts. -/
theorem hides_iff (propagates : type.Propagates bare) :
    type.placeholders ≠ [] ∧ store.isUnsupported type = false ↔ type.barePlaceholders ≠ [] := by
  constructor
  · intro hides
    obtain ⟨reason, found⟩ := List.exists_mem_of_ne_nil _ hides.1
    exact List.ne_nil_of_mem (propagates.hidden hides.2 found).2
  · intro hidden
    obtain ⟨reason, found⟩ := List.exists_mem_of_ne_nil _ hidden
    exact ⟨List.ne_nil_of_mem (type.barePlaceholders_subset found),
      Store.isUnsupported_of_barePlaceholders hidden⟩

end CType.Propagates

end LuaBinder
