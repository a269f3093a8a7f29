import LuaBinder.CType.Basic

namespace LuaBinder

/-! The typedefs that a type mentions, and those of them that it mentions in the result
of a function type without parameters. -/

mutual

def CType.typedefs : CType → List String
  | .typedef key => [key]
  | .pointer target _ => target.typedefs
  | .array element _ => element.typedefs
  | .function result params _ => result.typedefs ++ params.typedefs
  | _ => []

def Params.typedefs : Params → List String
  | .nil => []
  | .cons _ type rest => type.typedefs ++ rest.typedefs

end

mutual

def CType.bareTypedefs : CType → List String
  | .pointer target _ => target.bareTypedefs
  | .array element _ => element.bareTypedefs
  | .function result .nil _ => result.typedefs
  | .function result (.cons name type rest) _ =>
      result.bareTypedefs ++ (Params.cons name type rest).bareTypedefs
  | _ => []

def Params.bareTypedefs : Params → List String
  | .nil => []
  | .cons _ type rest => type.bareTypedefs ++ rest.bareTypedefs

end

mutual

theorem CType.typedefs_subset_mentions : (type : CType) → type.typedefs ⊆ type.mentions
  | .typedef _ => List.Subset.refl _
  | .pointer target _ => target.typedefs_subset_mentions
  | .array element _ => element.typedefs_subset_mentions
  | .function result params _ =>
      List.append_subset.mpr
        ⟨List.subset_append_of_subset_left _ result.typedefs_subset_mentions,
          List.subset_append_of_subset_right _ params.typedefs_subset_mentions⟩
  | .primitive _ | .compound _ | .unsupported _ => List.nil_subset _

theorem Params.typedefs_subset_mentions : (params : Params) →
    params.typedefs ⊆ params.mentions
  | .nil => List.nil_subset _
  | .cons _ type rest =>
      List.append_subset.mpr
        ⟨List.subset_append_of_subset_left _ type.typedefs_subset_mentions,
          List.subset_append_of_subset_right _ rest.typedefs_subset_mentions⟩

end

mutual

theorem CType.bareTypedefs_subset : (type : CType) → type.bareTypedefs ⊆ type.typedefs
  | .pointer target _ => target.bareTypedefs_subset
  | .array element _ => element.bareTypedefs_subset
  | .function _ .nil _ => List.subset_append_left _ _
  | .function result (.cons _ type rest) _ =>
      List.append_subset.mpr
        ⟨List.subset_append_of_subset_left _ result.bareTypedefs_subset,
          List.subset_append_of_subset_right _
            (Params.bareTypedefs_subset (.cons _ type rest))⟩
  | .typedef _ | .primitive _ | .compound _ | .unsupported _ => List.nil_subset _

theorem Params.bareTypedefs_subset : (params : Params) →
    params.bareTypedefs ⊆ params.typedefs
  | .nil => List.nil_subset _
  | .cons _ type rest =>
      List.append_subset.mpr
        ⟨List.subset_append_of_subset_left _ type.bareTypedefs_subset,
          List.subset_append_of_subset_right _ rest.bareTypedefs_subset⟩

end

variable {key : String}

theorem Params.mem_typedefs_ofList {params : List (String × CType)} :
    key ∈ (Params.ofList params).typedefs ↔ ∃ p ∈ params, key ∈ p.2.typedefs := by
  induction params with
  | nil => simp [ofList, typedefs]
  | cons head tail induction => simp [ofList, typedefs, induction]

theorem Params.mem_mentions_ofList {params : List (String × CType)} :
    key ∈ (Params.ofList params).mentions ↔ ∃ p ∈ params, key ∈ p.2.mentions := by
  induction params with
  | nil => simp [ofList, mentions]
  | cons head tail induction => simp [ofList, mentions, induction]

theorem Params.mem_bareTypedefs_ofList {params : List (String × CType)}
    {p : String × CType} (found : p ∈ params) (mentioned : key ∈ p.2.bareTypedefs) :
    key ∈ (Params.ofList params).bareTypedefs := by
  induction params with
  | nil => simp at found
  | cons head tail induction =>
      rcases List.mem_cons.mp found with rfl | found
      · simp [ofList, bareTypedefs, mentioned]
      · simp [ofList, bareTypedefs, induction found]

/-- A typedef in the result of a parameterless function type anywhere inside a function
type is one of the function type. -/
theorem CType.mem_bareTypedefs_function {result : CType} {params : List (String × CType)}
    {variadic : Bool}
    (found : key ∈ result.bareTypedefs ∨ ∃ p ∈ params, key ∈ p.2.bareTypedefs) :
    key ∈ (CType.function result (.ofList params) variadic).bareTypedefs := by
  cases params with
  | nil =>
      have inResult : key ∈ result.bareTypedefs := by simpa using found
      exact result.bareTypedefs_subset inResult
  | cons head tail =>
      rcases found with found | ⟨p, member, found⟩
      · exact List.mem_append_left _ found
      · exact List.mem_append_right _ (Params.mem_bareTypedefs_ofList member found)

/-! The other declarations that a type mentions. -/

mutual

def CType.compounds : CType → List String
  | .compound key => [key]
  | .pointer target _ => target.compounds
  | .array element _ => element.compounds
  | .function result params _ => result.compounds ++ params.compounds
  | _ => []

def Params.compounds : Params → List String
  | .nil => []
  | .cons _ type rest => type.compounds ++ rest.compounds

end

mutual

theorem CType.compounds_subset_mentions : (type : CType) → type.compounds ⊆ type.mentions
  | .compound _ => List.Subset.refl _
  | .pointer target _ => target.compounds_subset_mentions
  | .array element _ => element.compounds_subset_mentions
  | .function result params _ =>
      List.append_subset.mpr
        ⟨List.subset_append_of_subset_left _ result.compounds_subset_mentions,
          List.subset_append_of_subset_right _ params.compounds_subset_mentions⟩
  | .primitive _ | .typedef _ | .unsupported _ => List.nil_subset _

theorem Params.compounds_subset_mentions : (params : Params) →
    params.compounds ⊆ params.mentions
  | .nil => List.nil_subset _
  | .cons _ type rest =>
      List.append_subset.mpr
        ⟨List.subset_append_of_subset_left _ type.compounds_subset_mentions,
          List.subset_append_of_subset_right _ rest.compounds_subset_mentions⟩

end

theorem Params.mem_compounds_ofList {params : List (String × CType)} :
    key ∈ (Params.ofList params).compounds ↔ ∃ p ∈ params, key ∈ p.2.compounds := by
  induction params with
  | nil => simp [ofList, compounds]
  | cons head tail induction => simp [ofList, compounds, induction]

end LuaBinder
