import LuaBinder.Proofs.CType.Levels

namespace LuaBinder

open Grammar

/-! Which levels of a type are read as constant. -/

/-- What is read is constant itself. -/
def Grammar.Shape.isConst : Shape → Bool
  | .base const _ => const
  | .pointer const _ => const
  | _ => false

mutual

/-- The type is read with `const` at its levels: the target of a pointer, if it is no array and no
function, is constant exactly if the pointer says so. -/
def CType.Kept : CType → Shape → Prop
  | .pointer target const, .pointer _ inner =>
      (target.isSuffixed = false → inner.isConst = const) ∧ target.Kept inner
  | .array element _, .array _ inner => element.Kept inner
  | .function result params _, .function shapes _ inner => params.Kept shapes ∧ result.Kept inner
  | .primitive _, .base _ _ => True
  | .compound _, .base _ _ => True
  | .typedef _, .base _ _ => True
  | .unsupported _, .base _ _ => True
  | _, _ => False

def Params.Kept : Params → List Shape → Prop
  | .nil, [] => True
  | .cons _ type rest, shape :: shapes => type.Kept shape ∧ rest.Kept shapes
  | _, _ => False

end

def CType.isPointer : CType → Bool
  | .pointer _ _ => true
  | _ => false

mutual

/-- Somewhere in the type there is a pointer to constant pointers. -/
def CType.qualifiesPointer : CType → Bool
  | .pointer target const => const && target.isPointer || target.qualifiesPointer
  | .array element _ => element.qualifiesPointer
  | .function result params _ => params.qualifiesPointer || result.qualifiesPointer
  | _ => false

def Params.qualifiesPointer : Params → Bool
  | .nil => false
  | .cons _ type rest => type.qualifiesPointer || rest.qualifiesPointer

end

theorem Params.qualifiesPointer_of_isVoid {params : Params} (void : params.isVoid = true) :
    params.qualifiesPointer = false := by
  cases params with
  | nil => rfl
  | cons name type rest =>
      obtain ⟨rfl, rfl⟩ := Params.isVoid_cons.mp void
      rfl

mutual

theorem CType.qualifiesPointer_withoutVoid :
    (type : CType) → type.withoutVoid.qualifiesPointer = type.qualifiesPointer
  | .pointer target const => by
      have kept : target.withoutVoid.isPointer = target.isPointer := by cases target <;> rfl
      rw [CType.withoutVoid, CType.qualifiesPointer, CType.qualifiesPointer, kept,
        CType.qualifiesPointer_withoutVoid target]
  | .array element length => CType.qualifiesPointer_withoutVoid element
  | .function result params variadic => by
      rw [CType.withoutVoid, CType.qualifiesPointer, CType.qualifiesPointer,
        CType.qualifiesPointer_withoutVoid result]
      split_ifs with void
      · rw [Params.qualifiesPointer_of_isVoid (Bool.and_eq_true_iff.mp void).1]
        rfl
      · rw [Params.qualifiesPointer_withoutVoid params]
  | .primitive _ | .compound _ | .typedef _ | .unsupported _ => rfl

theorem Params.qualifiesPointer_withoutVoid :
    (params : Params) → params.withoutVoid.qualifiesPointer = params.qualifiesPointer
  | .nil => rfl
  | .cons name type rest => by
      rw [Params.withoutVoid, Params.qualifiesPointer, Params.qualifiesPointer,
        CType.qualifiesPointer_withoutVoid type, Params.qualifiesPointer_withoutVoid rest]

end

namespace Store

variable (store : Store)

theorem isConst_written (type : CType) : (store.written false type).isConst = false := by
  cases type <;> rfl

mutual

theorem kept_written_iff : (type : CType) →
    (type.Kept (store.written false type) ↔ type.qualifiesPointer = false)
  | .pointer target const => by
      have inner := kept_written_iff target
      cases const with
      | false => simp [CType.Kept, written, isConst_written, CType.qualifiesPointer, inner]
      | true =>
          cases target with
          | pointer further const =>
              simp [CType.Kept, written, CType.qualifiesPointer, CType.isSuffixed,
                CType.isPointer, Shape.isConst]
          | array element length =>
              simpa [CType.Kept, written, CType.qualifiesPointer, CType.isSuffixed,
                CType.isPointer] using inner
          | function result params variadic =>
              simpa [CType.Kept, written, CType.qualifiesPointer, CType.isSuffixed,
                CType.isPointer] using inner
          | _ =>
              simp [CType.Kept, written, CType.qualifiesPointer, CType.isSuffixed,
                CType.isPointer, Shape.isConst]
  | .array element length => kept_written_iff element
  | .function result params variadic => by
      simp [CType.Kept, written, CType.qualifiesPointer, kept_written_iff result,
        kept_writtenAll_iff params]
  | .primitive _ | .compound _ | .typedef _ | .unsupported _ => iff_of_true trivial rfl

theorem kept_writtenAll_iff : (params : Params) →
    (params.Kept (store.writtenAll params) ↔ params.qualifiesPointer = false)
  | .nil => iff_of_true trivial rfl
  | .cons name type rest => by
      simp [Params.Kept, writtenAll, Params.qualifiesPointer, kept_written_iff type,
        kept_writtenAll_iff rest]

end

end Store

namespace Store

variable (store : Store) {types : String → Bool}

/-- `char *const *`, a pointer to constant pointers. -/
def constantPointers : CType := .pointer (.pointer .char false) true

/-- `const char **`, a pointer to pointers to constant characters. -/
def constantTexts : CType := .pointer (.pointer .char true) false

end Store

end LuaBinder
