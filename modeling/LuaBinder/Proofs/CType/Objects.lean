import LuaBinder.Proofs.CType.Qualifiers

namespace LuaBinder

open Grammar

/-! Declarations of objects: `const` next to the name makes the object constant, and the length of
an array may be left out. -/

namespace Grammar

/-- The object is constant: an array if its elements are. -/
def Shape.isReadOnly : Shape → Bool
  | .base const _ => const
  | .pointer const _ => const
  | .array _ element => element.isReadOnly
  | .function _ _ result => result.isReadOnly

/-- The same as a constant object. -/
def Shape.readOnly : Shape → Shape
  | .base _ specified => .base true specified
  | .pointer _ target => .pointer true target
  | .array length element => .array length element.readOnly
  | .function params variadic result => .function params variadic result.readOnly

theorem Shape.isReadOnly_readOnly : (shape : Shape) → shape.readOnly.isReadOnly = true
  | .base _ _ | .pointer _ _ => rfl
  | .array _ element => element.isReadOnly_readOnly
  | .function _ _ result => result.isReadOnly_readOnly

theorem Shape.unqualified_readOnly : (shape : Shape) →
    shape.readOnly.unqualified = shape.unqualified
  | .base _ _ | .pointer _ _ => rfl
  | .array length element => congrArg (Shape.array length) element.unqualified_readOnly
  | .function params variadic result =>
      congrArg (Shape.function (unqualifiedAll params) variadic) result.unqualified_readOnly

variable {types : String → Bool}

/-- Between a type and what it is the type of, `const` still qualifies the type. -/
theorem reads_leaf_const (base : Base) (valid : base.Valid types) {spelled text : String}
    (spelling : tokens spelled = base.words.map .word) {name : Option String}
    {layers : List Layer} (declares : Declares types (tokens text) name layers) :
    Reads types (tokens (nameThen spelled ("const " ++ text))) name
      fun _ => Shape.ofLayers layers (.base true base) := by
  obtain ⟨word, others, written, starts, single⟩ := valid.specifies.starts
  refine ⟨true, base, layers, ?_, fun more => by rw [Bool.or_true]⟩
  rw [tokens_nameThen, tokens_const, spelling]
  constructor
  · exact ⟨word, _, by rw [written, List.cons_append], starts⟩
  · intro rest _ void
    rw [written, List.cons_append, List.cons_append] at void
    obtain ⟨same, closed⟩ := noParameters?_word void
    rw [(single same).1] at closed
    cases closed
  · refine ⟨tokens text, ?_, declares, fun rest ends => ?_⟩
    · rw [List.length_append, List.length_cons]
      omega
    · rw [List.append_assoc, valid.specifiers_words, List.cons_append]
      unfold specifiers
      simp [specifiers_of_stops (declares.stops.append ends.stops)]

end Grammar

/-- The levels below the object are the same. -/
theorem CType.kept_readOnly_iff (type : CType) (shape : Shape) :
    type.Kept shape.readOnly ↔ type.Kept shape := by
  cases shape with
  | base const specified => cases type <;> rfl
  | pointer const target => cases type <;> rfl
  | array length inner =>
      cases type with
      | array element _ => exact element.kept_readOnly_iff inner
      | _ => rfl
  | function shapes variadic inner =>
      cases type with
      | function result params _ => exact and_congr_right fun _ => result.kept_readOnly_iff inner
      | _ => rfl

namespace Store

variable (store : Store) {types : String → Bool}

theorem isReadOnly_written : (type : CType) → (store.written false type).isReadOnly = false
  | .array element _ => isReadOnly_written element
  | .function result _ _ => isReadOnly_written result
  | .primitive _ | .compound _ | .typedef _ | .unsupported _ | .pointer _ _ => rfl

/-- With `const` next to it, a declarator declares a constant object. -/
theorem reads_constant : (type : CType) → store.Named types type → {text : String} →
    {name : Option String} → {layers : List Layer} →
    Declares types (tokens text) name layers →
    (type.isSuffixed = true → Direct types (tokens text) name layers) →
    Reads types (tokens (type.declare store.spelling ("const " ++ text))) name
      fun more => Shape.ofLayers layers (store.written more type.withoutVoid).readOnly
  | .array element length, named, text, _, layers, declares, direct => by
      have inside : "const " ++ text ++ "[" ++ lengthText length ++ "]" =
          "const " ++ (text ++ "[" ++ lengthText length ++ "]") := by
        simp only [String.append_assoc]
      rw [CType.declare_array, inside]
      have longer := (direct rfl).array (arrayLength_tokens length)
      rw [← tokens_array] at longer
      have read := reads_constant element named longer.declares fun _ => longer
      simpa only [ofLayers_append, Layer.wrap, CType.withoutVoid, written, Shape.readOnly] using read
  | .function result params variadic, named, text, _, layers, declares, direct => by
      have inside (listed : String) : "const " ++ text ++ "(" ++ listed ++ ")" =
          "const " ++ (text ++ "(" ++ listed ++ ")") := by
        simp only [String.append_assoc]
      rw [CType.declare, inside]
      have longer := (direct rfl).function
        (store.enclosed_declareAll named.2 (store.reads_namedAll params named.2) variadic)
      rw [← tokens_function] at longer
      have read := reads_constant result named.1 longer.declares fun _ => longer
      simpa only [ofLayers_append, Layer.wrap, CType.withoutVoid, written, Shape.readOnly] using read
  | .pointer target const, named, text, _, layers, declares, _ => by
      have kept := target.isSuffixed_withoutVoid
      have longer := declares.constantPointer
      rw [← tokens_const] at longer
      cases suffixed : target.isSuffixed with
      | true =>
          rw [CType.declare_pointer_of_isSuffixed _ suffixed]
          have longer := longer.enclosed
          rw [← tokens_parenthesized] at longer
          have read := store.reads_named target named longer.declares fun _ => longer
          simpa only [ofLayers_append, Layer.wrap, CType.withoutVoid, written, kept, suffixed,
            Bool.not_true, Bool.and_false, Bool.or_false, Shape.readOnly] using read
      | false =>
          rw [CType.declare_pointer _ suffixed]
          rw [← tokens_star] at longer
          have read := store.reads_named target named longer fun other => by
            rw [suffixed] at other
            cases other
          cases const with
          | false =>
              rw [if_neg Bool.false_ne_true]
              simpa only [ofLayers_append, Layer.wrap, CType.withoutVoid, written,
                Bool.false_and, Bool.or_false, Shape.readOnly] using read
          | true =>
              rw [if_pos rfl, tokens_const]
              simpa only [ofLayers_append, Layer.wrap, CType.withoutVoid, written, kept, suffixed,
                Bool.not_false, Bool.and_true, Bool.or_true, Shape.readOnly] using read.const
  | .primitive primitive, named, _, _, _, declares, _ => by
      rw [CType.declare]
      exact reads_leaf_const _ (valid_primitive types named) primitive.tokens_spelling declares
  | .compound key, named, _, _, _, declares, _ => by
      obtain ⟨valid, spelled⟩ := store.compound_spelled types named
      rw [CType.declare]
      exact reads_leaf_const _ valid spelled declares
  | .typedef key, named, _, _, _, declares, _ => by
      obtain ⟨valid, spelled⟩ := store.typedef_spelled types named
      rw [CType.declare]
      exact reads_leaf_const _ valid spelled declares
  | .unsupported _, named, _, _, _, _, _ => named.elim

/-- How an object of the type is read. -/
def object (type : CType) (const : Bool) : Shape :=
  if const then (store.written false type.withoutVoid).readOnly
  else store.written false type.withoutVoid

theorem readDeclaration?_object {type : CType} (named : store.Named types type) {name : String}
    (identifier : isIdentifier name = true) (const : Bool) :
    readDeclaration? types (store.declare type (if const then "const " ++ name else name)) =
      some (some name, store.object type const) := by
  have direct : Direct types (tokens name) (some name) [] := by
    rw [tokens_identifier identifier]
    exact direct_named identifier
  cases const with
  | false => exact (store.reads_named type named direct.declares fun _ => direct).readDeclaration?
  | true => exact (store.reads_constant type named direct.declares fun _ => direct).readDeclaration?

/-- It is the nest of the layers of the type, it is constant itself as declared, and it has `const`
at the levels of the type unless that has a pointer to constant pointers. -/
structure ReadsAs (type : CType) (const : Bool) (shape : Shape) : Prop where
  nest : shape.unqualified = store.nest type.withoutVoid
  object : shape.isReadOnly = const
  levels : type.withoutVoid.Kept shape ↔ type.qualifiesPointer = false

theorem readsAs_object (type : CType) (const : Bool) :
    store.ReadsAs type const (store.object type const) where
  nest := by
    cases const with
    | false => exact store.unqualified_written false type.withoutVoid
    | true =>
        rw [object, if_pos rfl, Shape.unqualified_readOnly]
        exact store.unqualified_written false type.withoutVoid
  object := by
    cases const with
    | false => exact store.isReadOnly_written type.withoutVoid
    | true => exact Shape.isReadOnly_readOnly _
  levels := by
    have kept := store.kept_written_iff type.withoutVoid
    rw [CType.qualifiesPointer_withoutVoid] at kept
    cases const with
    | false => exact kept
    | true => exact (CType.kept_readOnly_iff _ _).trans kept

end Store

namespace Grammar

theorem isIdentifier_append {name suffix : String} (identifier : isIdentifier name = true)
    (letters : suffix.toList.all isWordChar = true)
    (apart : keywords.any (fun keyword => suffix.toList.isSuffixOf keyword.toList) = false) :
    isIdentifier (name ++ suffix) = true := by
  rw [isIdentifier, Bool.and_eq_true] at identifier
  have other : name ++ suffix ∉ keywords := by
    intro keyword
    refine Bool.eq_false_iff.mp apart (List.any_eq_true.mpr ⟨_, keyword, ?_⟩)
    rw [List.isSuffixOf_iff_suffix, String.toList_append]
    exact List.suffix_append _ _
  have text : isIdentifierText (name ++ suffix).toList = true := by
    rw [String.toList_append]
    cases written : name.toList with
    | nil =>
        rw [written] at identifier
        exact absurd identifier.1 (by decide)
    | cons c rest =>
        have own := identifier.1
        rw [written, isIdentifierText, Bool.and_eq_true, List.all_eq_true] at own
        rw [List.cons_append, isIdentifierText, Bool.and_eq_true, List.all_eq_true]
        refine ⟨own.1, fun d member => ?_⟩
        rw [← List.cons_append, List.mem_append] at member
        exact member.elim (own.2 d) (List.all_eq_true.mp letters d)
  rw [isIdentifier, text, Bool.true_and, Bool.not_eq_true', ← Bool.not_eq_true,
    List.contains_iff_mem]
  exact other

variable (opens : String → Bool)

/-- An array without a length; `opens` are the names of types that stand for one. -/
def Shape.isOpen : Shape → Bool
  | .array none _ => true
  | .base _ (.named name) => opens name
  | _ => false

mutual

/-- Somewhere in it there is an array of arrays without a length. -/
def Shape.hasOpenRows : Shape → Bool
  | .base _ _ => false
  | .pointer _ target => target.hasOpenRows
  | .array _ element => element.isOpen opens || element.hasOpenRows
  | .function params _ result => hasOpenRowsAny params || result.hasOpenRows

def Shape.hasOpenRowsAny : List Shape → Bool
  | [] => false
  | shape :: shapes => shape.hasOpenRows || hasOpenRowsAny shapes

end

theorem Shape.isOpen_unqualified (shape : Shape) :
    shape.unqualified.isOpen opens = shape.isOpen opens := by
  cases shape with
  | base const specified => cases specified <;> rfl
  | array length element => cases length <;> rfl
  | _ => rfl

mutual

theorem Shape.hasOpenRows_unqualified : (shape : Shape) →
    shape.unqualified.hasOpenRows opens = shape.hasOpenRows opens
  | .base _ _ => rfl
  | .pointer _ target => target.hasOpenRows_unqualified
  | .array _ element =>
      congrArg₂ (· || ·) (element.isOpen_unqualified opens) element.hasOpenRows_unqualified
  | .function params _ result =>
      congrArg₂ (· || ·) (hasOpenRowsAny_unqualifiedAll params) result.hasOpenRows_unqualified

theorem Shape.hasOpenRowsAny_unqualifiedAll : (shapes : List Shape) →
    hasOpenRowsAny opens (unqualifiedAll shapes) = hasOpenRowsAny opens shapes
  | [] => rfl
  | shape :: shapes =>
      congrArg₂ (· || ·) shape.hasOpenRows_unqualified (hasOpenRowsAny_unqualifiedAll shapes)

end

end Grammar

end LuaBinder
