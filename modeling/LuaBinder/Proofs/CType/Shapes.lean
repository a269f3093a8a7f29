import LuaBinder.Declaration.Store
import LuaBinder.Proofs.CType.Parameters

namespace LuaBinder

open Grammar Text

/-! The declarations of a type, read as C reads them: the name comes back, with the nest
of pointers, arrays and functions that the type is. -/

namespace Grammar

def Base.words : Base → List String
  | .basic words => words
  | .tagged keyword tag => [keyword, tag]
  | .named name => [name]

/-- Whether the specifiers can be read: the name of a type has to be known as one. -/
def Base.Valid (types : String → Bool) : Base → Prop
  | .basic words => words ≠ [] ∧ (∀ word ∈ words, word ∈ basicWords) ∧
      (words.head? = some "void" → words = ["void"])
  | .tagged keyword tag => keyword ∈ tagWords ∧ isIdentifier tag = true
  | .named name => isIdentifier name = true ∧ types name = true

variable {types : String → Bool}

theorem specifiers_basic (words : List String) (basic : ∀ word ∈ words, word ∈ basicWords)
    (front : List String) (rest : List Token) :
    specifiers types (some (.basic front)) (words.map .word ++ rest) =
      specifiers types (some (.basic (front ++ words))) rest := by
  induction words generalizing front with
  | nil => simp
  | cons word words induction =>
      have own := basic word List.mem_cons_self
      have other : word ≠ "const" := by
        rintro rfl
        revert own
        decide
      rw [List.map_cons, List.cons_append, specifiers, if_neg (by simp [other]), if_pos (by simp [own]),
        induction fun w member => basic w (.tail word member)]
      simp

/-- Behind its words the base is known. -/
theorem Base.Valid.specifiers_words {base : Base} (valid : base.Valid types) (rest : List Token) :
    specifiers types none (base.words.map .word ++ rest) = specifiers types (some base) rest := by
  cases base with
  | basic words =>
      obtain ⟨given, basic, -⟩ := valid
      obtain ⟨word, words, rfl⟩ := List.exists_cons_of_ne_nil given
      have own := basic word List.mem_cons_self
      have other : word ≠ "const" := by
        rintro rfl
        revert own
        decide
      rw [Base.words, List.map_cons, List.cons_append]
      conv_lhs => unfold specifiers
      simp [other, own, specifiers_basic words fun w member => basic w (.tail word member)]
  | tagged keyword tag =>
      obtain ⟨tagWord, identifier⟩ := valid
      have other : keyword ≠ "const" ∧ keyword ∉ basicWords := by
        revert keyword
        decide
      rw [Base.words, List.map_cons, List.map_singleton, List.cons_append]
      conv_lhs => unfold specifiers
      simp [other, tagWord, identifier]
  | named name =>
      obtain ⟨identifier, known⟩ := valid
      obtain ⟨const, basic, tag⟩ := not_mem_of_isIdentifier identifier
      rw [Base.words, List.map_singleton, List.cons_append]
      conv_lhs => unfold specifiers
      simp [const, basic, tag, known]

theorem Base.Valid.specifies {base : Base} (valid : base.Valid types) :
    Specifies types (base.words.map .word) base := by
  refine ⟨?_, fun rest stops => by rw [valid.specifiers_words, specifiers_of_stops stops]⟩
  cases base with
  | basic words =>
      obtain ⟨given, basic, single⟩ := valid
      obtain ⟨word, words, rfl⟩ := List.exists_cons_of_ne_nil given
      refine ⟨word, words.map .word, rfl, by simp [startsType, basic word List.mem_cons_self], ?_⟩
      rintro rfl
      obtain ⟨-, rfl⟩ := List.cons.inj (single rfl)
      exact ⟨rfl, rfl⟩
  | tagged keyword tag =>
      refine ⟨keyword, [.word tag], rfl, by simp [startsType, valid.1], ?_⟩
      rintro rfl
      exact absurd valid.1 (by decide)
  | named name =>
      refine ⟨name, [], rfl, by simp [startsType, valid.2], ?_⟩
      rintro rfl
      exact absurd valid.1 (by decide)

end Grammar

/-- What names a primitive type: keywords, or the name of a type. -/
def Primitive.base : Primitive → Base
  | .void => .basic ["void"] | .char => .basic ["char"] | .short => .basic ["short"]
  | .ushort => .basic ["unsigned", "short"] | .int => .basic ["int"]
  | .uint => .basic ["unsigned", "int"] | .long => .basic ["long"]
  | .ulong => .basic ["unsigned", "long"] | .longlong => .basic ["long", "long"]
  | .ulonglong => .basic ["unsigned", "long", "long"] | .schar => .basic ["signed", "char"]
  | .uchar => .basic ["unsigned", "char"] | .float => .basic ["float"]
  | .double => .basic ["double"]
  | primitive => .named primitive.spelling

theorem Primitive.tokens_spelling (primitive : Primitive) :
    tokens primitive.spelling = primitive.base.words.map .word := by
  cases primitive <;> decide

/-- What names a compound: its keyword and its tag, or for an interface its name. -/
def Declaration.base (d : Declaration) : Base :=
  match d.body with
  | .record kind _ _ => .tagged kind.keyword d.nativeName
  | .enumeration _ _ => .tagged "enum" d.nativeName
  | _ => .named d.nativeName

theorem Declaration.tokens_spelling {d : Declaration} (compound : d.isCompound = true)
    (identifier : isIdentifier d.nativeName = true) :
    tokens d.spelling = d.base.words.map .word := by
  have spelled (keyword : String) (word : tokens keyword = [.word keyword]) :
      tokens (String.ofList (trim (keyword ++ " " ++ d.nativeName).toList)) =
        [.word keyword, .word d.nativeName] := by
    have text : (keyword ++ " " ++ d.nativeName).toList =
        keyword.toList ++ ' ' :: d.nativeName.toList := by simp
    rw [tokens, String.toList_ofList, lex_trim, text, lex_append (by decide)]
    exact congrArg₂ (· ++ separator ' ' ++ ·) word (tokens_identifier identifier)
  rw [Declaration.isCompound] at compound
  rw [Declaration.spelling, Declaration.base]
  cases body : d.body with
  | record kind incomplete members =>
      cases kind with
      | struct => exact spelled "struct" (by decide)
      | union => exact spelled "union" (by decide)
  | enumeration incomplete constants => exact spelled "enum" (by decide)
  | interface incomplete superclass methods => exact tokens_identifier identifier
  | function f => rw [body] at compound; cases compound
  | typedef underlying => rw [body] at compound; cases compound
  | «global» type const exposesAddress => rw [body] at compound; cases compound
  | constant rawType value => rw [body] at compound; cases compound

/-- Arrays and functions are written behind the name. -/
def CType.isSuffixed : CType → Bool
  | .array _ _ => true
  | .function _ _ _ => true
  | _ => false

theorem CType.declare_pointer_of_isSuffixed (spelling : Spelling) {target : CType}
    (suffixed : target.isSuffixed = true) (const : Bool) (name : String) :
    (CType.pointer target const).declare spelling name =
      target.declare spelling ("(*" ++ name ++ ")") := by
  cases target with
  | array element length => rw [CType.declare]
  | function result params variadic => rw [CType.declare]
  | _ => cases suffixed

theorem CType.declare_pointer (spelling : Spelling) {target : CType}
    (plain : target.isSuffixed = false) (const : Bool) (name : String) :
    (CType.pointer target const).declare spelling name =
      if const then "const " ++ target.declare spelling ("*" ++ name)
      else target.declare spelling ("*" ++ name) := by
  cases target with
  | array element length => cases plain
  | function result params variadic => cases plain
  | _ => simp [CType.declare]

theorem CType.declare_array (spelling : Spelling) (element : CType) (length : Option Int)
    (name : String) : (CType.array element length).declare spelling name =
      element.declare spelling (name ++ "[" ++ lengthText length ++ "]") := by
  cases length <;> simp [CType.declare, lengthText]

/-- Plain `void` as the only parameter stands for none. -/
def Params.isVoid : Params → Bool
  | .cons _ (.primitive .void) .nil => true
  | _ => false

mutual

/-- The same type, with no parameters where plain `void` is the only one. -/
def CType.withoutVoid : CType → CType
  | .pointer target const => .pointer target.withoutVoid const
  | .array element length => .array element.withoutVoid length
  | .function result params variadic =>
      .function result.withoutVoid
        (if params.isVoid && !variadic then .nil else params.withoutVoid) variadic
  | type => type

def Params.withoutVoid : Params → Params
  | .nil => .nil
  | .cons name type rest => .cons name type.withoutVoid rest.withoutVoid

end

theorem CType.isSuffixed_withoutVoid (type : CType) :
    type.withoutVoid.isSuffixed = type.isSuffixed := by
  cases type <;> rfl

theorem Params.isVoid_cons {name : String} {type : CType} {rest : Params} :
    (Params.cons name type rest).isVoid = true ↔ type = .void ∧ rest = .nil := by
  constructor
  · intro void
    unfold Params.isVoid at void
    split at void
    · next same =>
        cases same
        exact ⟨rfl, rfl⟩
    · cases void
  · rintro ⟨rfl, rfl⟩
    rfl

namespace Store

variable (store : Store)

def compoundBase (key : String) : Base :=
  match store.lookup? key with
  | some d => d.base
  | none => .named ""

def typedefName (key : String) : String := ((store.lookup? key).map (·.nativeName)).getD ""

mutual

/-- The layers of a type around what it is made of, without qualifiers. -/
def nest : CType → Shape
  | .primitive primitive => .base false primitive.base
  | .pointer target _ => .pointer false (nest target)
  | .array element length => .array length (nest element)
  | .compound key => .base false (store.compoundBase key)
  | .typedef key => .base false (.named (store.typedefName key))
  | .function result params variadic => .function (nestAll params) variadic (nest result)
  | .unsupported _ => .base false (.named "")

def nestAll : Params → List Shape
  | .nil => []
  | .cons _ type rest => nest type :: nestAll rest

end

mutual

/-- The same with the qualifiers of its declarations: `const` is written in front of
everything, and so it is the base that is qualified. -/
def written (const : Bool) : CType → Shape
  | .primitive primitive => .base const primitive.base
  | .pointer target constTarget =>
      .pointer false (written (const || (constTarget && !target.isSuffixed)) target)
  | .array element length => .array length (written const element)
  | .compound key => .base const (store.compoundBase key)
  | .typedef key => .base const (.named (store.typedefName key))
  | .function result params variadic =>
      .function (writtenAll params) variadic (written const result)
  | .unsupported _ => .base const (.named "")

def writtenAll : Params → List Shape
  | .nil => []
  | .cons _ type rest => written false type :: writtenAll rest

end

end Store

namespace Grammar

mutual

def Shape.unqualified : Shape → Shape
  | .base _ specified => .base false specified
  | .pointer _ target => .pointer false target.unqualified
  | .array length element => .array length element.unqualified
  | .function params variadic result =>
      .function (unqualifiedAll params) variadic result.unqualified

def Shape.unqualifiedAll : List Shape → List Shape
  | [] => []
  | shape :: shapes => shape.unqualified :: unqualifiedAll shapes

end

end Grammar

namespace Store

variable (store : Store) (types : String → Bool)

mutual

theorem unqualified_written (const : Bool) :
    (type : CType) → (store.written const type).unqualified = store.nest type
  | .primitive _ | .compound _ | .typedef _ | .unsupported _ => rfl
  | .pointer target _ => congrArg (Shape.pointer false) (unqualified_written _ target)
  | .array element length => congrArg (Shape.array length) (unqualified_written const element)
  | .function result params variadic =>
      congrArg₂ (Shape.function · variadic ·) (unqualified_writtenAll params)
        (unqualified_written const result)

theorem unqualified_writtenAll :
    (params : Params) → Shape.unqualifiedAll (store.writtenAll params) = store.nestAll params
  | .nil => rfl
  | .cons _ type rest =>
      congrArg₂ List.cons (unqualified_written false type) (unqualified_writtenAll rest)

end

mutual

/-- Types with names for all that they are made of, those of types being known, and
without plain `void` as a parameter. -/
def Readable : CType → Prop
  | .primitive primitive => ∀ name, primitive.base = .named name → types name = true
  | .pointer target _ => Readable target
  | .array element _ => Readable element
  | .compound key => ∃ d, store.lookup? key = some d ∧ d.isCompound = true ∧
      isIdentifier d.nativeName = true ∧
      (d.kind = .interface → types d.nativeName = true)
  | .typedef key => ∃ d, store.lookup? key = some d ∧ isIdentifier d.nativeName = true ∧
      types d.nativeName = true
  | .function result params _ => Readable result ∧ ReadableAll params
  | .unsupported _ => False

def ReadableAll : Params → Prop
  | .nil => True
  | .cons _ type rest => type ≠ .void ∧ Readable type ∧ ReadableAll rest

end

mutual

/-- Types with names for all that they are made of, those of types being known. -/
def Named : CType → Prop
  | .primitive primitive => ∀ name, primitive.base = .named name → types name = true
  | .pointer target _ => Named target
  | .array element _ => Named element
  | .compound key => ∃ d, store.lookup? key = some d ∧ d.isCompound = true ∧
      isIdentifier d.nativeName = true ∧
      (d.kind = .interface → types d.nativeName = true)
  | .typedef key => ∃ d, store.lookup? key = some d ∧ isIdentifier d.nativeName = true ∧
      types d.nativeName = true
  | .function result params _ => Named result ∧ NamedAll params
  | .unsupported _ => False

def NamedAll : Params → Prop
  | .nil => True
  | .cons _ type rest => Named type ∧ NamedAll rest

end

mutual

theorem named_of_readable : (type : CType) → store.Readable types type →
    store.Named types type ∧ type.withoutVoid = type
  | .primitive _, readable => ⟨readable, rfl⟩
  | .compound _, readable => ⟨readable, rfl⟩
  | .typedef _, readable => ⟨readable, rfl⟩
  | .pointer target const, readable => by
      obtain ⟨named, kept⟩ := named_of_readable target readable
      exact ⟨named, by rw [CType.withoutVoid, kept]⟩
  | .array element length, readable => by
      obtain ⟨named, kept⟩ := named_of_readable element readable
      exact ⟨named, by rw [CType.withoutVoid, kept]⟩
  | .function result params variadic, readable => by
      obtain ⟨own, kept⟩ := named_of_readable result readable.1
      obtain ⟨all, given, others⟩ := namedAll_of_readable params readable.2
      exact ⟨⟨own, all⟩, by rw [CType.withoutVoid, kept, given, others]; rfl⟩
  | .unsupported _, readable => readable.elim

theorem namedAll_of_readable : (params : Params) → store.ReadableAll types params →
    store.NamedAll types params ∧ params.isVoid = false ∧ params.withoutVoid = params
  | .nil, _ => ⟨trivial, rfl, rfl⟩
  | .cons _ type rest, readable => by
      obtain ⟨other, own, others⟩ := readable
      obtain ⟨named, kept⟩ := named_of_readable type own
      obtain ⟨all, -, same⟩ := namedAll_of_readable rest others
      refine ⟨⟨named, all⟩, ?_, by rw [Params.withoutVoid, kept, same]⟩
      exact Bool.eq_false_iff.mpr fun void => other (Params.isVoid_cons.mp void).1

end

theorem valid_primitive {primitive : Primitive}
    (known : ∀ name, primitive.base = .named name → types name = true) :
    primitive.base.Valid types := by
  cases primitive <;>
    first | exact ⟨by decide, by decide, by decide⟩ | exact ⟨by decide, known _ rfl⟩

theorem valid_compound {d : Declaration} (compound : d.isCompound = true)
    (identifier : isIdentifier d.nativeName = true)
    (known : d.kind = .interface → types d.nativeName = true) : d.base.Valid types := by
  rw [Declaration.isCompound] at compound
  rw [Declaration.kind] at known
  rw [Declaration.base]
  cases body : d.body with
  | record kind incomplete members =>
      cases kind with
      | struct => exact ⟨by decide, identifier⟩
      | union => exact ⟨by decide, identifier⟩
  | enumeration incomplete constants => exact ⟨by decide, identifier⟩
  | interface incomplete superclass methods =>
      exact ⟨identifier, known (congrArg Body.kind body)⟩
  | function f => rw [body] at compound; cases compound
  | typedef underlying => rw [body] at compound; cases compound
  | «global» type const exposesAddress => rw [body] at compound; cases compound
  | constant rawType value => rw [body] at compound; cases compound

theorem compound_spelled {key : String} (named : store.Named types (.compound key)) :
    (store.compoundBase key).Valid types ∧
      tokens (store.spelling.compound key) = (store.compoundBase key).words.map .word := by
  obtain ⟨d, held, compound, identifier, known⟩ := named
  have base : store.compoundBase key = d.base := by simp [compoundBase, held]
  have spelled : store.spelling.compound key = d.spelling := by simp [spelling, held]
  rw [base, spelled]
  exact ⟨valid_compound types compound identifier known,
    Declaration.tokens_spelling compound identifier⟩

theorem typedef_spelled {key : String} (named : store.Named types (.typedef key)) :
    (Base.named (store.typedefName key)).Valid types ∧
      tokens (store.spelling.typedef key) = (Base.named (store.typedefName key)).words.map .word := by
  obtain ⟨d, held, identifier, known⟩ := named
  have spelled : store.spelling.typedef key = d.nativeName := by simp [spelling, held]
  rw [spelled, typedefName, held]
  exact ⟨⟨identifier, known⟩, tokens_identifier identifier⟩

theorem written_ne_void {type : CType} (named : store.Named types type) (other : type ≠ .void) :
    store.written false type.withoutVoid ≠ .base false (.basic ["void"]) := by
  cases type with
  | primitive primitive =>
      intro same
      rw [CType.withoutVoid, written, Shape.base.injEq] at same
      · refine other (congrArg CType.primitive ?_)
        revert same
        cases primitive <;> decide
      all_goals nofun
  | compound key =>
      obtain ⟨d, held, -⟩ := named
      simp only [CType.withoutVoid, written, compoundBase, held, Declaration.base]
      cases d.body <;> simp
  | typedef key => simp [CType.withoutVoid, written]
  | pointer target const => simp [CType.withoutVoid, written]
  | array element length => simp [CType.withoutVoid, written]
  | function result params variadic => simp [CType.withoutVoid, written]
  | unsupported reason => exact named.elim

end Store

namespace Grammar

variable {types : String → Bool}

/-- A declaration of `name`; `shape` is what is read if `const` may stand in front. -/
def Reads (types : String → Bool) (tokens : List Token) (name : Option String)
    (shape : Bool → Shape) : Prop :=
  ∃ const base layers, Spells types tokens const base name layers ∧
    ∀ more, Shape.ofLayers layers (.base (more || const) base) = shape more

theorem reads_leaf (base : Base) (valid : base.Valid types) {spelled text : String}
    (spelling : tokens spelled = base.words.map .word) {name : Option String}
    {layers : List Layer} (declares : Declares types (tokens text) name layers) :
    Reads types (tokens (nameThen spelled text)) name
      fun more => Shape.ofLayers layers (.base more base) := by
  refine ⟨false, base, layers, ?_, fun more => by rw [Bool.or_false]⟩
  rw [tokens_nameThen, spelling]
  exact valid.specifies.spells declares

theorem Reads.const {text : List Token} {name : Option String} {shape : Bool → Shape}
    (reads : Reads types text name shape) :
    Reads types (.word "const" :: text) name fun _ => shape true := by
  obtain ⟨const, base, layers, spells, read⟩ := reads
  exact ⟨true, base, layers, spells.const, fun more => by
    rw [Bool.or_true, ← read true, Bool.true_or]⟩

theorem Reads.isParameter {text : List Token} {shape : Bool → Shape}
    (reads : Reads types text none shape) : IsParameter types text (shape false) := by
  obtain ⟨const, base, layers, spells, read⟩ := reads
  refine ⟨const, base, layers, spells, ?_⟩
  rw [← read false, Bool.false_or]

theorem Reads.readDeclaration? {text : String} {name : Option String} {shape : Bool → Shape}
    (reads : Reads types (tokens text) name shape) :
    readDeclaration? types text = some (name, shape false) := by
  obtain ⟨const, base, layers, spells, read⟩ := reads
  obtain ⟨inner, -, declares, split⟩ := spells.reads
  have specified : specifiers types none (tokens text) = (const, some base, inner) := by
    simpa using split [] (.inl rfl)
  have declared : declarator types (3 * inner.length + 2) inner = some (name, layers, []) := by
    simpa using declares.reads _ [] (.inl rfl) (Nat.le_refl _)
  rw [Grammar.readDeclaration?, ← tokens, specified]
  simp [declared, ← read false]

theorem ofLayers_append (layers : List Layer) (layer : Layer) (shape : Shape) :
    Shape.ofLayers (layers ++ [layer]) shape = Shape.ofLayers layers (layer.wrap shape) := by
  simp [Shape.ofLayers]

end Grammar

namespace Store

variable (store : Store) {types : String → Bool}

theorem enclosed_declareAll {params : Params} (named : store.NamedAll types params)
    (listed : List.Forall₂ (IsParameter types) ((params.declareAll store.spelling).map tokens)
      (store.writtenAll params.withoutVoid)) (variadic : Bool) :
    Enclosed types (tokens (parameterList (params.declareAll store.spelling) variadic))
      (store.writtenAll (if params.isVoid && !variadic then .nil else params.withoutVoid))
      variadic := by
  cases params with
  | nil =>
      cases variadic with
      | false =>
          have text : tokens (parameterList [] false) = [.word "void"] := by decide
          rw [Params.declareAll, text]
          exact enclosed_nothing
      | true =>
          have text : tokens (parameterList [] true) = joined [] true := by decide
          rw [Params.declareAll, text]
          exact enclosed_ellipsis
  | cons name type rest =>
      split_ifs with void
      · rw [Bool.and_eq_true, Params.isVoid_cons, Bool.not_eq_true'] at void
        obtain ⟨⟨rfl, rfl⟩, rfl⟩ := void
        have text : tokens (parameterList [CType.void.declare store.spelling ""] false) =
            [.word "void"] := by
          rw [CType.void, CType.declare]
          decide
        rw [Params.declareAll, Params.declareAll, text]
        exact enclosed_nothing
      · rw [Params.declareAll, Params.withoutVoid, writtenAll, List.map_cons] at listed
        rw [Params.declareAll, Params.withoutVoid, writtenAll]
        obtain - | ⟨parameter, others⟩ := listed
        have given : tokens (type.declare store.spelling "") ≠ [] := by
          obtain ⟨const, base, layers, spells, -⟩ := parameter
          obtain ⟨word, following, written, -⟩ := spells.starts
          rw [written]
          exact List.cons_ne_nil _ _
        rw [tokens_parameterList _ _ given, List.map_cons]
        refine enclosed_parameters parameter others fun single fixed => ?_
        refine store.written_ne_void types named.1 fun same => void ?_
        have last : rest = .nil := by
          cases rest with
          | nil => rfl
          | cons name type rest => simp [Params.declareAll] at single
        simp [Params.isVoid_cons.mpr ⟨same, last⟩, fixed]

mutual

theorem reads_named : (type : CType) → store.Named types type → {text : String} →
    {name : Option String} → {layers : List Layer} →
    Declares types (tokens text) name layers →
    (type.isSuffixed = true → Direct types (tokens text) name layers) →
    Reads types (tokens (type.declare store.spelling text)) name
      fun more => Shape.ofLayers layers (store.written more type.withoutVoid)
  | .primitive primitive, named, _, _, _, declares, _ => by
      rw [CType.declare]
      exact reads_leaf _ (valid_primitive types named) primitive.tokens_spelling declares
  | .compound key, named, _, _, _, declares, _ => by
      obtain ⟨valid, spelled⟩ := store.compound_spelled types named
      rw [CType.declare]
      exact reads_leaf _ valid spelled declares
  | .typedef key, named, _, _, _, declares, _ => by
      obtain ⟨valid, spelled⟩ := store.typedef_spelled types named
      rw [CType.declare]
      exact reads_leaf _ valid spelled declares
  | .array element length, named, text, _, layers, declares, direct => by
      rw [CType.declare_array]
      have longer := (direct rfl).array (arrayLength_tokens length)
      rw [← tokens_array] at longer
      have read := reads_named element named longer.declares fun _ => longer
      simpa only [ofLayers_append, Layer.wrap, CType.withoutVoid, written] using read
  | .function result params variadic, named, text, _, layers, declares, direct => by
      rw [CType.declare]
      have longer := (direct rfl).function
        (store.enclosed_declareAll named.2 (reads_namedAll params named.2) variadic)
      rw [← tokens_function] at longer
      have read := reads_named result named.1 longer.declares fun _ => longer
      simpa only [ofLayers_append, Layer.wrap, CType.withoutVoid, written] using read
  | .pointer target const, named, text, _, layers, declares, _ => by
      have kept := target.isSuffixed_withoutVoid
      cases suffixed : target.isSuffixed with
      | true =>
          rw [CType.declare_pointer_of_isSuffixed _ suffixed]
          have longer := declares.parenthesized
          rw [← tokens_parenthesized] at longer
          have read := reads_named target named longer.declares fun _ => longer
          simpa only [ofLayers_append, Layer.wrap, CType.withoutVoid, written, kept, suffixed,
            Bool.not_true, Bool.and_false, Bool.or_false] using read
      | false =>
          rw [CType.declare_pointer _ suffixed]
          have longer := declares.pointer
          rw [← tokens_star] at longer
          have read := reads_named target named longer fun other => by
            rw [suffixed] at other
            cases other
          cases const with
          | false =>
              rw [if_neg Bool.false_ne_true]
              simpa only [ofLayers_append, Layer.wrap, CType.withoutVoid, written,
                Bool.false_and, Bool.or_false] using read
          | true =>
              rw [if_pos rfl, tokens_const]
              simpa only [ofLayers_append, Layer.wrap, CType.withoutVoid, written, kept, suffixed,
                Bool.not_false, Bool.and_true, Bool.or_true] using read.const
  | .unsupported _, named, _, _, _, _, _ => named.elim

theorem reads_namedAll : (params : Params) → store.NamedAll types params →
    List.Forall₂ (IsParameter types) ((params.declareAll store.spelling).map tokens)
      (store.writtenAll params.withoutVoid)
  | .nil, _ => .nil
  | .cons _ type rest, named => by
      have nameless : Direct types (tokens "") none [] := direct_nameless
      have read := reads_named type named.1 nameless.declares fun _ => nameless
      rw [Params.declareAll, Params.withoutVoid, writtenAll]
      exact .cons read.isParameter (reads_namedAll rest named.2)

end

theorem reads_declare (type : CType) (readable : store.Readable types type) {text : String}
    {name : Option String} {layers : List Layer} (declares : Declares types (tokens text) name layers)
    (direct : type.isSuffixed = true → Direct types (tokens text) name layers) :
    Reads types (tokens (type.declare store.spelling text)) name
      fun more => Shape.ofLayers layers (store.written more type) := by
  obtain ⟨named, kept⟩ := store.named_of_readable types type readable
  simpa only [kept] using store.reads_named type named declares direct

/-- A name with what is read of its declaration, qualifiers aside. -/
def plainly (read : Option String × Shape) : Option String × Shape := (read.1, read.2.unqualified)

/-- What is written as the declaration of a name, or of none, is read as a declaration of
that name, with the nest of pointers, arrays and functions that the type is. -/
theorem read_declare {type : CType} (readable : store.Readable types type)
    {name : Option String} (identifier : ∀ text, name = some text → isIdentifier text = true) :
    (readDeclaration? types (store.declare type (name.getD ""))).map plainly =
      some (name, store.nest type) := by
  have direct : Direct types (tokens (name.getD "")) name [] := by
    cases name with
    | none => exact direct_nameless
    | some text =>
        rw [Option.getD_some, tokens_identifier (identifier text rfl)]
        exact direct_named (identifier text rfl)
  have read := store.reads_declare type readable direct.declares fun _ => direct
  rw [declare, read.readDeclaration?, Option.map_some, plainly]
  exact congrArg some (congrArg (Prod.mk name) (store.unqualified_written false type))

def rowsKey : String := "c:@S@Rows"

def cellKey : String := "c:@T@Cell"

def rows : Declaration where
  usr := rowsKey
  nativeName := "Rows"
  name := "Rows"
  body := .record .struct true []

def cell : Declaration where
  usr := cellKey
  nativeName := "Cell"
  name := "Cell"
  body := .typedef (some (.primitive .int))

def gridStore : Store := ⟨[(rowsKey, rows), (cellKey, cell)]⟩

def gridTypes (name : String) : Bool := name == "Cell"

/-- Pointers to an array of functions that take an array of cells and a text. -/
def gridType : CType :=
  .pointer (.array (.pointer (.function (.pointer (.compound rowsKey) true)
    (.cons "cells" (.array (.typedef cellKey) none)
      (.cons "text" (.pointer .char true) .nil)) true) false) (some 4)) false

theorem read_declare_grid :
    gridStore.declare gridType "grid" =
      "const struct Rows *(*(*grid)[4])(Cell [], const char *, ...)" ∧
    gridStore.Readable gridTypes gridType ∧
    (readDeclaration? gridTypes (gridStore.declare gridType "grid")).map plainly =
      some (some "grid", .pointer false (.array (some 4) (.pointer false (.function
        [.array none (.base false (.named "Cell")), .pointer false (.base false (.basic ["char"]))]
        true (.pointer false (.base false (.tagged "struct" "Rows"))))))) := by
  have cell : gridStore.Readable gridTypes (.typedef cellKey) :=
    ⟨cell, rfl, by decide, by decide⟩
  have rows : gridStore.Readable gridTypes (.compound rowsKey) :=
    ⟨rows, rfl, by decide, by decide, by decide⟩
  have text : gridStore.Readable gridTypes (.pointer .char true) :=
    fun name same => nomatch same
  have readable : gridStore.Readable gridTypes gridType :=
    ⟨rows, by decide, cell, by decide, text, trivial⟩
  have identifier (text : String) (same : some "grid" = some text) : isIdentifier text = true := by
    cases same
    decide
  have read := gridStore.read_declare readable identifier
  have nest : gridStore.nest gridType = .pointer false (.array (some 4) (.pointer false (.function
      [.array none (.base false (.named "Cell")), .pointer false (.base false (.basic ["char"]))]
      true (.pointer false (.base false (.tagged "struct" "Rows")))))) := rfl
  rw [Option.getD_some, nest] at read
  exact ⟨by decide, readable, read⟩

end Store

end LuaBinder
