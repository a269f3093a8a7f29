import LuaBinder.Proofs.CType.Declarators

namespace LuaBinder.Grammar

/-! Specifiers with a declarator behind them, and lists of such declarations. -/

variable {types : String → Bool}

theorem specifiers_of_stops {tokens : List Token} (stops : Stops tokens) (base : Base) :
    specifiers types (some base) tokens = (false, some base, tokens) := by
  cases tokens with
  | nil => rfl
  | cons token rest =>
      cases token with
      | mark c => rfl
      | word text =>
          obtain ⟨const, basic, tag⟩ := not_mem_of_isIdentifier (stops text rfl)
          simp [specifiers, const, basic, tag]

/-- Words that are specifiers and name `base`. -/
structure Specifies (types : String → Bool) (text : List Token) (base : Base) : Prop where
  starts : ∃ word rest, text = .word word :: rest ∧ startsType types word = true ∧
    (word = "void" → rest = [] ∧ base = .basic ["void"])
  reads : ∀ rest, Stops rest →
    specifiers types none (text ++ rest) = (false, some base, rest)

/-- A declaration without its end: specifiers and a declarator. -/
structure Spells (types : String → Bool) (tokens : List Token) (const : Bool) (base : Base)
    (name : Option String) (layers : List Layer) : Prop where
  starts : ∃ word rest, tokens = .word word :: rest ∧ startsType types word = true
  given : ∀ rest, Ends rest → noParameters? (tokens ++ rest) ≠ none →
    tokens = [.word "void"] ∧ const = false ∧ base = .basic ["void"] ∧ layers = []
  reads : ∃ inner, inner.length < tokens.length ∧ Declares types inner name layers ∧
    ∀ rest, Ends rest → specifiers types none (tokens ++ rest) = (const, some base, inner ++ rest)

theorem noParameters?_word {word : String} {rest : List Token}
    (none_given : noParameters? (.word word :: rest) ≠ none) :
    word = "void" ∧ rest.head? = some (.mark ')') := by
  unfold noParameters? at none_given
  split at none_given
  · next written => cases written
  · next written => cases written; exact ⟨rfl, rfl⟩
  · exact absurd rfl none_given

theorem Declares.eq_nil {inner rest : List Token} {name : Option String}
    {layers : List Layer} (declares : Declares types inner name layers)
    (closed : (inner ++ rest).head? = some (.mark ')')) : inner = [] ∧ layers = [] := by
  have read := declares.reads _ [] (.inl rfl) (Nat.le_refl _)
  cases inner with
  | nil =>
      simp [declarator] at read
      exact ⟨rfl, read.2⟩
  | cons token inner =>
      cases Option.some.inj closed
      simp [declarator, suffixes] at read

theorem Specifies.spells {text inner : List Token} {base : Base} {name : Option String}
    {layers : List Layer} (specifies : Specifies types text base)
    (declares : Declares types inner name layers) :
    Spells types (text ++ inner) false base name layers where
  starts := by
    obtain ⟨word, rest, rfl, starts, -⟩ := specifies.starts
    exact ⟨word, rest ++ inner, rfl, starts⟩
  given rest _ void := by
    obtain ⟨word, others, rfl, -, single⟩ := specifies.starts
    obtain ⟨rfl, closed⟩ := noParameters?_word void
    obtain ⟨rfl, rfl⟩ := single rfl
    obtain ⟨rfl, rfl⟩ := declares.eq_nil closed
    exact ⟨rfl, rfl, rfl, rfl⟩
  reads := by
    obtain ⟨word, others, written, -⟩ := specifies.starts
    refine ⟨inner, ?_, declares, fun rest ends => ?_⟩
    · rw [written, List.length_append, List.length_cons]
      omega
    · rw [List.append_assoc, specifies.reads _ (declares.stops.append ends.stops)]

theorem Spells.const {tokens : List Token} {const : Bool} {base : Base} {name : Option String}
    {layers : List Layer} (spells : Spells types tokens const base name layers) :
    Spells types (.word "const" :: tokens) true base name layers where
  starts := ⟨_, tokens, rfl, rfl⟩
  given _ _ void := absurd (noParameters?_word void).1 (by decide)
  reads := by
    obtain ⟨inner, shorter, declares, reads⟩ := spells.reads
    refine ⟨inner, Nat.lt_succ_of_lt shorter, declares, fun rest ends => ?_⟩
    unfold specifiers
    simp [reads rest ends]

/-- A declaration without a name. -/
def IsParameter (types : String → Bool) (tokens : List Token) (shape : Shape) : Prop :=
  ∃ const base layers, Spells types tokens const base none layers ∧
    shape = Shape.ofLayers layers (.base const base)

theorem joined_cons (first : List Token) (others : List (List Token)) (variadic : Bool) :
    (others = [] ∧ variadic = false ∧ joined (first :: others) variadic = first) ∨
      ((others ≠ [] ∨ variadic = true) ∧
        joined (first :: others) variadic = first ++ .mark ',' :: joined others variadic) := by
  cases others <;> cases variadic <;> simp [joined]

theorem parameterList_reads {params : List (List Token)} {shapes : List Shape}
    (listed : List.Forall₂ (IsParameter types) params shapes) {variadic : Bool}
    (some_given : params ≠ [] ∨ variadic = true) :
    ∀ fuel rest, 3 * ((joined params variadic).length + rest.length + 1) ≤ fuel →
      Grammar.parameterList types fuel (joined params variadic ++ .mark ')' :: rest) =
        some (shapes, variadic, rest) := by
  induction listed with
  | nil =>
      intro fuel rest enough
      obtain rfl : variadic = true := some_given.resolve_left fun given => given rfl
      obtain ⟨less, rfl⟩ := Nat.exists_eq_succ_of_ne_zero (show fuel ≠ 0 by omega)
      simp [joined, Grammar.parameterList, ellipsis?]
  | @cons first shape others shapes parameter listed induction =>
      intro fuel rest enough
      obtain ⟨const, base, layers, spells, rfl⟩ := parameter
      obtain ⟨word, following, written, -⟩ := spells.starts
      obtain ⟨inner, shorter, declares, reads⟩ := spells.reads
      obtain ⟨less, rfl⟩ := Nat.exists_eq_succ_of_ne_zero (show fuel ≠ 0 by omega)
      have named (tail : List Token) : ellipsis? (first ++ tail) = none := by
        rw [written]
        rfl
      obtain ⟨rfl, rfl, text⟩ | ⟨more, text⟩ := joined_cons first others variadic
      · rw [text] at enough ⊢
        have ends : Ends (.mark ')' :: rest) := .inr (.inl rfl)
        cases listed
        rw [Grammar.parameterList, named]
        simp [reads _ ends, declares.reads less _ ends (by simp only [List.length_cons]; omega)]
      · rw [text, List.length_append, List.length_cons] at enough
        have ends : Ends (.mark ',' :: (joined others variadic ++ .mark ')' :: rest)) :=
          .inr (.inr rfl)
        rw [text, List.append_assoc, List.cons_append, Grammar.parameterList, named]
        simp [reads _ ends, declares.reads less _ ends (by
          simp only [List.length_cons, List.length_append]; omega),
          induction more less rest (by omega)]

theorem enclosed_nothing : Enclosed types [.word "void"] [] false where
  closed _ := rfl
  reads fuel rest enough := by
    obtain ⟨less, rfl⟩ := Nat.exists_eq_succ_of_ne_zero (show fuel ≠ 0 by omega)
    rfl

theorem enclosed_ellipsis : Enclosed types (joined [] true) [] true where
  closed _ := rfl
  reads fuel rest enough := by
    obtain ⟨less, rfl⟩ := Nat.exists_eq_succ_of_ne_zero (show fuel ≠ 0 by omega)
    exact parameterList_reads .nil (.inr rfl) less rest (by omega)

/-- Parameters are read one by one, except that plain `void` alone stands for none. -/
theorem enclosed_parameters {first : List Token} {shape : Shape}
    (parameter : IsParameter types first shape) {others : List (List Token)}
    {shapes : List Shape} (listed : List.Forall₂ (IsParameter types) others shapes)
    {variadic : Bool}
    (proper : others = [] → variadic = false → shape ≠ .base false (.basic ["void"])) :
    Enclosed types (joined (first :: others) variadic) (shape :: shapes) variadic := by
  have all := List.Forall₂.cons parameter listed
  obtain ⟨const, base, layers, spells, rfl⟩ := parameter
  obtain ⟨word, following, written, starts⟩ := spells.starts
  obtain ⟨tail, text, ends, alone⟩ : ∃ tail, joined (first :: others) variadic = first ++ tail ∧
      (∀ rest, Ends (tail ++ .mark ')' :: rest)) ∧
      ∀ rest, (tail ++ Token.mark ')' :: rest).head? = some (.mark ')') →
        others = [] ∧ variadic = false := by
    obtain ⟨single, fixed, text⟩ | ⟨-, text⟩ := joined_cons first others variadic
    · exact ⟨[], by simpa using text, fun rest => .inr (.inl rfl), fun _ _ => ⟨single, fixed⟩⟩
    · exact ⟨_, text, fun rest => .inr (.inr rfl), fun _ closed => by simp at closed⟩
  constructor
  · intro rest
    rw [text, written]
    simp [opensDeclarator, starts]
  · intro fuel rest enough
    obtain ⟨less, rfl⟩ := Nat.exists_eq_succ_of_ne_zero (show fuel ≠ 0 by omega)
    have given : noParameters? (joined (first :: others) variadic ++ .mark ')' :: rest) = none := by
      by_contra void
      rw [text, List.append_assoc] at void
      obtain ⟨rfl, rfl, rfl, rfl⟩ := spells.given _ (ends rest) void
      obtain ⟨single, fixed⟩ := alone rest (noParameters?_word void).2
      exact proper single fixed rfl
    rw [parameters, given]
    exact parameterList_reads all (.inl (List.cons_ne_nil _ _)) less rest (by omega)

end LuaBinder.Grammar
