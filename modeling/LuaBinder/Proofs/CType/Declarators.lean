import LuaBinder.Proofs.CType.Tokens
import Mathlib.Tactic.IntervalCases

namespace LuaBinder.Grammar

/-! What a declarator says does not change when more is written around it. -/

variable {types : String → Bool}

/-- A first word that is no specifier. -/
def Stops (tokens : List Token) : Prop :=
  ∀ text, tokens.head? = some (.word text) → isIdentifier text = true

/-- No declarator goes on here. -/
def Ends (tokens : List Token) : Prop :=
  tokens = [] ∨ tokens.head? = some (.mark ')') ∨ tokens.head? = some (.mark ',')

/-- What can stand behind a name or a parenthesis, seen also where there is no name. -/
def Follows (types : String → Bool) : List Token → Prop
  | [] => True
  | .word _ :: _ => False
  | .mark c :: rest => c ≠ '*' ∧ (c = '(' → opensDeclarator types rest = false)

theorem Ends.stops {tokens : List Token} (ends : Ends tokens) : Stops tokens := by
  intro text head
  rcases ends with rfl | other | other
  · cases head
  all_goals rw [other] at head; cases head

theorem Ends.cases {tokens : List Token} (ends : Ends tokens) :
    tokens = [] ∨ ∃ c rest, tokens = .mark c :: rest ∧ c ≠ '*' ∧ c ≠ '(' ∧ c ≠ '[' := by
  rcases ends with empty | head | head
  · exact .inl empty
  all_goals
    obtain ⟨rest, written⟩ := List.head?_eq_some_iff.mp head
    exact .inr ⟨_, rest, written, by decide, by decide, by decide⟩

theorem Ends.follows {tokens : List Token} (ends : Ends tokens) : Follows types tokens := by
  obtain rfl | ⟨c, rest, rfl, star, paren, -⟩ := ends.cases
  · trivial
  · exact ⟨star, fun same => absurd same paren⟩

theorem Stops.append {front back : List Token} (first : Stops front) (second : Stops back) :
    Stops (front ++ back) := by
  cases front with
  | nil => exact second
  | cons token front => exact first

theorem stops_mark (c : Char) (rest : List Token) : Stops (.mark c :: rest) := by
  intro text head
  cases head

theorem suffixes_of_ends {tokens : List Token} (ends : Ends tokens) {fuel : Nat}
    (enough : 0 < fuel) (name : Option String) (layers : List Layer) :
    suffixes types fuel name layers tokens = some (name, layers, tokens) := by
  obtain ⟨less, rfl⟩ := Nat.exists_eq_succ_of_ne_zero enough.ne'
  obtain rfl | ⟨c, rest, rfl, -, paren, bracket⟩ := ends.cases
  · rw [suffixes]
  · simp [suffixes, paren, bracket]

/-- A declarator to which lengths and parameters can be added. -/
structure Direct (types : String → Bool) (tokens : List Token) (name : Option String)
    (layers : List Layer) : Prop where
  stops : Stops tokens
  reads : ∀ fuel rest, Follows types rest → 3 * (tokens.length + rest.length) + 2 ≤ fuel →
    ∃ less, 3 * rest.length + 1 ≤ less ∧
      declarator types fuel (tokens ++ rest) = suffixes types less name layers rest

/-- A whole declarator. -/
structure Declares (types : String → Bool) (tokens : List Token) (name : Option String)
    (layers : List Layer) : Prop where
  stops : Stops tokens
  reads : ∀ fuel rest, Ends rest → 3 * (tokens.length + rest.length) + 2 ≤ fuel →
    declarator types fuel (tokens ++ rest) = some (name, layers, rest)

theorem Direct.declares {tokens : List Token} {name : Option String} {layers : List Layer}
    (direct : Direct types tokens name layers) : Declares types tokens name layers where
  stops := direct.stops
  reads fuel rest ends enough := by
    obtain ⟨less, more, read⟩ := direct.reads fuel rest ends.follows enough
    rw [read, suffixes_of_ends ends (by omega)]

theorem direct_nameless : Direct types [] none [] where
  stops := by
    intro text head
    cases head
  reads fuel rest follows enough := by
    obtain ⟨less, rfl⟩ := Nat.exists_eq_succ_of_ne_zero (show fuel ≠ 0 by omega)
    refine ⟨less, by simp only [List.length_nil] at enough; omega, ?_⟩
    cases rest with
    | nil =>
        obtain ⟨least, rfl⟩ := Nat.exists_eq_succ_of_ne_zero (show less ≠ 0 by
          simp only [List.length_nil] at enough; omega)
        simp [declarator, suffixes]
    | cons token rest =>
        cases token with
        | word text => exact follows.elim
        | mark c =>
            obtain ⟨star, paren⟩ := follows
            by_cases opened : c = '('
            · simp [declarator, star, paren opened]
            · simp [declarator, star, opened]

theorem direct_named {name : String} (identifier : isIdentifier name = true) :
    Direct types [.word name] (some name) [] where
  stops := by
    intro text head
    cases head
    exact identifier
  reads fuel rest _ enough := by
    obtain ⟨less, rfl⟩ := Nat.exists_eq_succ_of_ne_zero (show fuel ≠ 0 by omega)
    refine ⟨less, ?_, ?_⟩
    · simp only [List.length_singleton] at enough
      omega
    · simp [declarator, identifier]

theorem Direct.array {tokens : List Token} {name : Option String} {layers : List Layer}
    (direct : Direct types tokens name layers) {size : List Token} {length : Option Int}
    (reads : ∀ rest, arrayLength (size ++ .mark ']' :: rest) = some (length, rest)) :
    Direct types (tokens ++ .mark '[' :: (size ++ [.mark ']'])) name
      (layers ++ [.array length]) where
  stops := direct.stops.append (stops_mark _ _)
  reads fuel rest _ enough := by
    have follows : Follows types (.mark '[' :: (size ++ .mark ']' :: rest)) :=
      ⟨by decide, fun same => absurd same (by decide)⟩
    simp only [List.length_append, List.length_cons, List.length_nil] at enough
    obtain ⟨less, more, read⟩ := direct.reads fuel _ follows (by
      simp only [List.length_append, List.length_cons]; omega)
    simp only [List.length_append, List.length_cons] at more
    obtain ⟨least, rfl⟩ := Nat.exists_eq_succ_of_ne_zero (show less ≠ 0 by omega)
    refine ⟨least, by omega, ?_⟩
    have written : tokens ++ .mark '[' :: (size ++ [.mark ']']) ++ rest =
        tokens ++ .mark '[' :: (size ++ .mark ']' :: rest) := by simp
    rw [written, read, suffixes]
    simp [reads]

/-- What stands between the parentheses of a function. -/
structure Enclosed (types : String → Bool) (inner : List Token) (params : List Shape)
    (variadic : Bool) : Prop where
  closed : ∀ rest, opensDeclarator types (inner ++ .mark ')' :: rest) = false
  reads : ∀ fuel rest, 3 * (inner.length + rest.length + 1) + 1 ≤ fuel →
    parameters types fuel (inner ++ .mark ')' :: rest) = some (params, variadic, rest)

theorem Direct.function {tokens : List Token} {name : Option String} {layers : List Layer}
    (direct : Direct types tokens name layers) {inner : List Token} {params : List Shape}
    {variadic : Bool} (enclosed : Enclosed types inner params variadic) :
    Direct types (tokens ++ .mark '(' :: (inner ++ [.mark ')'])) name
      (layers ++ [.function params variadic]) where
  stops := direct.stops.append (stops_mark _ _)
  reads fuel rest _ enough := by
    have follows : Follows types (.mark '(' :: (inner ++ .mark ')' :: rest)) :=
      ⟨by decide, fun _ => enclosed.closed rest⟩
    simp only [List.length_append, List.length_cons, List.length_nil] at enough
    obtain ⟨less, more, read⟩ := direct.reads fuel _ follows (by
      simp only [List.length_append, List.length_cons]; omega)
    simp only [List.length_append, List.length_cons] at more
    obtain ⟨least, rfl⟩ := Nat.exists_eq_succ_of_ne_zero (show less ≠ 0 by omega)
    refine ⟨least, by omega, ?_⟩
    have written : tokens ++ .mark '(' :: (inner ++ [.mark ')']) ++ rest =
        tokens ++ .mark '(' :: (inner ++ .mark ')' :: rest) := by simp
    rw [written, read, suffixes]
    simp [enclosed.reads least rest (by omega)]

theorem not_mem_of_isIdentifier {text : String} (identifier : isIdentifier text = true) :
    text ≠ "const" ∧ text ∉ basicWords ∧ text ∉ tagWords := by
  rw [isIdentifier, Bool.and_eq_true, Bool.not_eq_true', ← Bool.not_eq_true,
    List.contains_iff_mem, keywords, List.mem_append, List.mem_append, List.mem_cons] at identifier
  exact ⟨fun same => identifier.2 (.inl (.inl (.inl same))),
    fun basic => identifier.2 (.inl (.inl (.inr basic))),
    fun tag => identifier.2 (.inl (.inr tag))⟩

theorem qualifiers_of_stops {tokens : List Token} (stops : Stops tokens) :
    qualifiers tokens = (false, tokens) := by
  cases tokens with
  | nil => rfl
  | cons token rest =>
      cases token with
      | mark c => rfl
      | word text =>
          simp [qualifiers, (not_mem_of_isIdentifier (stops text rfl)).1]

theorem Declares.pointer {tokens : List Token} {name : Option String} {layers : List Layer}
    (declares : Declares types tokens name layers) :
    Declares types (.mark '*' :: tokens) name (layers ++ [.pointer false]) where
  stops := stops_mark _ _
  reads fuel rest ends enough := by
    simp only [List.length_cons] at enough
    obtain ⟨less, rfl⟩ := Nat.exists_eq_succ_of_ne_zero (show fuel ≠ 0 by omega)
    rw [List.cons_append, declarator]
    simp [qualifiers_of_stops (declares.stops.append ends.stops),
      declares.reads less rest ends (by omega)]

/-- Constant pointers, as `const` behind the asterisk says. -/
theorem Declares.constantPointer {tokens : List Token} {name : Option String}
    {layers : List Layer} (declares : Declares types tokens name layers) :
    Declares types (.mark '*' :: .word "const" :: tokens) name (layers ++ [.pointer true]) where
  stops := stops_mark _ _
  reads fuel rest ends enough := by
    simp only [List.length_cons] at enough
    obtain ⟨less, rfl⟩ := Nat.exists_eq_succ_of_ne_zero (show fuel ≠ 0 by omega)
    rw [List.cons_append, List.cons_append, declarator]
    simp [qualifiers, qualifiers_of_stops (declares.stops.append ends.stops),
      declares.reads less rest ends (by omega)]

theorem Declares.enclosed {tokens : List Token} {name : Option String} {layers : List Layer}
    (declares : Declares types (.mark '*' :: tokens) name layers) :
    Direct types (.mark '(' :: .mark '*' :: (tokens ++ [.mark ')'])) name layers where
  stops := stops_mark _ _
  reads fuel rest _ enough := by
    simp only [List.length_append, List.length_cons, List.length_nil] at enough
    obtain ⟨less, rfl⟩ := Nat.exists_eq_succ_of_ne_zero (show fuel ≠ 0 by omega)
    have inside := declares.reads less (.mark ')' :: rest) (.inr (.inl rfl)) (by
      simp only [List.length_cons]; omega)
    refine ⟨less, by omega, ?_⟩
    have written : .mark '(' :: .mark '*' :: (tokens ++ [.mark ')']) ++ rest =
        .mark '(' :: (.mark '*' :: tokens ++ .mark ')' :: rest) := by simp
    rw [written, declarator]
    simp only [inside]
    simp [opensDeclarator]

theorem Declares.parenthesized {tokens : List Token} {name : Option String}
    {layers : List Layer} (declares : Declares types tokens name layers) :
    Direct types (.mark '(' :: .mark '*' :: (tokens ++ [.mark ')'])) name
      (layers ++ [.pointer false]) := declares.pointer.enclosed

/-! Lengths of arrays are written in decimal. -/

theorem eq_zero_of_head?_digits (n : Nat) (head : (digits n).head? = some '0') : n = 0 := by
  induction n using Nat.strongRecOn with
  | ind n induction =>
      by_cases small : n < 10
      · rw [digits, Nat.toDigits_of_lt_base small, List.head?_cons, Option.some.injEq] at head
        interval_cases n <;> first | rfl | exact absurd head (by decide)
      · have long := Nat.toDigits_of_base_le (b := 10) (n := n) (by decide) (by omega)
        rw [digits, long, List.head?_append, Option.or_of_isSome (by simp)] at head
        have shorter := induction (n / 10) (by omega) head
        omega

theorem decimal?_digits (n : Nat) : decimal? (digits n) = some n := by
  have given : (digits n).isEmpty = false := by simp [digits]
  have decimal : (digits n).all Char.isDigit = true :=
    List.all_eq_true.mpr fun c member => Nat.isDigit_of_mem_toDigits (by decide) (by decide) member
  have leading : ((digits n).head? == some '0' && digits n != ['0']) = false := by
    by_cases head : (digits n).head? = some '0'
    · rw [eq_zero_of_head?_digits n head]
      rfl
    · simp [head]
  simp only [decimal?, given, decimal, leading, Bool.not_true, Bool.or_false, Bool.false_eq_true,
    if_false]
  rw [digits, Nat.ofDigitChars_ten_toDigits]

/-- How the length of an array is written. -/
def lengthText : Option Int → String
  | none => ""
  | some n => toString n

theorem arrayLength_tokens (length : Option Int) (rest : List Token) :
    arrayLength (tokens (lengthText length) ++ .mark ']' :: rest) = some (length, rest) := by
  cases length with
  | none => rfl
  | some n =>
      cases n with
      | ofNat n =>
          have text : lengthText (some (Int.ofNat n)) = toString n := rfl
          rw [text, tokens_natural]
          simp [arrayLength, decimal?_digits]
      | negSucc n =>
          have text : lengthText (some (Int.negSucc n)) = "-" ++ toString (n + 1) := rfl
          rw [text, tokens_negative, tokens_natural]
          simp [arrayLength, decimal?_digits, Int.negSucc_eq]

end LuaBinder.Grammar
