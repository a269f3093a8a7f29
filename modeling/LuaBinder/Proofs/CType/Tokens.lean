import LuaBinder.CType.Declarator
import LuaBinder.Proofs.CType.Grammar
import Mathlib.Data.List.TakeWhile

namespace LuaBinder.Grammar

open Text

/-! The words and marks of declarations as they are written. -/

theorem le_iff_toNat_le {c d : Char} : c ≤ d ↔ c.toNat ≤ d.toNat :=
  UInt32.le_iff_toNat_le

theorem isAsciiAlphanumeric_iff {c : Char} :
    isAsciiAlphanumeric c = true ↔ 97 ≤ c.toNat ∧ c.toNat ≤ 122 ∨
      65 ≤ c.toNat ∧ c.toNat ≤ 90 ∨ 48 ≤ c.toNat ∧ c.toNat ≤ 57 := by
  simp [isAsciiAlphanumeric, isAsciiLetter, isAsciiDigit, le_iff_toNat_le, or_assoc]

theorem isWordChar_of_isBlank {c : Char} (blank : isBlank c = true) : isWordChar c = false := by
  rw [Bool.eq_false_iff]
  intro letter
  simp only [isWordChar, blank, Bool.not_true, Bool.and_false, Bool.or_false, Bool.or_eq_true,
    isAsciiAlphanumeric_iff, beq_iff_eq] at letter
  rcases letter with letter | rfl
  · have space : c ≠ ' ' := by rintro rfl; revert letter; decide
    simp only [isBlank, Bool.or_eq_true, Bool.and_eq_true, beq_iff_eq, decide_eq_true_eq,
      space, false_or] at blank
    omega
  · exact absurd blank (by decide)

theorem lexFrom_append {c : Char} (apart : isWordChar c = false) (front back word : List Char) :
    lexFrom word (front ++ c :: back) = lexFrom word front ++ separator c ++ lex back := by
  induction front generalizing word with
  | nil => simp [lexFrom, apart, lex]
  | cons head front induction =>
      rw [List.cons_append, lexFrom, lexFrom]
      split
      · exact induction _
      · rw [induction]
        simp

theorem lex_append {c : Char} (apart : isWordChar c = false) (front back : List Char) :
    lex (front ++ c :: back) = lex front ++ separator c ++ lex back :=
  lexFrom_append apart front back []

theorem lex_cons {c : Char} (apart : isWordChar c = false) (rest : List Char) :
    lex (c :: rest) = separator c ++ lex rest := by
  simpa [lex, lexFrom, flush] using lex_append apart [] rest

theorem lexFrom_word (word text : List Char) (letters : ∀ c ∈ text, isWordChar c = true) :
    lexFrom word text = flush (word ++ text) := by
  induction text generalizing word with
  | nil => simp [lexFrom]
  | cons c rest induction =>
      rw [lexFrom, if_pos (letters c List.mem_cons_self),
        induction _ fun d member => letters d (List.mem_cons_of_mem c member)]
      simp

theorem lex_word {text : List Char} (letters : ∀ c ∈ text, isWordChar c = true)
    (given : text ≠ []) : lex text = [.word (String.ofList text)] := by
  rw [lex, lexFrom_word [] text letters, List.nil_append, flush, if_neg (by simpa using given)]

theorem lex_append_blanks (text blanks : List Char) (blank : ∀ c ∈ blanks, isBlank c = true) :
    lex (text ++ blanks) = lex text := by
  induction blanks generalizing text with
  | nil => simp
  | cons c rest induction =>
      have own := blank c List.mem_cons_self
      have nothing : lex rest = [] := by
        have rest := induction [] fun d member => blank d (List.mem_cons_of_mem c member)
        simpa [lex, lexFrom, flush] using rest
      rw [lex_append (isWordChar_of_isBlank own), nothing]
      simp [separator, own]

theorem lex_trimEnd (text : List Char) : lex (trimEnd text) = lex text := by
  have whole : text = trimEnd text ++ (text.reverse.takeWhile isBlank).reverse := by
    rw [trimEnd, dropLast, ← List.reverse_append, List.takeWhile_append_dropWhile,
      List.reverse_reverse]
  have blanks : ∀ c ∈ (text.reverse.takeWhile isBlank).reverse, isBlank c = true :=
    fun c member => List.mem_takeWhile_imp (List.mem_reverse.mp member)
  calc lex (trimEnd text)
      = lex (trimEnd text ++ (text.reverse.takeWhile isBlank).reverse) :=
        (lex_append_blanks _ _ blanks).symm
    _ = lex text := by rw [← whole]

theorem lex_trimStart (text : List Char) : lex (trimStart text) = lex text := by
  induction text with
  | nil => rfl
  | cons c rest induction =>
      by_cases blank : isBlank c = true
      · rw [trimStart, List.dropWhile_cons_of_pos blank, ← trimStart, induction,
          lex_cons (isWordChar_of_isBlank blank)]
        simp [separator, blank]
      · rw [trimStart, List.dropWhile_cons_of_neg blank]

theorem lex_trim (text : List Char) : lex (trim text) = lex text := by
  rw [trim, lex_trimEnd, lex_trimStart]

def tokens (text : String) : List Token := lex text.toList

@[simp] theorem tokens_empty : tokens "" = [] := rfl

theorem tokens_nameThen (type name : String) :
    tokens (nameThen type name) = tokens type ++ tokens name := by
  have text : (type ++ " " ++ name).toList = type.toList ++ ' ' :: name.toList := by simp
  rw [tokens, nameThen, trimRight, String.toList_ofList, lex_trimEnd, text,
    lex_append (by decide)]
  simp [separator, isBlank, tokens]

theorem tokens_star (name : String) : tokens ("*" ++ name) = .mark '*' :: tokens name := by
  have text : ("*" ++ name).toList = '*' :: name.toList := by simp
  rw [tokens, text, lex_cons (by decide)]
  rfl

theorem tokens_parenthesized (name : String) :
    tokens ("(*" ++ name ++ ")") =
      .mark '(' :: .mark '*' :: (tokens name ++ [.mark ')']) := by
  have text : ("(*" ++ name ++ ")").toList = '(' :: '*' :: (name.toList ++ ')' :: []) := by simp
  rw [tokens, text, lex_cons (by decide), lex_cons (by decide), lex_append (by decide)]
  simp [separator, isBlank, tokens, lex, lexFrom, flush]

theorem tokens_const (text : String) :
    tokens ("const " ++ text) = .word "const" :: tokens text := by
  have whole : ("const " ++ text).toList = ['c', 'o', 'n', 's', 't'] ++ ' ' :: text.toList := by
    simp
  rw [tokens, whole, lex_append (by decide)]
  rfl

theorem tokens_array (name size : String) :
    tokens (name ++ "[" ++ size ++ "]") =
      tokens name ++ .mark '[' :: (tokens size ++ [.mark ']']) := by
  have text : (name ++ "[" ++ size ++ "]").toList =
      name.toList ++ '[' :: (size.toList ++ ']' :: []) := by simp
  rw [tokens, text, lex_append (by decide), lex_append (by decide)]
  simp [separator, isBlank, tokens, lex, lexFrom, flush]

theorem tokens_function (name inner : String) :
    tokens (name ++ "(" ++ inner ++ ")") =
      tokens name ++ .mark '(' :: (tokens inner ++ [.mark ')']) := by
  have text : (name ++ "(" ++ inner ++ ")").toList =
      name.toList ++ '(' :: (inner.toList ++ ')' :: []) := by simp
  rw [tokens, text, lex_append (by decide), lex_append (by decide)]
  simp [separator, isBlank, tokens, lex, lexFrom, flush]

theorem tokens_comma (front back : String) :
    tokens (front ++ ", " ++ back) = tokens front ++ .mark ',' :: tokens back := by
  have text : (front ++ ", " ++ back).toList =
      front.toList ++ ',' :: ' ' :: back.toList := by simp
  rw [tokens, text, lex_append (by decide), lex_cons (by decide)]
  simp [separator, isBlank, tokens]

/-- Parameters and, behind them, an ellipsis if there is one. -/
def joined : List (List Token) → Bool → List Token
  | [], false => []
  | [], true => [.mark '.', .mark '.', .mark '.']
  | [only], false => only
  | first :: rest, variadic => first ++ .mark ',' :: joined rest variadic

theorem joined_variadic (first : List Token) (rest : List (List Token)) :
    joined (first :: rest) true =
      joined (first :: rest) false ++ .mark ',' :: joined [] true := by
  induction rest generalizing first with
  | nil => rfl
  | cons second rest induction => simp [joined, induction]

theorem tokens_intercalate (first : String) (rest : List String) :
    tokens (String.intercalate ", " (first :: rest)) =
      joined ((first :: rest).map tokens) false := by
  induction rest generalizing first with
  | nil => simp [joined]
  | cons second rest induction =>
      rw [String.intercalate_cons_cons, tokens_comma, induction]
      rfl

theorem joined_ne_nil {first : List Token} (rest : List (List Token)) (variadic : Bool)
    (given : first ≠ []) : joined (first :: rest) variadic ≠ [] := by
  cases rest <;> cases variadic <;> simp [joined, given]

theorem tokens_parameterList {first : String} (rest : List String) (variadic : Bool)
    (given : tokens first ≠ []) :
    tokens (LuaBinder.parameterList (first :: rest) variadic) =
      joined ((first :: rest).map tokens) variadic := by
  have listed : (String.intercalate ", " (first :: rest) == "") = false := by
    rw [beq_eq_false_iff_ne]
    intro empty
    refine joined_ne_nil (rest.map tokens) false given ?_
    rw [← List.map_cons, ← tokens_intercalate, empty, tokens_empty]
  rw [LuaBinder.parameterList]
  simp only [listed, Bool.false_eq_true, if_false]
  cases variadic with
  | false => exact tokens_intercalate first rest
  | true =>
      have written : String.intercalate ", " (first :: rest) ++ ", ..." =
          String.intercalate ", " (first :: rest) ++ ", " ++ "..." := by
        rw [String.append_assoc]
        rfl
      rw [if_pos rfl, written, tokens_comma, tokens_intercalate, List.map_cons, joined_variadic]
      rfl

/-! Identifiers and lengths are single words. -/

theorem isIdentifierText_letters {text : List Char} (identifier : isIdentifierText text = true) :
    text ≠ [] ∧ ∀ c ∈ text, isWordChar c = true := by
  cases text with
  | nil => exact absurd identifier (by decide)
  | cons c rest =>
      rw [isIdentifierText, Bool.and_eq_true, List.all_eq_true] at identifier
      exact ⟨List.cons_ne_nil c rest, identifier.2⟩

theorem tokens_identifier {name : String} (identifier : isIdentifier name = true) :
    tokens name = [.word name] := by
  rw [isIdentifier, Bool.and_eq_true] at identifier
  obtain ⟨given, letters⟩ := isIdentifierText_letters identifier.1
  rw [tokens, lex_word letters given, String.ofList_toList]

theorem isWordChar_of_isDigit {c : Char} (digit : c.isDigit = true) : isWordChar c = true := by
  have digit : isAsciiAlphanumeric c = true := by
    rw [Char.isDigit, Bool.and_eq_true, decide_eq_true_eq, decide_eq_true_eq] at digit
    exact isAsciiAlphanumeric_iff.mpr (.inr (.inr digit))
  simp [isWordChar, digit]

theorem tokens_negative (text : String) : tokens ("-" ++ text) = .mark '-' :: tokens text := by
  have whole : ("-" ++ text).toList = '-' :: text.toList := by simp
  rw [tokens, whole, lex_cons (by decide)]
  rfl

def digits (n : Nat) : List Char := Nat.toDigits 10 n

theorem tokens_natural (n : Nat) : tokens (toString n) = [.word (String.ofList (digits n))] := by
  have text : (toString n).toList = digits n := by simp [digits]
  rw [tokens, text]
  exact lex_word
    (fun c member => isWordChar_of_isDigit (Nat.isDigit_of_mem_toDigits (by decide) (by decide) member))
    Nat.toDigits_ne_nil

end LuaBinder.Grammar
