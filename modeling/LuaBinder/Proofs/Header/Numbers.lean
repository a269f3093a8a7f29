import LuaBinder.Header.Literal
import LuaBinder.Proofs.CType.Tokens
import Mathlib.Data.Bool.AllAny
import Mathlib.Data.Nat.Digits.Defs

namespace LuaBinder.Header.Literal

open Number Text

/-! Integer and floating literals as grammars, and that exactly these are read. -/

/-! Integers. -/

/-- The value of digits in a base, the first digit counting most. -/
def positional (base : Nat) (digits : List Char) : Nat :=
  Nat.ofDigits base (digits.reverse.map fun c => (hexValue? c).getD 0)

/-- A mark of an unsigned and one of a long integer, of which each may be missing, in any
order. -/
def IntegerSuffix (suffix : List Char) : Prop :=
  ∃ unsigned ∈ ["", "u", "U"], ∃ long ∈ ["", "l", "L", "ll", "LL"],
    suffix = (unsigned ++ long).toList ∨ suffix = (long ++ unsigned).toList

/-- A literal in base sixteen or two has a mark and at least one digit behind it. A zero in
front means base eight, be there other digits or not. -/
inductive IntegerLiteral : List Char → Integer → Prop
  | hexadecimal {mark : Char} {digits suffix : List Char} (marked : mark ∈ ['x', 'X'])
      (given : digits ≠ []) (valid : ∀ d ∈ digits, digitsBelow 16 d = true)
      (closed : IntegerSuffix suffix) :
      IntegerLiteral ('0' :: mark :: (digits ++ suffix)) ⟨16, digits⟩
  | binary {mark : Char} {digits suffix : List Char} (marked : mark ∈ ['b', 'B'])
      (given : digits ≠ []) (valid : ∀ d ∈ digits, digitsBelow 2 d = true)
      (closed : IntegerSuffix suffix) :
      IntegerLiteral ('0' :: mark :: (digits ++ suffix)) ⟨2, digits⟩
  | octal {digits suffix : List Char} (valid : ∀ d ∈ digits, digitsBelow 8 d = true)
      (closed : IntegerSuffix suffix) :
      IntegerLiteral ('0' :: (digits ++ suffix)) ⟨8, digits⟩
  | decimal {first : Char} {digits suffix : List Char} (nonzero : first ≠ '0')
      (valid : ∀ d ∈ first :: digits, digitsBelow 10 d = true)
      (closed : IntegerSuffix suffix) :
      IntegerLiteral (first :: digits ++ suffix) ⟨10, first :: digits⟩

theorem isIntegerSuffix_iff {suffix : List Char} :
    isIntegerSuffix suffix = true ↔ IntegerSuffix suffix := by
  have listed : ∀ text ∈ integerSuffixes, ∃ unsigned ∈ ["", "u", "U"],
      ∃ long ∈ ["", "l", "L", "ll", "LL"], text = unsigned ++ long ∨ text = long ++ unsigned := by
    decide
  have covered : ∀ unsigned ∈ ["", "u", "U"], ∀ long ∈ ["", "l", "L", "ll", "LL"],
      unsigned ++ long ∈ integerSuffixes ∧ long ++ unsigned ∈ integerSuffixes := by
    decide
  rw [isIntegerSuffix, List.contains_iff_mem]
  constructor
  · intro member
    obtain ⟨unsigned, first, long, second, same⟩ := listed _ member
    refine ⟨unsigned, first, long, second, same.imp ?_ ?_⟩ <;>
      exact fun same => by rw [← same, String.toList_ofList]
  · rintro ⟨unsigned, first, long, second, rfl | rfl⟩
    · rw [String.ofList_toList]
      exact (covered unsigned first long second).1
    · rw [String.ofList_toList]
      exact (covered unsigned first long second).2

/-- What a mark behind the digits begins with is neither a digit nor part of a fraction or an
exponent. -/
theorem IntegerSuffix.head_mem {suffix : List Char} (closed : IntegerSuffix suffix) :
    ∀ c ∈ suffix.head?, c ∈ ['u', 'U', 'l', 'L'] := by
  have listed : ∀ text ∈ integerSuffixes,
      text.toList.head?.all (['u', 'U', 'l', 'L'].contains ·) = true := by
    decide
  have member := isIntegerSuffix_iff.mpr closed
  rw [isIntegerSuffix, List.contains_iff_mem] at member
  intro c first
  have all := listed _ member
  rw [String.toList_ofList, first] at all
  simpa using all

theorem digitsBelow_of_le {base bound : Nat} (le : base ≤ bound) {c : Char}
    (valid : digitsBelow base c = true) : digitsBelow bound c = true := by
  unfold digitsBelow at valid ⊢
  split at valid <;> simp_all
  omega

theorem IntegerSuffix.not_digit {suffix : List Char} (closed : IntegerSuffix suffix) (base : Nat) :
    ∀ c ∈ suffix.head?, ¬ digitsBelow base c = true := by
  have unread : ∀ c ∈ ['u', 'U', 'l', 'L'], hexValue? c = none :=
    List.all_iff_forall_prop.mp (by decide)
  intro c first
  rw [digitsBelow, unread c (closed.head_mem c first)]
  exact Bool.false_ne_true

theorem takeWhile_append_head {test : Char → Bool} {front back : List Char}
    (all : ∀ c ∈ front, test c = true) (stops : ∀ c ∈ back.head?, ¬ test c = true) :
    (front ++ back).takeWhile test = front ∧ (front ++ back).dropWhile test = back := by
  rw [List.takeWhile_append_of_pos all, List.dropWhile_append_of_pos all]
  cases back with
  | nil => simp
  | cons c rest => simp [stops c rfl]

theorem integerIn?_eq_some {base : Nat} {text : List Char} {n : Integer} :
    integerIn? base text = some n ↔ n.base = base ∧ ∃ suffix, text = n.digits ++ suffix ∧
      (∀ d ∈ n.digits, digitsBelow base d = true) ∧ IntegerSuffix suffix := by
  unfold integerIn?
  constructor
  · intro read
    split at read
    · rename_i closed
      cases read
      exact ⟨rfl, _, (List.takeWhile_append_dropWhile).symm,
        fun d member => List.mem_takeWhile_imp member, isIntegerSuffix_iff.mp closed⟩
    · cases read
  · rintro ⟨rfl, suffix, rfl, valid, closed⟩
    obtain ⟨taken, dropped⟩ := takeWhile_append_head valid (closed.not_digit n.base)
    rw [taken, dropped, if_pos (isIntegerSuffix_iff.mpr closed)]

theorem hexValue?_eq (c : Char) : hexValue? c =
    if 48 ≤ c.toNat ∧ c.toNat ≤ 57 then some (c.toNat - 48)
    else if 97 ≤ c.toNat ∧ c.toNat ≤ 102 then some (c.toNat - 87)
    else if 65 ≤ c.toNat ∧ c.toNat ≤ 70 then some (c.toNat - 55)
    else none := by
  simp [hexValue?, isAsciiDigit, Grammar.le_iff_toNat_le]

theorem digitsBelow_iff {base : Nat} {c : Char} :
    digitsBelow base c = true ↔ ∃ value < base, hexValue? c = some value := by
  unfold digitsBelow
  split <;> simp_all

theorem isAsciiDigit_iff {c : Char} : isAsciiDigit c = true ↔ digitsBelow 10 c = true := by
  rw [digitsBelow_iff, hexValue?_eq]
  simp only [isAsciiDigit, Grammar.le_iff_toNat_le, Bool.and_eq_true, decide_eq_true_eq,
    show '0'.toNat = 48 from rfl, show '9'.toNat = 57 from rfl]
  constructor
  · intro digit
    exact ⟨c.toNat - 48, by omega, if_pos digit⟩
  · rintro ⟨value, small, found⟩
    split_ifs at found <;> simp at found <;> omega

/-- A mark for base sixteen or two does not begin what stands behind the zero of base eight. -/
theorem unmarked_octal {digits suffix : List Char} (valid : ∀ d ∈ digits, digitsBelow 8 d = true)
    (closed : IntegerSuffix suffix) :
    ∀ c ∈ (digits ++ suffix).head?, c ∉ ['x', 'X', 'b', 'B'] := by
  have noDigits : ∀ c ∈ ['x', 'X', 'b', 'B'], digitsBelow 8 c = false :=
    List.all_iff_forall_prop.mp (by decide)
  have noSuffix : ∀ c ∈ ['x', 'X', 'b', 'B'], c ∉ ['u', 'U', 'l', 'L'] :=
    List.all_iff_forall_prop.mp (by decide)
  intro c first marked
  cases digits with
  | nil => exact noSuffix c marked (closed.head_mem c first)
  | cons d rest =>
      obtain rfl : d = c := by simpa using first
      exact Bool.false_ne_true ((noDigits d marked).symm.trans (valid d List.mem_cons_self))

/-- A digit in front of digits and a suffix is one of the digits. -/
theorem exists_digits {base : Nat} {c : Char} {rest digits suffix : List Char}
    (digit : digitsBelow base c = true) (closed : IntegerSuffix suffix)
    (same : c :: rest = digits ++ suffix) : ∃ others, digits = c :: others := by
  cases digits with
  | nil =>
      rw [List.nil_append] at same
      exact absurd digit (closed.not_digit base c (by rw [← same]; rfl))
  | cons d others => exact ⟨others, by rw [(List.cons.inj same).1]⟩

theorem integerLiteral_of_read {text : List Char} {n : Integer} (read : integer? text = some n) :
    IntegerLiteral text n := by
  obtain ⟨base, digits⟩ := n
  unfold integer? at read
  split at read
  · rename_i mark digit rest
    split_ifs at read with hexadecimal binary
    · obtain ⟨rfl, suffix, same, valid, closed⟩ := integerIn?_eq_some.mp read
      simp only [Bool.and_eq_true, Bool.or_eq_true, beq_iff_eq] at hexadecimal
      obtain ⟨others, rfl⟩ := exists_digits hexadecimal.2 closed same
      rw [same]
      exact .hexadecimal (by simpa using hexadecimal.1) (List.cons_ne_nil _ _) valid closed
    · obtain ⟨rfl, suffix, same, valid, closed⟩ := integerIn?_eq_some.mp read
      simp only [Bool.and_eq_true, Bool.or_eq_true, beq_iff_eq] at binary
      obtain ⟨others, rfl⟩ := exists_digits binary.2 closed same
      rw [same]
      exact .binary (by simpa using binary.1) (List.cons_ne_nil _ _) valid closed
    · obtain ⟨rfl, suffix, same, valid, closed⟩ := integerIn?_eq_some.mp read
      rw [same]
      exact .octal valid closed
  · obtain ⟨rfl, suffix, rfl, valid, closed⟩ := integerIn?_eq_some.mp read
    exact .octal valid closed
  · rename_i c rest _ nonzero
    split_ifs at read with digit
    obtain ⟨rfl, suffix, same, valid, closed⟩ := integerIn?_eq_some.mp read
    obtain ⟨others, rfl⟩ := exists_digits (isAsciiDigit_iff.mp digit) closed same
    rw [same]
    exact .decimal (fun zero => nonzero zero) valid closed
  · cases read

/-- Exactly the integer literals are read as integers. -/
theorem integer?_eq_some {text : List Char} {n : Integer} :
    integer? text = some n ↔ IntegerLiteral text n := by
  refine ⟨integerLiteral_of_read, ?_⟩
  rintro (⟨marked, given, valid, closed⟩ | ⟨marked, given, valid, closed⟩ | ⟨valid, closed⟩ |
    ⟨nonzero, valid, closed⟩)
  case hexadecimal mark digits suffix =>
    obtain ⟨d, others, rfl⟩ := List.exists_cons_of_ne_nil given
    have own := valid d List.mem_cons_self
    have marked : mark = 'x' ∨ mark = 'X' := by simpa using marked
    rw [List.cons_append, integer?, if_pos (by simpa [own] using marked)]
    exact integerIn?_eq_some.mpr ⟨rfl, suffix, rfl, valid, closed⟩
  case binary mark digits suffix =>
    obtain ⟨d, others, rfl⟩ := List.exists_cons_of_ne_nil given
    have own := valid d List.mem_cons_self
    have marked : mark = 'b' ∨ mark = 'B' := by simpa using marked
    have other : ¬ (mark = 'x' ∨ mark = 'X') := by rcases marked with rfl | rfl <;> decide
    rw [List.cons_append, integer?, if_neg (by simp [other]), if_pos (by simpa [own] using marked)]
    exact integerIn?_eq_some.mpr ⟨rfl, suffix, rfl, valid, closed⟩
  case octal digits suffix =>
    have unmarked := unmarked_octal valid closed
    have read : integerIn? 8 (digits ++ suffix) = some ⟨8, digits⟩ :=
      integerIn?_eq_some.mpr ⟨rfl, suffix, rfl, valid, closed⟩
    match rest : digits ++ suffix with
    | [] | [_] => rwa [rest] at read
    | first :: second :: others =>
        rw [rest] at unmarked read
        have unmarked : ¬ first = 'x' ∧ ¬ first = 'X' ∧ ¬ first = 'b' ∧ ¬ first = 'B' := by
          simpa using unmarked first rfl
        rw [integer?, if_neg (by simp [unmarked]), if_neg (by simp [unmarked])]
        exact read
  case decimal first digits suffix =>
    have digit := isAsciiDigit_iff.mpr (valid first List.mem_cons_self)
    rw [List.cons_append, integer?, if_pos digit]
    · exact integerIn?_eq_some.mpr ⟨rfl, suffix, rfl, valid, closed⟩
    · exact fun _ _ _ zero => absurd zero nonzero
    · exact fun zero => absurd zero nonzero

theorem ofDigits_eq (base : Nat) (digits : List Nat) :
    Number.ofDigits base digits = Nat.ofDigits base digits.reverse := by
  rw [Nat.ofDigits_eq_foldr, List.foldr_reverse, Number.ofDigits]
  congr 1
  funext value digit
  simp [Nat.mul_comm, Nat.add_comm]

/-- What is computed for the digits is their positional value. -/
theorem Integer.value_eq (n : Integer) : n.value = positional n.base n.digits := by
  rw [value, valueIn, ofDigits_eq, positional, List.map_reverse]

/-! Floating literals as a grammar, and that exactly these are read. Their digits may come from
any script. -/

/-- The value of decimal digits, the first digit counting most. -/
def decimalNumber (digits : List Char) : Nat :=
  Nat.ofDigits 10 (digits.filterMap decimalValue?).reverse

/-- An optional sign; `true` stands for minus. -/
inductive SignMark : Bool → List Char → Prop
  | absent : SignMark false []
  | plus : SignMark false ['+']
  | minus : SignMark true ['-']

/-- A mark with signed digits behind it, or nothing. -/
inductive Exponent : List Char → Int → Prop
  | absent : Exponent [] 0
  | written {mark : Char} {negative : Bool} {sign digits : List Char} (marked : mark ∈ ['e', 'E'])
      (signed : SignMark negative sign) (given : digits ≠ [])
      (valid : ∀ d ∈ digits, isDecimal d = true) :
      Exponent (mark :: (sign ++ digits)) (Literal.signed negative (decimalNumber digits))

def FloatSuffix (suffix : List Char) : Prop :=
  suffix = [] ∨ ∃ c ∈ ['f', 'F', 'l', 'L'], suffix = [c]

/-- A point with a digit before or behind it, or digits that have an exponent. -/
inductive FloatingLiteral : List Char → Binary64 → Prop
  | fraction {whole fraction exponent suffix : List Char} {power : Int}
      (given : whole ++ fraction ≠ []) (valid : ∀ d ∈ whole ++ fraction, isDecimal d = true)
      (scaled : Exponent exponent power) (closed : FloatSuffix suffix) :
      FloatingLiteral (whole ++ '.' :: (fraction ++ (exponent ++ suffix)))
        (.ofDecimal false (decimalNumber (whole ++ fraction)) (power - fraction.length))
  | scaled {whole exponent suffix : List Char} {power : Int} (given : whole ≠ [])
      (valid : ∀ d ∈ whole, isDecimal d = true) (scaled : Exponent exponent power)
      (written : exponent ≠ []) (closed : FloatSuffix suffix) :
      FloatingLiteral (whole ++ (exponent ++ suffix)) (.ofDecimal false (decimalNumber whole) power)

theorem takeDecimals_eq (text : List Char) : takeDecimals text =
    ((text.takeWhile isDecimal).filterMap decimalValue?, text.dropWhile isDecimal) := by
  induction text with
  | nil => rfl
  | cons c rest induction =>
      cases digit : decimalValue? c with
      | none => simp [takeDecimals, isDecimal, digit]
      | some value => simp [takeDecimals, isDecimal, digit, induction]

theorem takeDecimals_append {digits rest : List Char} (valid : ∀ d ∈ digits, isDecimal d = true)
    (stops : ∀ c ∈ rest.head?, ¬ isDecimal c = true) :
    takeDecimals (digits ++ rest) = (digits.filterMap decimalValue?, rest) := by
  obtain ⟨taken, dropped⟩ := takeWhile_append_head valid stops
  rw [takeDecimals_eq, taken, dropped]

theorem exists_takeDecimals (text : List Char) : ∃ digits rest, text = digits ++ rest ∧
    (∀ d ∈ digits, isDecimal d = true) ∧
    takeDecimals text = (digits.filterMap decimalValue?, rest) :=
  ⟨_, _, (List.takeWhile_append_dropWhile).symm, fun _ member => List.mem_takeWhile_imp member,
    takeDecimals_eq text⟩

theorem decimalNumber_eq (digits : List Char) :
    ofDigits 10 (digits.filterMap decimalValue?) = decimalNumber digits :=
  ofDigits_eq 10 _

theorem length_filterMap {digits : List Char} (valid : ∀ d ∈ digits, isDecimal d = true) :
    (digits.filterMap decimalValue?).length = digits.length := by
  induction digits with
  | nil => rfl
  | cons d rest induction =>
      obtain ⟨own, others⟩ := List.forall_mem_cons.mp valid
      obtain ⟨value, digit⟩ := Option.isSome_iff_exists.mp own
      simp [digit, induction others]

theorem isEmpty_filterMap {digits : List Char} (valid : ∀ d ∈ digits, isDecimal d = true) :
    (digits.filterMap decimalValue?).isEmpty = digits.isEmpty := by
  rw [Bool.eq_iff_iff, List.isEmpty_iff_length_eq_zero, List.isEmpty_iff_length_eq_zero,
    length_filterMap valid]

/-! Signs, exponents and suffixes. -/

theorem takeSign_append {negative : Bool} {sign rest : List Char}
    (signed : SignMark negative sign) (plain : ∀ c ∈ rest.head?, isSign c = false) :
    takeSign (sign ++ rest) = (negative, rest) := by
  cases signed with
  | absent =>
      cases rest with
      | nil => rfl
      | cons c rest => simp [takeSign, plain c rfl]
  | plus => rfl
  | minus => rfl

theorem exists_takeSign (text : List Char) : ∃ negative sign rest, text = sign ++ rest ∧
    SignMark negative sign ∧ takeSign text = (negative, rest) := by
  cases text with
  | nil => exact ⟨false, [], [], rfl, .absent, rfl⟩
  | cons c rest =>
      by_cases sign : isSign c = true
      · have marks : c = '+' ∨ c = '-' := by simpa [isSign] using sign
        rcases marks with rfl | rfl
        · exact ⟨false, ['+'], rest, rfl, .plus, rfl⟩
        · exact ⟨true, ['-'], rest, rfl, .minus, rfl⟩
      · exact ⟨false, [], c :: rest, rfl, .absent, by simp [takeSign, sign]⟩

theorem FloatSuffix.stops {suffix : List Char} (closed : FloatSuffix suffix) :
    ∀ c ∈ suffix.head?, c ∈ ['f', 'F', 'l', 'L'] := by
  rcases closed with rfl | ⟨c, marks, rfl⟩
  · simp
  · intro d first
    obtain rfl : c = d := by simpa using first
    exact marks

/-- Marks, signs and points are no digits. -/
theorem not_isDecimal :
    ∀ c ∈ ['f', 'F', 'l', 'L', 'e', 'E', '.', '+', '-'], ¬ isDecimal c = true :=
  List.all_iff_forall_prop.mp (by decide)

theorem FloatSuffix.not_isDecimal {suffix : List Char} (closed : FloatSuffix suffix) :
    ∀ c ∈ suffix.head?, ¬ isDecimal c = true := by
  intro c first
  exact Literal.not_isDecimal c (List.mem_append_left _ (closed.stops c first))

theorem isSign_eq_false {c : Char} (digit : isDecimal c = true) : isSign c = false := by
  rw [Bool.eq_false_iff]
  intro sign
  have marks : c = '+' ∨ c = '-' := by simpa [isSign] using sign
  exact not_isDecimal c (by rcases marks with rfl | rfl <;> decide) digit

theorem takeExponent_append {exponent suffix : List Char} {power : Int}
    (scaled : Exponent exponent power) (closed : FloatSuffix suffix) :
    takeExponent (exponent ++ suffix) = (power, suffix) := by
  cases scaled with
  | absent =>
      rcases closed with rfl | ⟨c, marks, rfl⟩
      · rfl
      · have other : c ≠ 'e' ∧ c ≠ 'E' := by
          constructor <;> rintro rfl <;> exact absurd marks (by decide)
        simp [takeExponent, other]
  | @written mark negative sign digits marked signed given valid =>
      have plain : ∀ c ∈ (digits ++ suffix).head?, isSign c = false := by
        obtain ⟨d, rest, rfl⟩ := List.exists_cons_of_ne_nil given
        intro c first
        obtain rfl : d = c := by simpa using first
        exact isSign_eq_false (valid d List.mem_cons_self)
      have marked : mark = 'e' ∨ mark = 'E' := by simpa using marked
      rw [List.cons_append, List.append_assoc, takeExponent, if_pos (by simpa using marked),
        takeSign_append signed plain]
      dsimp only
      rw [takeDecimals_append valid closed.not_isDecimal]
      dsimp only
      rw [isEmpty_filterMap valid, if_neg (by simpa using given), decimalNumber_eq,
        Literal.signed]

theorem exists_takeExponent (text : List Char) : ∃ exponent power rest, text = exponent ++ rest ∧
    Exponent exponent power ∧ takeExponent text = (power, rest) := by
  have nothing : ∃ exponent power rest, text = exponent ++ rest ∧ Exponent exponent power ∧
      ((0 : Int), text) = (power, rest) := ⟨[], 0, text, rfl, .absent, rfl⟩
  cases text with
  | nil => exact nothing
  | cons mark rest =>
      rw [takeExponent]
      split_ifs with marked
      · obtain ⟨negative, sign, unsigned, rfl, signed, read⟩ := exists_takeSign rest
        obtain ⟨digits, after, rfl, valid, taken⟩ := exists_takeDecimals unsigned
        rw [read]
        dsimp only
        rw [taken]
        dsimp only
        rw [isEmpty_filterMap valid, decimalNumber_eq]
        by_cases missing : digits.isEmpty = true
        · rw [if_pos missing]
          exact nothing
        · rw [if_neg missing]
          exact ⟨mark :: (sign ++ digits), _, after, by simp,
            .written (by simpa using marked) signed (by simpa using missing) valid, rfl⟩
      · exact nothing

/-! The number as a whole. -/

/-- What stands behind the leading digits tells a floating literal. -/
theorem float?_eq_some {text : List Char} {value : Binary64} : float? text = some value ↔
    (∃ c ∈ (takeDecimals text).2.head?, c ∈ ['.', 'e', 'E']) ∧
      ∃ suffix, takeDecimalNumber? false text = some (value, suffix) ∧ FloatSuffix suffix := by
  rw [float?]
  obtain ⟨digits, rest⟩ := takeDecimals text
  cases rest with
  | nil => simp
  | cons c rest =>
      have marks : (c == '.' || c == 'e' || c == 'E') = true ↔ c ∈ ['.', 'e', 'E'] := by
        simp [or_assoc]
      simp only [List.head?_cons, Option.mem_some_iff, exists_eq_left', ← marks]
      cases c == '.' || c == 'e' || c == 'E' with
      | false => simp
      | true =>
          match takeDecimalNumber? false text with
          | none | some (_, []) | some (_, _ :: _ :: _) => simp [FloatSuffix]
          | some (_, [c]) => simp [FloatSuffix, and_comm]

theorem takeDecimalNumber?_point {text rest after : List Char} {whole fraction : List Nat}
    (first : takeDecimals text = (whole, '.' :: rest))
    (second : takeDecimals rest = (fraction, after)) :
    takeDecimalNumber? false text =
      if whole.isEmpty && fraction.isEmpty then none
      else some (.ofDecimal false (ofDigits 10 (whole ++ fraction))
        ((takeExponent after).1 - fraction.length), (takeExponent after).2) := by
  rw [takeDecimalNumber?, first]
  simp only [second]

theorem takeDecimalNumber?_pointless {text after : List Char} {whole : List Nat}
    (first : takeDecimals text = (whole, after)) (other : after.head? ≠ some '.') :
    takeDecimalNumber? false text =
      if whole.isEmpty then none
      else some (.ofDecimal false (ofDigits 10 whole) (takeExponent after).1,
        (takeExponent after).2) := by
  rw [takeDecimalNumber?, first]
  match after with
  | [] => simp
  | c :: rest =>
      have other : c ≠ '.' := by simpa using other
      simp [other]

theorem Exponent.not_isDecimal {exponent suffix : List Char} {power : Int}
    (scaled : Exponent exponent power) (closed : FloatSuffix suffix) :
    ∀ c ∈ (exponent ++ suffix).head?, ¬ isDecimal c = true := by
  cases scaled with
  | absent => exact closed.not_isDecimal
  | @written mark _ _ _ marked =>
      intro c first
      obtain rfl : mark = c := by simpa using first
      have marked : mark = 'e' ∨ mark = 'E' := by simpa using marked
      exact Literal.not_isDecimal mark (by rcases marked with rfl | rfl <;> decide)

theorem Exponent.head_mem {exponent : List Char} {power : Int} (scaled : Exponent exponent power)
    (written : exponent ≠ []) (suffix : List Char) :
    ∃ c ∈ ['e', 'E'], (exponent ++ suffix).head? = some c := by
  cases scaled with
  | absent => exact absurd rfl written
  | written marked => exact ⟨_, marked, rfl⟩

theorem float?_of_literal {text : List Char} {value : Binary64}
    (literal : FloatingLiteral text value) : float? text = some value := by
  rw [float?_eq_some]
  cases literal with
  | @fraction whole fraction exponent suffix power given valid scaled closed =>
      obtain ⟨wholeValid, fractionValid⟩ := List.forall_mem_append.mp valid
      have point : ∀ c ∈ ('.' :: (fraction ++ (exponent ++ suffix))).head?,
          ¬ isDecimal c = true := by
        simpa using not_isDecimal '.' (by decide)
      have first := takeDecimals_append wholeValid point
      have second := takeDecimals_append fractionValid (scaled.not_isDecimal closed)
      have digit : ¬ (whole.isEmpty && fraction.isEmpty) = true := by simpa using given
      refine ⟨⟨'.', by rw [first]; rfl, by decide⟩, suffix, ?_, closed⟩
      rw [takeDecimalNumber?_point first second, isEmpty_filterMap wholeValid,
        isEmpty_filterMap fractionValid, if_neg digit, takeExponent_append scaled closed,
        ← List.filterMap_append, decimalNumber_eq, length_filterMap fractionValid]
  | @scaled whole exponent suffix power given valid scaled written closed =>
      have first := takeDecimals_append valid (scaled.not_isDecimal closed)
      obtain ⟨c, marked, head⟩ := scaled.head_mem written suffix
      have other : c ≠ '.' := by rintro rfl; exact absurd marked (by decide)
      refine ⟨⟨c, by rw [first]; exact head, List.mem_cons_of_mem _ marked⟩, suffix, ?_, closed⟩
      rw [takeDecimalNumber?_pointless first (by rw [head]; simpa using other),
        isEmpty_filterMap valid, if_neg (by simpa using given), takeExponent_append scaled closed,
        decimalNumber_eq]

theorem literal_of_float? {text : List Char} {value : Binary64} (read : float? text = some value) :
    FloatingLiteral text value := by
  obtain ⟨⟨c, head, marked⟩, suffix, number, closed⟩ := float?_eq_some.mp read
  obtain ⟨whole, after, rfl, wholeValid, first⟩ := exists_takeDecimals text
  obtain ⟨rest, rfl⟩ : ∃ rest, after = c :: rest := by
    rw [first] at head
    cases after with
    | nil => cases head
    | cons d rest => exact ⟨rest, by rw [Option.some.inj head]⟩
  by_cases point : c = '.'
  · subst point
    obtain ⟨fraction, tail, rfl, fractionValid, second⟩ := exists_takeDecimals rest
    obtain ⟨exponent, power, remains, rfl, scaled, taken⟩ := exists_takeExponent tail
    rw [takeDecimalNumber?_point first second, taken, isEmpty_filterMap wholeValid,
      isEmpty_filterMap fractionValid] at number
    split_ifs at number with missing
    obtain ⟨rfl, rfl⟩ := Prod.mk.inj (Option.some.inj number)
    rw [← List.filterMap_append, decimalNumber_eq, length_filterMap fractionValid]
    exact .fraction (by simpa using missing)
      (List.forall_mem_append.mpr ⟨wholeValid, fractionValid⟩) scaled closed
  · obtain ⟨exponent, power, remains, same, scaled, taken⟩ := exists_takeExponent (c :: rest)
    rw [takeDecimalNumber?_pointless first (by simpa using point), taken,
      isEmpty_filterMap wholeValid] at number
    split_ifs at number with missing
    obtain ⟨rfl, rfl⟩ := Prod.mk.inj (Option.some.inj number)
    rw [decimalNumber_eq, same]
    refine .scaled (by simpa using missing) wholeValid scaled ?_ closed
    rintro rfl
    have marks := closed.stops c (by rw [← List.nil_append remains, ← same]; rfl)
    have unmarked : ∀ c ∈ ['f', 'F', 'l', 'L'], c ∉ ['.', 'e', 'E'] :=
      List.all_iff_forall_prop.mp (by decide)
    exact unmarked c marks marked

/-- Exactly the floating literals are read as floating. -/
theorem float?_iff {text : List Char} {value : Binary64} :
    float? text = some value ↔ FloatingLiteral text value :=
  ⟨literal_of_float?, float?_of_literal⟩

theorem isDecimal_of_digitsBelow {base : Nat} (small : base ≤ 10) {c : Char}
    (valid : digitsBelow base c = true) : isDecimal c = true := by
  have digit := isAsciiDigit_iff.mpr (digitsBelow_of_le small valid)
  simp [isDecimal, decimalValue?, digit]

/-- Neither a digit nor what makes a number floating. -/
def EndsDigits (c : Char) : Prop := ¬ isDecimal c = true ∧ c ∉ ['.', 'e', 'E']

theorem float?_eq_none {digits rest : List Char} (valid : ∀ d ∈ digits, isDecimal d = true)
    (ends : ∀ c ∈ rest.head?, EndsDigits c) : float? (digits ++ rest) = none := by
  rw [Option.eq_none_iff_forall_ne_some]
  intro value read
  obtain ⟨⟨c, head, marked⟩, -⟩ := float?_eq_some.mp read
  rw [takeDecimals_append valid fun c first => (ends c first).1] at head
  exact (ends c head).2 marked

/-- No integer literal has a point or an exponent. -/
theorem float?_of_integerLiteral {text : List Char} {n : Integer}
    (literal : IntegerLiteral text n) : float? text = none := by
  have zero : ∀ d ∈ ['0'], isDecimal d = true := List.all_iff_forall_prop.mp (by decide)
  have letters : ∀ c ∈ ['u', 'U', 'l', 'L', 'x', 'X', 'b', 'B'],
      ¬ isDecimal c = true ∧ c ∉ ['.', 'e', 'E'] :=
    List.all_iff_forall_prop.mp (by decide)
  have suffixed {suffix : List Char} (closed : IntegerSuffix suffix) :
      ∀ c ∈ suffix.head?, EndsDigits c := fun c first =>
    letters c (List.mem_append_left ['x', 'X', 'b', 'B'] (closed.head_mem c first))
  cases literal with
  | @hexadecimal mark digits suffix marked =>
      have own := letters mark (List.mem_append_left ['b', 'B']
        (List.mem_append_right ['u', 'U', 'l', 'L'] marked))
      exact @float?_eq_none ['0'] (mark :: (digits ++ suffix)) zero
        (by simpa [EndsDigits] using own)
  | @binary mark digits suffix marked =>
      have own := letters mark (List.mem_append_right ['u', 'U', 'l', 'L', 'x', 'X'] marked)
      exact @float?_eq_none ['0'] (mark :: (digits ++ suffix)) zero
        (by simpa [EndsDigits] using own)
  | @octal digits suffix valid closed =>
      refine @float?_eq_none ('0' :: digits) suffix (List.forall_mem_cons.mpr
        ⟨zero '0' (by simp), fun d member => ?_⟩) (suffixed closed)
      exact isDecimal_of_digitsBelow (by decide) (valid d member)
  | decimal nonzero valid closed =>
      exact float?_eq_none (fun d member => isDecimal_of_digitsBelow le_rfl (valid d member))
        (suffixed closed)

end LuaBinder.Header.Literal
