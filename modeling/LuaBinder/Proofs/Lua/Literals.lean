import LuaBinder.Proofs.Lua.Strings
import Mathlib.Algebra.Field.Rat
import Mathlib.Algebra.GroupWithZero.Basic
import Mathlib.Data.Rat.Lemmas
import Mathlib.Tactic.NormNum

namespace LuaBinder.Number.Binary64

/-! Integers that a binary64 number holds exactly. -/

/-- What a finite number stands for. -/
def value? : Binary64 → Option ℚ
  | .finite negative significand exponent =>
      let magnitude : ℚ := significand * 2 ^ exponent
      some (if negative then -magnitude else magnitude)
  | .infinite _ | .nan => none

theorem value?_negate (number : Binary64) : number.negate.value? = number.value?.map (-·) := by
  cases number with
  | finite negative significand exponent => cases negative <;> simp [negate, value?]
  | infinite negative => rfl
  | nan => rfl

/-- A quotient without a remainder is not rounded. -/
theorem roundDiv_mul (quotient : Nat) {den : Nat} (positive : 0 < den) :
    roundDiv (quotient * den) den = quotient := by
  simp [roundDiv, Nat.mul_div_cancel _ positive, positive]

/-- The significand of an integer starts with the integer's highest bit. -/
theorem exponentOf_one {n : Nat} (positive : n ≠ 0) (small : n.log2 ≤ 52) :
    exponentOf n 1 = n.log2 - 52 := by
  have low : 2 ^ n.log2 ≤ n := Nat.log2_self_le positive
  have one : Nat.log2 1 = 0 := by decide
  have above : if 0 ≤ (n.log2 : Int) - 0 - 52
      then 1 * Nat.pow 2 (((n.log2 : Int) - 0 - 52).toNat + 52) ≤ n
      else 1 * Nat.pow 2 52 ≤ n * Nat.pow 2 (-((n.log2 : Int) - 0 - 52)).toNat := by
    split_ifs with large
    · have same : ((n.log2 : Int) - 0 - 52).toNat + 52 = n.log2 := by omega
      rw [same, one_mul]
      exact low
    · have same : n.log2 + (-((n.log2 : Int) - 0 - 52)).toNat = 52 := by omega
      calc 1 * Nat.pow 2 52 = 2 ^ n.log2 * 2 ^ (-((n.log2 : Int) - 0 - 52)).toNat := by
            rw [← Nat.pow_add, same, one_mul]
        _ ≤ n * Nat.pow 2 (-((n.log2 : Int) - 0 - 52)).toNat := Nat.mul_le_mul_right _ low
  simp only [exponentOf, one, Nat.cast_zero]
  rw [if_pos (by simpa using above)]
  simp only [minExponent]
  omega

theorem ofRatio_one {n : Nat} (positive : n ≠ 0) (small : n < 2 ^ 53) :
    ofRatio false n 1 = .finite false (n * 2 ^ (52 - n.log2)) (n.log2 - 52) := by
  have bits : n.log2 ≤ 52 := Nat.le_of_lt_succ ((Nat.log2_lt positive).mpr small)
  have rounded : (if 0 ≤ (n.log2 : Int) - 52
      then roundDiv n (1 * Nat.pow 2 ((n.log2 : Int) - 52).toNat)
      else roundDiv (n * Nat.pow 2 (-((n.log2 : Int) - 52)).toNat) 1) =
      n * 2 ^ (52 - n.log2) := by
    split_ifs with large
    · have full : n.log2 = 52 := by omega
      simpa [full] using roundDiv_mul n (by decide : 0 < 1)
    · have shift : (-((n.log2 : Int) - 52)).toNat = 52 - n.log2 := by omega
      simpa [shift] using roundDiv_mul (n * 2 ^ (52 - n.log2)) (by decide : 0 < 1)
  have below : n * 2 ^ (52 - n.log2) < 2 ^ 53 :=
    calc n * 2 ^ (52 - n.log2) < 2 ^ (n.log2 + 1) * 2 ^ (52 - n.log2) :=
          Nat.mul_lt_mul_of_pos_right Nat.lt_log2_self (Nat.two_pow_pos _)
      _ = 2 ^ 53 := by rw [← Nat.pow_add]; congr 1; omega
  have finite : ¬maxExponent < (n.log2 : Int) - 52 := by
    simp only [maxExponent]
    omega
  simp only [ofRatio, beq_iff_eq, positive, if_false, exponentOf_one positive bits]
  have other : n * 2 ^ (52 - n.log2) ≠ Nat.pow 2 53 := Nat.ne_of_lt below
  simp only [rounded, other, if_false, finite]

theorem value?_ofRatio {n : Nat} (small : n ≤ 2 ^ 53) :
    (ofRatio false n 1).value? = some (n : ℚ) := by
  rcases Nat.eq_zero_or_pos n with rfl | positive
  · simp [ofRatio, value?]
  rcases Nat.lt_or_eq_of_le small with below | rfl
  · have bits : n.log2 ≤ 52 :=
      Nat.le_of_lt_succ ((Nat.log2_lt (Nat.ne_of_gt positive)).mpr below)
    have shift : (2 : ℚ) ^ (52 - n.log2) * 2 ^ ((n.log2 : Int) - 52) = 1 := by
      rw [← zpow_natCast, ← zpow_add₀ two_ne_zero]
      convert zpow_zero (2 : ℚ) using 2
      omega
    simp [ofRatio_one (Nat.ne_of_gt positive) below, value?, mul_assoc, shift]
  · have top : ofRatio false (2 ^ 53) 1 = .finite false (2 ^ 52) 1 := by decide
    rw [top]
    norm_num [value?]

/-- Every integer up to `2 ^ 53` is a number, and its decimal digits are read as it. -/
theorem value?_ofDecimal {n : Nat} (small : n ≤ 2 ^ 53) :
    (ofDecimal false n 0).value? = some (n : ℚ) := by
  by_cases zero : n = 0
  · simp [zero, ofDecimal, value?]
  have short : decimalLength n ≤ 16 := by
    rw [decimalLength, if_neg (by simpa using zero)]
    exact (Nat.length_toDigits_le_iff (by decide) (by decide)).mpr
      (Nat.lt_of_le_of_lt small (by decide))
  have above : ¬(decimalLength n : Int) < -330 := by omega
  have below : ¬310 < decimalLength n := by omega
  simpa [ofDecimal, zero, above, below] using value?_ofRatio small

end LuaBinder.Number.Binary64

namespace LuaBinder.Lua

open Text LuaModule Number

/-! Numbers of LuaJIT: doubles, and integers of 64 bits, signed or not. -/

inductive Constant where
  | double (number : Binary64)
  | int64 (bits : BitVec 64)
  | uint64 (bits : BitVec 64)
  deriving DecidableEq, Repr

namespace Constant

def negate : Constant → Constant
  | double number => double number.negate
  | int64 bits => int64 (-bits)
  | uint64 bits => uint64 (-bits)

def value? : Constant → Option ℚ
  | double number => number.value?
  | int64 bits => some bits.toInt
  | uint64 bits => some bits.toNat

/-- The bits of an integer of 64 bits. -/
def bits? : Constant → Option (BitVec 64)
  | double _ => none
  | int64 bits | uint64 bits => some bits

end Constant

/-- What a number in decimal digits alone is, by the letters behind them. -/
def suffixed? (value : Nat) (suffix : List Char) : Option Constant :=
  match String.ofList (suffix.map Char.toLower) with
  | "" => some (.double (Binary64.ofDecimal false value 0))
  | "ll" => if value < 2 ^ 64 then some (.int64 (BitVec.ofNat 64 value)) else none
  | "ull" | "llu" => if value < 2 ^ 64 then some (.uint64 (BitVec.ofNat 64 value)) else none
  | _ => none

def numeral? (lexeme : List UInt8) : Option Constant :=
  let text := lexeme.map Char.ofUInt8
  let digits := text.takeWhile isAsciiDigit
  if digits.isEmpty then none
  else suffixed? (Nat.ofDigitChars 10 digits 0) (text.dropWhile isAsciiDigit)

/-- A number, or one behind a minus. -/
def constant? : List Token → Option Constant
  | [.number lexeme] => numeral? lexeme
  | [.mark "-", .number lexeme] => (numeral? lexeme).map Constant.negate
  | _ => none

/-! A natural number in decimal digits, with letters of an integer of 64 bits behind it. -/

theorem exists_digit {c : Char} (digit : isAsciiDigit c = true) :
    ∃ n < 10, c = Char.ofNat (48 + n) := by
  simp only [isAsciiDigit, Bool.and_eq_true, decide_eq_true_eq, Grammar.le_iff_toNat_le] at digit
  have facts : '0'.toNat = 48 ∧ '9'.toNat = 57 := by decide
  refine ⟨c.toNat - 48, by omega, ?_⟩
  rw [show 48 + (c.toNat - 48) = c.toNat by omega, Char.ofNat_toNat]

/-- Digits and the letters of suffixes are letters of a number, and no exponent marks. -/
theorem numeralChar_facts {c : Char} (char : isAsciiDigit c = true ∨ c ∈ ['U', 'L']) :
    c.toNat < 128 ∧ isNameChar c = true ∧ c.toLower ∉ ['e', 'p'] := by
  have digits : ∀ n < 10, (Char.ofNat (48 + n)).toNat < 128 ∧
      isNameChar (Char.ofNat (48 + n)) = true ∧
      (Char.ofNat (48 + n)).toLower ∉ ['e', 'p'] := by decide
  have letters : ∀ c ∈ ['U', 'L'], c.toNat < 128 ∧ isNameChar c = true ∧
      c.toLower ∉ ['e', 'p'] := List.all_iff_forall_prop.mp (by decide)
  rcases char with digit | letter
  · obtain ⟨n, small, rfl⟩ := exists_digit digit
    exact digits n small
  · exact letters c letter

section
variable {suffix : String} (letters : ∀ c ∈ suffix.toList, c ∈ ['U', 'L']) (n : Nat)

theorem toList_numeral : (toString n ++ suffix).toList = Nat.toDigits 10 n ++ suffix.toList := by
  simp

theorem digit_of_mem {c : Char} (member : c ∈ Nat.toDigits 10 n) : isAsciiDigit c = true :=
  Nat.isDigit_of_mem_toDigits (by decide) (by decide) member

include letters in
theorem numeralChar_of_mem {c : Char} (member : c ∈ (toString n ++ suffix).toList) :
    isAsciiDigit c = true ∨ c ∈ ['U', 'L'] := by
  rw [toList_numeral, List.mem_append] at member
  exact member.imp (digit_of_mem n) (letters c)

include letters in
theorem bytes_numeral : bytes (toString n ++ suffix) =
    (toString n ++ suffix).toList.map Char.toUInt8 :=
  bytes_of_ascii fun _ member => (numeralChar_facts (numeralChar_of_mem letters n member)).1

include letters in
theorem map_bytes_numeral : (bytes (toString n ++ suffix)).map Char.ofUInt8 =
    (toString n ++ suffix).toList := by
  rw [bytes_numeral letters, List.map_map]
  refine List.map_congr_left (fun c member => ?_) |>.trans (List.map_id _)
  exact ofUInt8_toUInt8 (numeralChar_facts (numeralChar_of_mem letters n member)).1

include letters in
theorem numeral?_bytes : numeral? (bytes (toString n ++ suffix)) = suffixed? n suffix.toList := by
  have taken : ∀ c ∈ Nat.toDigits 10 n, isAsciiDigit c = true := fun c => digit_of_mem n
  have stops : suffix.toList.takeWhile isAsciiDigit = [] ∧
      suffix.toList.dropWhile isAsciiDigit = suffix.toList := by
    cases written : suffix.toList with
    | nil => exact ⟨rfl, rfl⟩
    | cons c rest =>
        have first := letters c (by simp [written])
        have stop : isAsciiDigit c = false := by
          have facts : ∀ c ∈ ['U', 'L'], isAsciiDigit c = false :=
            List.all_iff_forall_prop.mp (by decide)
          exact facts c first
        simp [stop]
  rw [numeral?, map_bytes_numeral letters, toList_numeral]
  simp only [List.takeWhile_append_of_pos taken, List.dropWhile_append_of_pos taken, stops,
    List.append_nil, Nat.ofDigitChars_ten_toDigits]
  simp [Nat.toDigits_ne_nil]

include letters in
theorem exists_bytes_numeral : ∃ c text, isAsciiDigit c = true ∧
    bytes (toString n ++ suffix) = c.toUInt8 :: text ∧ ∀ b ∈ text, isNameByte b = true := by
  obtain ⟨c, rest, written⟩ := List.exists_cons_of_ne_nil (Nat.toDigits_ne_nil (n := n) (b := 10))
  refine ⟨c, (rest ++ suffix.toList).map Char.toUInt8, digit_of_mem n (by simp [written]), ?_, ?_⟩
  · rw [bytes_numeral letters, toList_numeral, written]
    rfl
  · intro b member
    obtain ⟨d, later, rfl⟩ := List.mem_map.mp member
    have char := numeralChar_of_mem letters n (c := d) (by
      rw [toList_numeral, written]
      exact List.mem_cons_of_mem c later)
    exact isNameByte_toUInt8 (numeralChar_facts char).2.1 (numeralChar_facts char).1

include letters in
theorem Passes.numeral : Passes .between (bytes (toString n ++ suffix)) []
    (.number (bytes (toString n ++ suffix))) := by
  obtain ⟨c, text, digit, written, others⟩ := exists_bytes_numeral letters n
  have first : Lua.step .between c.toUInt8 = some ([], .number [c.toUInt8]) := by
    simp [Lua.step, start, ofUInt8_toUInt8 (numeralChar_facts (.inl digit)).1, digit]
  rw [written]
  exact Passes.cons first (Passes.number _ others)

include letters in
theorem Passes.negative : Passes .between (bytes ("-" ++ (toString n ++ suffix))) [.mark "-"]
    (.number (bytes (toString n ++ suffix))) := by
  have opened : Lua.step .between '-'.toUInt8 = some ([], .mark "-") := rfl
  obtain ⟨c, text, digit, written, -⟩ := exists_bytes_numeral letters n
  obtain ⟨ascii, name, -⟩ := numeralChar_facts (.inl digit)
  have ends : Lua.step (.mark "-") c.toUInt8 = some (after (.mark "-") (start c.toUInt8)) :=
    step_mark (isNameByte_toUInt8 name ascii) (.inl rfl)
  have inner := Passes.numeral letters n
  rw [written] at inner
  rw [bytes_append, written]
  exact Passes.cons opened (Passes.ending ends inner)

end

/-- A number ends before what is no letter, digit or point. -/
def NumberEnds (rest : List UInt8) : Prop :=
  ∀ b, rest.head? = some b → isNameByte b = false ∧ Char.ofUInt8 b ≠ '.'

theorem tokensFrom_number {read : List UInt8} {rest : List UInt8} (ends : NumberEnds rest)
    (plain : ∀ b ∈ read, (Char.ofUInt8 b).toLower ∉ ['e', 'p']) :
    tokensFrom (.number read) rest = (tokens rest).map (.number read :: ·) := by
  cases rest with
  | nil => rfl
  | cons b rest =>
      obtain ⟨name, point⟩ := ends b rfl
      have last (c : UInt8) (last : read.getLast? = some c) :
          (Char.ofUInt8 c).toLower ≠ 'e' ∧ (Char.ofUInt8 c).toLower ≠ 'p' := by
        simpa using plain c (List.mem_of_getLast? last)
      have stops : numberGoesOn read b = false := by
        simp only [numberGoesOn]
        split_ifs
        · simpa [name, point] using fun _ c ends => (last c ends).2
        · simpa [name, point] using fun _ c ends => (last c ends).1
      exact tokensFrom_ending (by simp [step, stops]) rest

/-- These are the tokens of a number's text wherever no letter, digit or point is behind it. -/
def ReadsNumber (text : String) (read : List Token) : Prop :=
  ∀ rest, NumberEnds rest → tokens (bytes text ++ rest) = (tokens rest).map (read ++ ·)

section
variable {suffix : String} (letters : ∀ c ∈ suffix.toList, c ∈ ['U', 'L']) (n : Nat)

include letters in
theorem Passes.readsNumber {text : String} {front : List Token}
    (passes : Passes .between (bytes text) front (.number (bytes (toString n ++ suffix)))) :
    ReadsNumber text (front ++ [.number (bytes (toString n ++ suffix))]) := by
  intro rest ends
  have plain : ∀ b ∈ bytes (toString n ++ suffix), (Char.ofUInt8 b).toLower ∉ ['e', 'p'] := by
    intro b member
    have char := List.mem_map_of_mem (f := Char.ofUInt8) member
    rw [map_bytes_numeral letters] at char
    exact (numeralChar_facts (numeralChar_of_mem letters n char)).2.2
  rw [tokens, passes, tokensFrom_number ends plain, Option.map_map]
  congr 1
  funext after
  simp

end

/-- An integer's digits are read with its sign before them. -/
theorem exists_readsNumber (v : Int) {suffix : String}
    (letters : ∀ c ∈ suffix.toList, c ∈ ['U', 'L']) :
    ∃ read, ReadsNumber (toString v ++ suffix) read ∧ constant? read =
      (suffixed? v.natAbs suffix.toList).map (if v < 0 then Constant.negate else id) := by
  cases v with
  | ofNat n =>
      refine ⟨_, (Passes.numeral letters n).readsNumber letters n, ?_⟩
      have sign : ¬Int.ofNat n < 0 := Int.not_lt.mpr (Int.natCast_nonneg n)
      rw [List.nil_append, constant?, numeral?_bytes letters, if_neg sign, Option.map_id]
      rfl
  | negSucc n =>
      have text : toString (Int.negSucc n) ++ suffix =
          "-" ++ (toString (n + 1) ++ suffix) := String.append_assoc
      rw [text]
      refine ⟨_, (Passes.negative letters (n + 1)).readsNumber letters (n + 1), ?_⟩
      rw [List.singleton_append, constant?, numeral?_bytes letters,
        if_pos (Int.negSucc_lt_zero n)]
      rfl

/-! The number that is written for an integer. -/

theorem decimal_of_small {v : Int} (small : v.natAbs < 10 ^ 20) :
    decimal v = .ok (toString v) := by
  have short : (toString v.natAbs).length ≤ 20 := by
    rw [Nat.toString_eq_ofList_toDigits, String.length_ofList]
    exact (Nat.length_toDigits_le_iff (by decide) (by decide)).mpr small
  have within : ¬digitLimit < (toString v.natAbs).length := by
    simp only [digitLimit]
    omega
  rw [decimal, if_neg within]

/-- The letters behind an integer. -/
def integerSuffix (v : Int) : String :=
  if v.natAbs ≤ 2 ^ 53 then "" else if 0 < v then "ULL" else "LL"

theorem number_int {v : Int} (small : v.natAbs < 10 ^ 20) :
    LuaModule.number (.int v) = .ok (toString v ++ integerSuffix v) := by
  have limit : (-exactLimit ≤ v && v ≤ exactLimit) = decide (v.natAbs ≤ 2 ^ 53) := by
    have value : exactLimit = 9007199254740992 := by decide
    rw [Bool.eq_iff_iff]
    simp only [value, Bool.and_eq_true, decide_eq_true_eq]
    omega
  simp only [LuaModule.number, LuaModule.integer, decimal_of_small small, limit,
    decide_eq_true_eq, integerSuffix]
  split_ifs <;> simp [unlessOverlong, Except.map, Except.mapError]

theorem letters_integerSuffix (v : Int) : ∀ c ∈ (integerSuffix v).toList, c ∈ ['U', 'L'] := by
  unfold integerSuffix
  split_ifs <;> simp

/-- Up to `2 ^ 53` an integer is a double, which holds it exactly. -/
theorem value?_double {v : Int} (small : v.natAbs ≤ 2 ^ 53) :
    ∃ number, (suffixed? v.natAbs []).map (if v < 0 then Constant.negate else id) =
      some (.double number) ∧ number.value? = some (v : ℚ) := by
  have exact := Binary64.value?_ofDecimal small
  rw [← Int.cast_natCast] at exact
  split_ifs with negative
  · refine ⟨(Binary64.ofDecimal false v.natAbs 0).negate, rfl, ?_⟩
    have magnitude : (v.natAbs : Int) = -v := Int.ofNat_natAbs_of_nonpos (Int.le_of_lt negative)
    rw [Binary64.value?_negate, exact, magnitude, Option.map_some, Int.cast_neg, neg_neg]
  · refine ⟨Binary64.ofDecimal false v.natAbs 0, rfl, ?_⟩
    rw [exact, Int.natAbs_of_nonneg (Int.not_lt.mp negative)]

/-- As one of 64 bits it is read for what it is, and has its bits. -/
theorem value?_bits {v : Int} (low : -2 ^ 63 ≤ v) (high : v < 2 ^ 64) :
    ∃ constant, (suffixed? v.natAbs (if 0 < v then "ULL" else "LL").toList).map
        (if v < 0 then Constant.negate else id) = some constant ∧
      constant.value? = some (v : ℚ) ∧ constant.bits? = some (BitVec.ofInt 64 v) := by
  have below : v.natAbs < 2 ^ 64 := by omega
  by_cases positive : 0 < v
  · have magnitude : (v.natAbs : Int) = v := Int.natAbs_of_nonneg (Int.le_of_lt positive)
    have read : suffixed? v.natAbs "ULL".toList =
        some (.uint64 (BitVec.ofNat 64 v.natAbs)) := if_pos below
    refine ⟨.uint64 (BitVec.ofNat 64 v.natAbs), ?_, ?_, ?_⟩
    · rw [if_pos positive, if_neg (by omega), read, Option.map_id]
      rfl
    · rw [Constant.value?, BitVec.toNat_ofNat, Nat.mod_eq_of_lt below, ← Int.cast_natCast,
        magnitude]
    · rw [Constant.bits?, ← BitVec.ofInt_natCast, magnitude]
  · have magnitude : -(v.natAbs : Int) = v := by
      rw [Int.ofNat_natAbs_of_nonpos (Int.not_lt.mp positive), neg_neg]
    have read : suffixed? v.natAbs "LL".toList =
        some (.int64 (BitVec.ofNat 64 v.natAbs)) := if_pos below
    have bits : -BitVec.ofNat 64 v.natAbs = BitVec.ofInt 64 v := by
      rw [BitVec.neg_ofNat_eq_ofInt_neg, magnitude]
    refine ⟨.int64 (BitVec.ofInt 64 v), ?_, ?_, rfl⟩
    · rw [if_neg positive, read]
      split_ifs with negative
      · rw [Option.map_some, Constant.negate, bits]
      · have zero : v = 0 := Int.le_antisymm (Int.not_lt.mp positive) (Int.not_lt.mp negative)
        rw [zero]
        rfl
    · rw [Constant.value?, BitVec.toInt_ofInt_eq_self (by decide) low (by omega)]

/-- An integer of 64 bits, signed or not, is written as a number that LuaJIT reads as it. -/
theorem number_denotes {v : Int} (low : -2 ^ 63 ≤ v) (high : v < 2 ^ 64) :
    ∃ text read constant, LuaModule.number (.int v) = .ok text ∧ ReadsNumber text read ∧
      constant? read = some constant ∧ constant.value? = some (v : ℚ) ∧
      (v.natAbs ≤ 2 ^ 53 → text = toString v ∧ ∃ number, constant = .double number) ∧
      (2 ^ 53 < v.natAbs → constant.bits? = some (BitVec.ofInt 64 v)) := by
  have written := number_int (v := v) (by omega)
  obtain ⟨read, reads, means⟩ := exists_readsNumber v (letters_integerSuffix v)
  by_cases small : v.natAbs ≤ 2 ^ 53
  · have plain : integerSuffix v = "" := if_pos small
    rw [plain] at written reads means
    obtain ⟨number, double, exact⟩ := value?_double small
    exact ⟨_, read, .double number, written, reads, means.trans double, exact,
      fun _ => ⟨String.append_empty, number, rfl⟩, fun large => absurd small (Nat.not_le.mpr large)⟩
  · have suffix : integerSuffix v = if 0 < v then "ULL" else "LL" := if_neg small
    rw [suffix] at written reads means
    obtain ⟨constant, stands, exact, bits⟩ := value?_bits low high
    exact ⟨_, read, constant, written, reads, means.trans stands, exact,
      fun le => absurd le small, fun _ => bits⟩

/-- Every literal stands for what it was written for. A string is on one line and is one token,
with the bytes of its text. A table's field, and a key in a table constructor, are those of that
key and of no other. An integer of 64 bits is read as itself: up to `2 ^ 53` its plain digits
are a double, beyond it is an integer with its bits. -/
theorem literals_denote :
    (∀ text rest, (∀ c ∈ (string text).toList, isLineBreak c = false) ∧
      tokens (bytes (string text) ++ rest) =
        (tokens rest).map (.string (bytes text) :: ·)) ∧
    (∀ table read key, Reads (bytes table) read → ∃ index,
      (∀ other, Index index other ↔ other = bytes key) ∧
        Reads (bytes (field table key)) (read ++ index)) ∧
    (∀ key, ∃ read, (∀ other, Key read other ↔ other = bytes key) ∧
      Reads (bytes (tableKey key)) read) ∧
    (∀ v : Int, -2 ^ 63 ≤ v → v < 2 ^ 64 → ∃ text read constant,
      LuaModule.number (.int v) = .ok text ∧ ReadsNumber text read ∧
        constant? read = some constant ∧ constant.value? = some (v : ℚ) ∧
        (v.natAbs ≤ 2 ^ 53 → text = toString v ∧ ∃ number, constant = .double number) ∧
        (2 ^ 53 < v.natAbs → constant.bits? = some (BitVec.ofInt 64 v))) := by
  refine ⟨fun text rest => ⟨lineBreak_string text, Passes.string text rest⟩,
    fun table read key reads => ?_, fun key => ?_, fun v low high => number_denotes low high⟩
  · obtain ⟨index, indexes, written⟩ := reads_field reads key
    exact ⟨index, indexes.iff, written⟩
  · obtain ⟨read, names, written⟩ := reads_tableKey key
    exact ⟨read, names.iff, written⟩

/-- The field `end` of `M`, and the integer `-2 ^ 63`. -/
theorem keywordField_read :
    Reads (bytes "M") [.name (bytes "M")] ∧
    (∃ index, (∀ other, Index index other ↔ other = bytes "end") ∧
      Reads (bytes (field "M" "end")) ([.name (bytes "M")] ++ index)) ∧
    ∃ text read constant, LuaModule.number (.int (-2 ^ 63)) = .ok text ∧
      ReadsNumber text read ∧ constant? read = some constant ∧
      constant.value? = some ((-2 ^ 63 : Int) : ℚ) := by
  have table : Reads (bytes "M") [.name (bytes "M")] := reads_identifier (by decide)
  obtain ⟨text, read, constant, written, reads, means, exact, -⟩ :=
    literals_denote.2.2.2 (-2 ^ 63) (by decide) (by decide)
  exact ⟨table, literals_denote.2.1 "M" _ "end" table,
    text, read, constant, written, reads, means, exact⟩

end LuaBinder.Lua
