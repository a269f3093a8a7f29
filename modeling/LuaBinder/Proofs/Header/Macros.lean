import LuaBinder.Header.Literal
import LuaBinder.Proofs.Header.Numbers
import Mathlib.Data.List.Forall2

namespace LuaBinder.Header.Literal

open Number Text

/-! String and character literals as a grammar, and that exactly these are read. -/

/-- A character between quotes: by itself, or behind a backslash. -/
inductive Quoted where
  | plain (c : Char)
  | escaped (c : Char)

namespace Quoted

def spelling : Quoted → List Char
  | .plain c => [c]
  | .escaped c => ['\\', c]

/-- What is read for it. -/
def char : Quoted → Char
  | .plain c => c
  | .escaped c => Literal.escaped c

/-- It can stand between two of these quotes. No line ends behind a backslash. -/
def Fits (quote : Char) : Quoted → Prop
  | .plain c => c ≠ '\\' ∧ c ≠ quote
  | .escaped c => c ≠ '\n'

end Quoted

structure StringLiteral (text : List Char) (body : List Quoted) : Prop where
  text_eq : text = '"' :: (body.flatMap Quoted.spelling ++ ['"'])
  fits : ∀ unit ∈ body, unit.Fits '"'

structure CharLiteral (text : List Char) (unit : Quoted) : Prop where
  text_eq : text = '\x27' :: (unit.spelling ++ ['\x27'])
  fits : unit.Fits '\x27'

theorem stringBody?_plain {c : Char} (fits : (Quoted.plain c).Fits '"') (rest : List Char) :
    stringBody? (c :: rest) = (stringBody? rest).map (c :: ·) := by
  obtain ⟨noEscape, noQuote⟩ := fits
  rw [stringBody?]
  · exact fun quote _ => noQuote quote
  · exact fun _ _ quote _ => noQuote quote
  · exact fun escape _ => noEscape escape
  · exact fun _ _ escape _ => noEscape escape

theorem stringBody?_of_fits {body : List Quoted} (fits : ∀ unit ∈ body, unit.Fits '"') :
    stringBody? (body.flatMap Quoted.spelling ++ ['"']) = some (body.map Quoted.char) := by
  induction body with
  | nil => rfl
  | cons unit rest induction =>
      obtain ⟨own, others⟩ := List.forall_mem_cons.mp fits
      rw [List.flatMap_cons, List.append_assoc]
      cases unit with
      | plain c =>
          rw [Quoted.spelling, List.cons_append, stringBody?_plain own, List.nil_append,
            induction others]
          rfl
      | escaped c =>
          rw [Quoted.spelling, List.cons_append, List.cons_append, stringBody?,
            if_neg (by simpa [Quoted.Fits] using own), List.nil_append, induction others]
          rfl

theorem exists_body {text decoded : List Char} (read : stringBody? text = some decoded) :
    ∃ body : List Quoted, text = body.flatMap Quoted.spelling ++ ['"'] ∧
      (∀ unit ∈ body, unit.Fits '"') ∧ decoded = body.map Quoted.char := by
  fun_induction stringBody? text generalizing decoded with
  | case1 | case3 | case4 | case5 => cases read
  | case2 => -- the closing quote
      cases read
      exact ⟨[], by simp⟩
  | case6 c rest other induction =>
      obtain ⟨further, own, rfl⟩ := Option.map_eq_some_iff.mp read
      obtain ⟨body, rfl, fits, rfl⟩ := induction own
      exact ⟨.escaped c :: body, rfl,
        List.forall_mem_cons.mpr ⟨by simpa [Quoted.Fits] using other, fits⟩, rfl⟩
  | case7 c rest closing quote open_ escape induction =>
      obtain ⟨further, own, rfl⟩ := Option.map_eq_some_iff.mp read
      obtain ⟨body, rfl, fits, rfl⟩ := induction own
      have given : body.flatMap Quoted.spelling ++ ['"'] ≠ [] := by simp
      obtain ⟨head, tail, more⟩ := List.exists_cons_of_ne_nil given
      exact ⟨.plain c :: body, rfl, List.forall_mem_cons.mpr
        ⟨⟨fun same => escape head tail same more, fun same => quote head tail same more⟩, fits⟩,
        rfl⟩

/-- Exactly the string literals are read as strings. -/
theorem string?_eq_some {token : String} {decoded : List Char} : string? token = some decoded ↔
    ∃ body, StringLiteral token.toList body ∧ decoded = body.map Quoted.char := by
  unfold string?
  constructor
  · intro read
    split at read
    · rename_i rest opened
      obtain ⟨body, rfl, fits, rfl⟩ := exists_body read
      exact ⟨body, ⟨opened, fits⟩, rfl⟩
    · cases read
  · rintro ⟨body, ⟨same, fits⟩, rfl⟩
    rw [same]
    exact stringBody?_of_fits fits

/-- Exactly the character literals are read as characters. -/
theorem char?_eq_some {text : List Char} {c : Char} :
    char? text = some c ↔ ∃ unit, CharLiteral text unit ∧ c = unit.char := by
  constructor
  · intro read
    unfold char? at read
    split at read
    · rename_i mark d
      split_ifs at read with fits
      obtain ⟨rfl, newline⟩ : mark = '\\' ∧ d ≠ '\n' := by simpa using fits
      exact ⟨.escaped d, ⟨rfl, newline⟩, (Option.some.inj read).symm⟩
    · rename_i d
      split_ifs at read with mark
      exact ⟨.plain d, ⟨rfl, by simpa [Quoted.Fits] using mark⟩, (Option.some.inj read).symm⟩
    · cases read
  · rintro ⟨unit, ⟨rfl, fits⟩, rfl⟩
    cases unit with
    | plain d => simpa [Quoted.spelling, char?, Quoted.Fits, Quoted.char] using fits
    | escaped d => simpa [Quoted.spelling, char?, Quoted.Fits, Quoted.char] using fits

theorem mapM_eq_some {α β : Type} {read : α → Option β} {entries : List α} {results : List β} :
    entries.mapM read = some results ↔
      List.Forall₂ (fun entry result => read entry = some result) entries results := by
  induction entries generalizing results with
  | nil => simp [eq_comm]
  | cons entry rest induction =>
      rw [List.mapM_cons]
      constructor
      · intro gathered
        simp only [Option.bind_eq_bind, Option.bind_eq_some_iff] at gathered
        obtain ⟨result, own, others, further, same⟩ := gathered
        cases same
        exact .cons own (induction.mp further)
      · rintro (_ | ⟨own, others⟩)
        rw [own, induction.mpr others]
        rfl

/-! The macro bodies that have a value: within any number of parentheses a row of string
literals, or one other literal with an optional sign. -/

def factor (negative : Bool) : Int := if negative then -1 else 1

/-- A literal that can have a sign in front of it, with its value. -/
inductive SignedLiteral (negative : Bool) : List Char → Literal → Prop
  | int {text : List Char} {n : Integer} (written : IntegerLiteral text n) :
      SignedLiteral negative text (.int (factor negative * positional n.base n.digits))
  | float {text : List Char} {value : Binary64} (written : FloatingLiteral text value) :
      SignedLiteral negative text (.float (if negative then value.negate else value))
  | char {text : List Char} {unit : Quoted} (written : CharLiteral text unit) :
      SignedLiteral negative text (.int (factor negative * unit.char.toNat))

/-- An optional sign; `true` stands for minus. -/
inductive SignTokens : Bool → List String → Prop
  | absent : SignTokens false []
  | plus : SignTokens false ["+"]
  | minus : SignTokens true ["-"]

/-- What stands within the parentheses, with its value. -/
inductive Core : List String → Literal → Prop
  | text {tokens : List String} {bodies : List (List Quoted)} (given : tokens ≠ [])
      (written : List.Forall₂ (fun token body => StringLiteral token.toList body) tokens bodies) :
      Core tokens (.text (String.ofList (bodies.flatMap (·.map Quoted.char))))
  | signed {negative : Bool} {sign : List String} {token : String} {literal : Literal}
      (signed : SignTokens negative sign) (written : SignedLiteral negative token.toList literal) :
      Core (sign ++ [token]) literal

def parenthesized (depth : Nat) (core : List String) : List String :=
  List.replicate depth "(" ++ core ++ List.replicate depth ")"

/-! Parentheses. -/

/-- There is a parenthesis at both ends. -/
def IsWrapped (body : List String) : Prop :=
  2 ≤ body.length ∧ body.head? = some "(" ∧ body.getLast? = some ")"

theorem parenthesized_succ (depth : Nat) (core : List String) :
    parenthesized (depth + 1) core = "(" :: (parenthesized depth core ++ [")"]) := by
  rw [parenthesized, List.replicate_succ, List.replicate_succ']
  simp [parenthesized]

theorem exists_inner {body : List String} (wrapped : IsWrapped body) :
    ∃ inner, body = "(" :: (inner ++ [")"]) := by
  obtain ⟨long, first, last⟩ := wrapped
  match body with
  | [] => cases first
  | [_] => exact absurd long (by simp)
  | head :: next :: rest =>
      obtain rfl : head = "(" := by simpa using first
      rw [List.getLast?_cons_cons] at last
      obtain ⟨inner, same⟩ := List.getLast?_eq_some_iff.mp last
      exact ⟨inner, by rw [same]⟩

theorem stripParens_succ (fuel : Nat) (inner : List String) :
    stripParens (fuel + 1) ("(" :: (inner ++ [")"])) = stripParens fuel inner := by
  have last : ("(" :: (inner ++ [")"])).getLast? = some ")" := by
    rw [← List.cons_append, List.getLast?_concat]
  rw [stripParens, if_pos (by simp [last])]
  simp

theorem stripParens_of_not_wrapped {body : List String} (bare : ¬ IsWrapped body) (fuel : Nat) :
    stripParens fuel body = body := by
  cases fuel with
  | zero => rfl
  | succ fuel =>
      rw [stripParens, if_neg]
      simpa [IsWrapped] using bare

theorem stripParens_parenthesized {core : List String} (bare : ¬ IsWrapped core) {depth fuel : Nat}
    (enough : depth ≤ fuel) : stripParens fuel (parenthesized depth core) = core := by
  induction depth generalizing fuel with
  | zero => simpa [parenthesized] using stripParens_of_not_wrapped bare fuel
  | succ depth induction =>
      obtain ⟨less, rfl⟩ : ∃ less, fuel = less + 1 := ⟨fuel - 1, by omega⟩
      rw [parenthesized_succ, stripParens_succ]
      exact induction (by omega)

theorem exists_parenthesized (fuel : Nat) (tokens : List String) :
    ∃ depth, tokens = parenthesized depth (stripParens fuel tokens) := by
  induction fuel generalizing tokens with
  | zero => exact ⟨0, by simp [parenthesized, stripParens]⟩
  | succ fuel induction =>
      by_cases wrapped : IsWrapped tokens
      · obtain ⟨inner, rfl⟩ := exists_inner wrapped
        obtain ⟨depth, same⟩ := induction inner
        exact ⟨depth + 1, by rw [stripParens_succ, parenthesized_succ, ← same]⟩
      · exact ⟨0, by simp [parenthesized, stripParens_of_not_wrapped wrapped]⟩

/-! Literals with a sign. -/

/-- Decimal integers are short enough to be read. -/
def IsShort (text : List Char) : Prop :=
  ∀ digits, IntegerLiteral text ⟨10, digits⟩ → digits.length ≤ digitLimit

theorem signed_eq (negative : Bool) (value : Nat) :
    signed negative value = factor negative * value := by
  cases negative <;> simp [signed, factor]

/-- What begins with a quote is read as no number. -/
theorem no_number {quote : Char} (mark : quote ∈ ['\x27', '"']) (rest : List Char) :
    integer? (quote :: rest) = none ∧ float? (quote :: rest) = none := by
  have ends : ∀ c ∈ ['\x27', '"'], ¬ isDecimal c = true ∧ c ∉ ['.', 'e', 'E'] :=
    List.all_iff_forall_prop.mp (by decide)
  refine ⟨?_, @float?_eq_none [] _ (by simp) (by simpa [EndsDigits] using ends quote mark)⟩
  have marks : quote = '\x27' ∨ quote = '"' := by simpa using mark
  rcases marks with rfl | rfl <;> rfl

theorem IsShort.not_overlong {text : List Char} (short : IsShort text) {n : Integer}
    (written : IntegerLiteral text n) :
    ¬ (n.base == 10 && digitLimit < n.digits.length) = true := by
  obtain ⟨base, digits⟩ := n
  simp only [Bool.and_eq_true, beq_iff_eq, decide_eq_true_eq, not_and, not_lt]
  rintro rfl
  exact short digits written

theorem exists_number (negative : Bool) {text : List Char} (short : IsShort text) :
    ∃ result, number? negative text = .ok result := by
  unfold number?
  split
  · rename_i n read
    rw [if_neg (short.not_overlong (integer?_eq_some.mp read))]
    exact ⟨_, rfl⟩
  · split <;> exact ⟨_, rfl⟩

theorem number?_eq_some {negative : Bool} {text : List Char} (short : IsShort text)
    {literal : Literal} :
    number? negative text = .ok (some literal) ↔ SignedLiteral negative text literal := by
  constructor
  · intro read
    unfold number? at read
    split at read
    · rename_i n found
      split_ifs at read
      cases read
      rw [signed_eq, Integer.value_eq]
      exact .int (integer?_eq_some.mp found)
    · split at read
      · rename_i value found
        cases read
        exact .float (float?_iff.mp found)
      · simp only [Except.ok.injEq, Option.map_eq_some_iff] at read
        obtain ⟨c, found, rfl⟩ := read
        obtain ⟨unit, written, rfl⟩ := char?_eq_some.mp found
        rw [signed_eq]
        exact .char written
  · intro written
    cases written with
    | int written =>
        rw [number?, integer?_eq_some.mpr written]
        dsimp only
        rw [if_neg (short.not_overlong written), signed_eq, Integer.value_eq]
    | float written =>
        have other : integer? text = none := by
          rw [Option.eq_none_iff_forall_ne_some]
          intro n found
          have unread := float?_of_integerLiteral (integer?_eq_some.mp found)
          rw [float?_iff.mpr written] at unread
          cases unread
        rw [number?, other, float?_iff.mpr written]
    | char written =>
        obtain ⟨noInteger, noFloat⟩ := written.text_eq ▸ no_number (by decide) _
        rw [number?, noInteger, noFloat, char?_eq_some.mpr ⟨_, written, rfl⟩]
        simp [signed_eq]

/-! What stands within the parentheses. -/

def ofBody? (body : List String) : Except Overlong (Option Literal) :=
  match body with
  | [] => .ok none
  | _ =>
      match body.mapM string? with
      | some parts => .ok (some (.text (String.ofList parts.flatten)))
      | none =>
          match body with
          | [token] => number? false token.toList
          | [sign, token] =>
              if sign == "-" then number? true token.toList
              else if sign == "+" then number? false token.toList
              else .ok none
          | _ => .ok none

theorem ofTokens?_eq (tokens : List String) :
    ofTokens? tokens = ofBody? (stripParens tokens.length tokens) := rfl

theorem ofTokens?_parenthesized {core : List String} (bare : ¬ IsWrapped core) (depth : Nat) :
    ofTokens? (parenthesized depth core) = ofBody? core := by
  have enough : depth ≤ (parenthesized depth core).length := by
    simp only [parenthesized, List.length_append, List.length_replicate]
    omega
  rw [ofTokens?_eq, stripParens_parenthesized bare enough]

theorem exists_value {body : List String} (short : ∀ token ∈ body, IsShort token.toList) :
    ∃ result, ofBody? body = .ok result := by
  unfold ofBody?
  split
  · exact ⟨_, rfl⟩
  split
  · exact ⟨_, rfl⟩
  split
  · exact exists_number false (short _ (by simp))
  · split_ifs
    · exact exists_number true (short _ (by simp))
    · exact exists_number false (short _ (by simp))
    · exact ⟨_, rfl⟩
  · exact ⟨_, rfl⟩

theorem mapM_string? {body : List String} {parts : List (List Char)} :
    body.mapM string? = some parts ↔ ∃ bodies : List (List Quoted),
      List.Forall₂ (fun token body => StringLiteral token.toList body) body bodies ∧
        parts = bodies.map (·.map Quoted.char) := by
  rw [mapM_eq_some]
  constructor
  · intro read
    induction read with
    | nil => exact ⟨[], .nil, rfl⟩
    | cons own _ induction =>
        obtain ⟨body, literal, rfl⟩ := string?_eq_some.mp own
        obtain ⟨bodies, written, rfl⟩ := induction
        exact ⟨body :: bodies, .cons literal written, rfl⟩
  · rintro ⟨bodies, written, rfl⟩
    exact List.forall₂_map_right_iff.mpr
      (written.imp fun _ _ literal => string?_eq_some.mpr ⟨_, literal, rfl⟩)

theorem core_of_body {body : List String} (short : ∀ token ∈ body, IsShort token.toList)
    {literal : Literal} (read : ofBody? body = .ok (some literal)) : Core body literal := by
  unfold ofBody? at read
  split at read
  · cases read
  · rename_i given
    split at read
    · rename_i parts gathered
      cases read
      obtain ⟨bodies, written, rfl⟩ := mapM_string?.mp gathered
      rw [← List.flatMap_def]
      exact .text given written
    split at read
    · exact @Core.signed false [] _ _ .absent ((number?_eq_some (short _ (by simp))).mp read)
    · rename_i sign token _
      split_ifs at read with minus plus
      · obtain rfl : sign = "-" := by simpa using minus
        exact @Core.signed true ["-"] _ _ .minus ((number?_eq_some (short _ (by simp))).mp read)
      · obtain rfl : sign = "+" := by simpa using plus
        exact @Core.signed false ["+"] _ _ .plus ((number?_eq_some (short _ (by simp))).mp read)
      · cases read
    · cases read

theorem SignedLiteral.string? {negative : Bool} {token : String} {literal : Literal}
    (written : SignedLiteral negative token.toList literal) : Literal.string? token = none := by
  rw [Option.eq_none_iff_forall_ne_some]
  intro decoded read
  obtain ⟨body, string, -⟩ := string?_eq_some.mp read
  rw [string.text_eq] at written
  obtain ⟨noInteger, noFloat⟩ := @no_number '"' (by decide) (body.flatMap Quoted.spelling ++ ['"'])
  cases written with
  | int written => exact absurd (integer?_eq_some.mpr written) (by simp [noInteger])
  | float written => exact absurd (float?_iff.mpr written) (by simp [noFloat])
  | char written => exact absurd written.text_eq (by simp)

theorem ofBody?_signed {negative : Bool} {sign : List String} {token : String}
    (signed : SignTokens negative sign) (other : string? token = none) :
    ofBody? (sign ++ [token]) = number? negative token.toList := by
  cases signed <;> simp [ofBody?, other]

theorem body_of_core {body : List String} (short : ∀ token ∈ body, IsShort token.toList)
    {literal : Literal} (core : Core body literal) : ofBody? body = .ok (some literal) := by
  cases core with
  | @text tokens bodies given written =>
      obtain ⟨token, rest, rfl⟩ := List.exists_cons_of_ne_nil given
      simp only [ofBody?]
      rw [mapM_string?.mpr ⟨bodies, written, rfl⟩, List.flatMap_def]
  | signed signed written =>
      rw [ofBody?_signed signed written.string?]
      exact (number?_eq_some (short _ (by simp))).mpr written

theorem SignTokens.not_wrapped {negative : Bool} {sign : List String}
    (signed : SignTokens negative sign) (token : String) : ¬ IsWrapped (sign ++ [token]) := by
  rintro ⟨long, first, -⟩
  cases signed with
  | absent => simp at long
  | plus => simp at first
  | minus => simp at first

theorem Core.not_wrapped {body : List String} {literal : Literal} (core : Core body literal) :
    ¬ IsWrapped body := by
  cases core with
  | text given written =>
      rintro ⟨-, first, -⟩
      cases written with
      | nil => exact given rfl
      | cons literal =>
          obtain rfl := Option.some.inj first
          exact absurd literal.text_eq (by simp)
  | signed signed => exact signed.not_wrapped _

theorem mem_parenthesized {token : String} {core : List String} (member : token ∈ core)
    (depth : Nat) : token ∈ parenthesized depth core := by
  simp [parenthesized, member]

theorem isShort_of_length {text : List Char} (short : text.length ≤ digitLimit) :
    IsShort text := by
  intro digits literal
  have within : digits.length ≤ text.length := by
    cases literal
    simp only [List.length_cons, List.length_append]
    omega
  exact within.trans short

/-- `((-42ul))` -/
def negatedTokens : List String := ["(", "(", "-", "42ul", ")", ")"]

end LuaBinder.Header.Literal
