import LuaBinder.Declaration.Scalar
import LuaBinder.Json.Parser

namespace LuaBinder.Header

open Number Text

/-! Macro bodies that are a single literal: a number or a character with an optional
sign, or string literals in a row, within any number of parentheses. -/

inductive Literal where
  | int (value : Int)
  | float (value : Binary64)
  | text (value : String)
  deriving Repr

namespace Literal

/-- The name of the literal's kind. -/
def rawType : Literal → String
  | .int _ => "int"
  | .float _ => "double"
  | .text _ => "string"

def scalar : Literal → Scalar
  | .int value => .int value
  | .float value => .float value
  | .text value => .text value

/-- Parentheses around the whole body, as many as there are on both ends. -/
def stripParens : Nat → List String → List String
  | 0, body => body
  | fuel + 1, body =>
      if 2 ≤ body.length && body.head? == some "(" && body.getLast? == some ")" then
        stripParens fuel (body.drop 1).dropLast
      else body

def escaped (c : Char) : Char :=
  match c with
  | 'n' => '\n'
  | 't' => '\t'
  | 'r' => '\r'
  | '0' => Char.ofNat 0
  | 'a' => Char.ofNat 7
  | 'b' => Char.ofNat 8
  | 'f' => Char.ofNat 12
  | 'v' => Char.ofNat 11
  | other => other

/-- The text between the quotes of a string literal, up to the closing quote, which
must be the last character. A backslash takes the character after it along. -/
def stringBody? : List Char → Option (List Char)
  | [] => none
  | ['"'] => some []
  | '"' :: _ :: _ => none
  | ['\\'] => none
  | '\\' :: c :: rest =>
      if c == '\n' then none else (stringBody? rest).map (escaped c :: ·)
  | c :: rest => (stringBody? rest).map (c :: ·)

def string? (token : String) : Option (List Char) :=
  match token.toList with
  | '"' :: rest => stringBody? rest
  | _ => none

def char? : List Char → Option Char
  | ['\x27', mark, c, '\x27'] => if mark == '\\' && c != '\n' then some (escaped c) else none
  | ['\x27', c, '\x27'] => if c == '\\' || c == '\x27' then none else some c
  | _ => none

/-- Marks of an unsigned or a long integer, in any order and in one letter case for
a doubled letter. -/
def integerSuffixes : List String :=
  let unsigned := ["u", "U"]
  let long := ["ll", "LL", "l", "L"]
  [""] ++ unsigned ++ long ++
    unsigned.flatMap (fun u => long.map (u ++ ·)) ++
    long.flatMap (fun l => unsigned.map (l ++ ·))

def isIntegerSuffix (text : List Char) : Bool :=
  integerSuffixes.contains (String.ofList text)

def digitsBelow (base : Nat) (c : Char) : Bool :=
  match hexValue? c with
  | some value => value < base
  | none => false

def valueIn (base : Nat) (digits : List Char) : Nat :=
  ofDigits base (digits.map fun c => (hexValue? c).getD 0)

/-- An integer in base sixteen, two, eight or ten. -/
structure Integer where
  base : Nat
  digits : List Char

def Integer.value (n : Integer) : Nat := valueIn n.base n.digits

/-- The digits of the base after its mark, then a suffix. -/
def integerIn? (base : Nat) (text : List Char) : Option Integer :=
  if isIntegerSuffix (text.dropWhile (digitsBelow base)) then
    some ⟨base, text.takeWhile (digitsBelow base)⟩
  else none

def integer? : List Char → Option Integer
  | '0' :: mark :: digit :: rest =>
      if (mark == 'x' || mark == 'X') && digitsBelow 16 digit then
        integerIn? 16 (digit :: rest)
      else if (mark == 'b' || mark == 'B') && digitsBelow 2 digit then
        integerIn? 2 (digit :: rest)
      else integerIn? 8 (mark :: digit :: rest)
  | '0' :: rest => integerIn? 8 rest
  | c :: rest => if isAsciiDigit c then integerIn? 10 (c :: rest) else none
  | [] => none

/-- A floating literal has a point or an exponent. -/
def float? (text : List Char) : Option Binary64 :=
  let (_, afterWhole) := takeDecimals text
  let marked :=
    match afterWhole with
    | c :: _ => c == '.' || c == 'e' || c == 'E'
    | [] => false
  match marked, takeDecimalNumber? false text with
  | true, some (value, []) => some value
  | true, some (value, [c]) => if ['f', 'F', 'l', 'L'].contains c then some value else none
  | _, _ => none

def signed (negative : Bool) (value : Nat) : Int :=
  if negative then -(value : Int) else value

def number? (negative : Bool) (token : List Char) : Except Overlong (Option Literal) :=
  match integer? token with
  | some n =>
      if n.base == 10 && digitLimit < n.digits.length then
        .error (.read n.digits.length)
      else .ok (some (.int (signed negative n.value)))
  | none =>
      match float? token with
      | some value => .ok (some (.float (if negative then value.negate else value)))
      | none => .ok ((char? token).map fun c => .int (signed negative c.toNat))

/-- The value of a macro body, if it is a single literal. -/
def ofTokens? (tokens : List String) : Except Overlong (Option Literal) :=
  let body := stripParens tokens.length tokens
  match body with
  | [] => .ok none
  | _ =>
      match body.mapM string? with
      | some parts => .ok (some (.text (String.ofList parts.flatten)))
      | none =>
          match body with
          | [token] => number? false token.toList
          | [sign, token] =>
              if sign == "-" then number? true token.toList
              else if sign == "+" then number? false token.toList
              else .ok none
          | _ => .ok none

end Literal

end LuaBinder.Header
