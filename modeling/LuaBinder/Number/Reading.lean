import LuaBinder.Number.Binary64
import LuaBinder.Text.Blank
import LuaBinder.Text.Letter

namespace LuaBinder.Number

open Text

/-! Reading numbers. Digits may come from any script. -/

/-- The value of a digit string, most significant digit first. -/
def ofDigits (base : Nat) (digits : List Nat) : Nat :=
  digits.foldl (fun value digit => value * base + digit) 0

/-- The longest leading run of decimal digits, and the rest. -/
def takeDecimals : List Char → List Nat × List Char
  | [] => ([], [])
  | c :: rest =>
      match decimalValue? c with
      | some digit => (digit :: (takeDecimals rest).1, (takeDecimals rest).2)
      | none => ([], c :: rest)

def isSign (c : Char) : Bool := c == '+' || c == '-'

/-- An optional sign; `true` stands for minus. -/
def takeSign : List Char → Bool × List Char
  | [] => (false, [])
  | c :: rest => if isSign c then (c == '-', rest) else (false, c :: rest)

/-- An exponent mark with its signed digits, and the rest; without a digit after the
mark there is no exponent. -/
def takeExponent (text : List Char) : Int × List Char :=
  match text with
  | [] => (0, [])
  | c :: rest =>
      if c == 'e' || c == 'E' then
        let (negative, unsigned) := takeSign rest
        let (digits, after) := takeDecimals unsigned
        if digits.isEmpty then (0, text)
        else
          let value : Int := ofDigits 10 digits
          (if negative then -value else value, after)
      else (0, text)

/-- Digits with an optional fraction and an optional exponent, and the rest; at least
one digit is needed. -/
def takeDecimalNumber? (negative : Bool) (text : List Char) : Option (Binary64 × List Char) :=
  let (whole, afterWhole) := takeDecimals text
  let (fraction, afterFraction) :=
    match afterWhole with
    | '.' :: rest => takeDecimals rest
    | _ => ([], afterWhole)
  if whole.isEmpty && fraction.isEmpty then none
  else
    let (exponent, rest) := takeExponent afterFraction
    let digits := ofDigits 10 (whole ++ fraction)
    some (Binary64.ofDecimal negative digits (exponent - fraction.length), rest)

/-- An underscore may stand between two digits and nowhere else. -/
def dropUnderscores? : List Char → Option (List Char)
  | [] => some []
  | ['_'] => none
  | '_' :: _ :: _ => none
  | [c] => some [c]
  | c :: '_' :: d :: rest =>
      if isDecimal c && isDecimal d then (dropUnderscores? (d :: rest)).map (c :: ·) else none
  | c :: d :: rest => (dropUnderscores? (d :: rest)).map (c :: ·)

/-- Blanks that may stand around a number: below 128 only the space and the five
controls from tab to carriage return. -/
def isPadding (c : Char) : Bool :=
  if c.toNat < 128 then c == ' ' || (9 ≤ c.toNat && c.toNat ≤ 13) else isBlank c

def trimPadding (text : List Char) : List Char :=
  dropLast isPadding (text.dropWhile isPadding)

/-- A number as configuration and scripts write it: blanks around it are ignored,
and infinities and the missing number have names, in ASCII letters of either case. -/
def ofText? (text : List Char) : Option Binary64 :=
  match dropUnderscores? (trimPadding text) with
  | none => none
  | some plain =>
      let (negative, unsigned) := takeSign plain
      let name := String.ofList (unsigned.map Char.toLower)
      if name == "inf" || name == "infinity" then some (.infinite negative)
      else if name == "nan" then some .nan
      else
        match takeDecimalNumber? negative unsigned with
        | some (value, []) => some value
        | _ => none

end LuaBinder.Number
