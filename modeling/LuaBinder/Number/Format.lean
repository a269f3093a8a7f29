import LuaBinder.Number.Shortest

namespace LuaBinder.Number

/-! The text of a number: the shortest digits that read back, positional between
`10 ^ -4` and `10 ^ 16` and with an exponent outside, always with a fraction or an
exponent. -/

def digitChars (n : Nat) : List Char := Nat.toDigits 10 n

def stripZeros (digits : List Char) : List Char :=
  (digits.reverse.dropWhile (· == '0')).reverse

/-- An exponent has a sign and at least two digits. -/
def exponentText (exponent : Int) : List Char :=
  let digits := digitChars exponent.natAbs
  (if exponent < 0 then '-' else '+') :: (if digits.length < 2 then '0' :: digits else digits)

/-- `digits` is a significand with the point after its first digit, times
`10 ^ exponent`. -/
def decimalText (digits : List Char) (exponent : Int) : List Char :=
  if exponent < -4 || 16 ≤ exponent then
    match digits with
    | [] => []
    | [d] => d :: 'e' :: exponentText exponent
    | d :: rest => d :: '.' :: (rest ++ 'e' :: exponentText exponent)
  else if exponent < 0 then
    '0' :: '.' :: (List.replicate (-exponent - 1).toNat '0' ++ digits)
  else
    let whole := exponent.toNat + 1
    if digits.length ≤ whole then
      digits ++ List.replicate (whole - digits.length) '0' ++ ['.', '0']
    else digits.take whole ++ '.' :: digits.drop whole

def Binary64.text : Binary64 → String
  | .nan => "nan"
  | .infinite negative => if negative then "-inf" else "inf"
  | .finite negative significand exponent =>
      let magnitude :=
        if significand == 0 then ['0', '.', '0']
        else
          let decimal := Binary64.shortest significand exponent
          let digits := digitChars decimal.digits
          decimalText (stripZeros digits) (decimal.scale + digits.length - 1)
      String.ofList (if negative then '-' :: magnitude else magnitude)

end LuaBinder.Number
