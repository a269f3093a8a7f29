namespace LuaBinder.Number

/-! Decimal integers have a limit: longer ones are neither read nor written. -/

def digitLimit : Nat := 4300

/-- What would have been done with an integer beyond the limit. -/
inductive Overlong where
  | read (digits : Nat)
  | written
  deriving DecidableEq, Repr

private def limitText : String :=
  "Exceeds the limit (" ++ toString digitLimit ++ " digits) for integer string conversion"

private def adviceText : String :=
  "; use sys.set_int_max_str_digits() to increase the limit"

def Overlong.message : Overlong → String
  | .read digits => limitText ++ ": value has " ++ toString digits ++ " digits" ++ adviceText
  | .written => limitText ++ adviceText

/-- The decimal digits of an integer, after a sign if it is negative. -/
def decimal (value : Int) : Except Overlong String :=
  if digitLimit < (toString value.natAbs).length then .error .written
  else .ok (toString value)

end LuaBinder.Number
