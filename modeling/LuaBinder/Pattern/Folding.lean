import LuaBinder.Text.Letter

namespace LuaBinder.Pattern

open Text

/-! Comparing letters up to case. Code points stay numbers: an escape may name one
that no text holds. -/

/-- How letters compare: exactly, up to ASCII case, or up to case in any script. -/
inductive Folding where
  | exact
  | ascii
  | full
  deriving DecidableEq, Repr

namespace Folding

def lower : Folding → Nat → Nat
  | .exact, code => code
  | .ascii, code => if 65 ≤ code && code ≤ 90 then code + 32 else code
  | .full, code => lowerCode code

/-- Some code point between the two has another case. -/
def casedBetween : Folding → Nat → Nat → Bool
  | .exact, _, _ => false
  | .ascii, low, high => (low ≤ 90 && 65 ≤ high) || (low ≤ 122 && 97 ≤ high)
  | .full, low, high => hasCase low high

def isCased (folding : Folding) (code : Nat) : Bool := folding.casedBetween code code

/-- Other lowercase letters that are the same letter. -/
def partners : Folding → Nat → List Nat
  | .full, code => casePartners code
  | _, _ => []

/-- The code points with that lowercase form. -/
def sources (folding : Folding) (code : Nat) : List Nat :=
  let capitals :=
    match folding with
    | .exact => []
    | .ascii => if 97 ≤ code && code ≤ 122 then [code - 32] else []
    | .full => capitalCodes code
  if folding.lower code == code then code :: capitals else capitals

end Folding

end LuaBinder.Pattern
