import LuaBinder.Number.Binary64

namespace LuaBinder.Number

/-! The shortest decimal that reads back as a given value. A decimal reads back
when it lies between the midpoints to the two neighbouring values; a midpoint
itself reads back exactly when the significand is even. -/

/-- `digits * 10 ^ scale`. -/
structure Decimal where
  digits : Nat
  scale : Int
  deriving DecidableEq, Repr

namespace Shortest

/-- A positive value and the two midpoints beside it, over one denominator. -/
structure Interval where
  value : Nat
  low : Nat
  high : Nat
  den : Nat
  closed : Bool

/-- Below a power of two the neighbouring value is only half as far away. -/
def interval (significand : Nat) (exponent : Int) : Interval :=
  let narrow := significand == Nat.pow 2 52 && Binary64.minExponent < exponent
  let scaled (quarters : Nat) : Nat :=
    if 2 ≤ exponent then quarters * Nat.pow 2 (exponent - 2).toNat else quarters
  { value := scaled (4 * significand)
    low := scaled (4 * significand - if narrow then 1 else 2)
    high := scaled (4 * significand + 2)
    den := if 2 ≤ exponent then 1 else Nat.pow 2 (2 - exponent).toNat
    closed := significand % 2 == 0 }

/-- `point` of a decimal grid with `num / den` steps to the unit. -/
def reads (i : Interval) (num den point : Nat) : Bool :=
  let at_ := point * num * i.den
  let low := i.low * den
  let high := i.high * den
  if i.closed then low ≤ at_ && at_ ≤ high else low < at_ && at_ < high

/-- The decimal of grid `10 ^ scale` that reads back, if one of the two neighbours of
the value does; of two the nearer, and on a tie the even one. -/
def atScale? (i : Interval) (scale : Int) : Option Decimal :=
  let num := if 0 ≤ scale then Nat.pow 10 scale.toNat else 1
  let den := if 0 ≤ scale then 1 else Nat.pow 10 (-scale).toNat
  let below := i.value * den / (num * i.den)
  let twice := 2 * (i.value * den % (num * i.den))
  let nearest :=
    if twice < num * i.den then below
    else if num * i.den < twice then below + 1
    else below + below % 2
  let farthest := if nearest == below then below + 1 else below
  if reads i num den nearest then some ⟨nearest, scale⟩
  else if reads i num den farthest then some ⟨farthest, scale⟩
  else none

/-- The least `k` with `value / den < 10 ^ k`, searched upward from `k`. -/
def magnitudeFrom (value den : Nat) : Nat → Int → Int
  | 0, k => k
  | fuel + 1, k =>
      let below :=
        if 0 ≤ k then value < den * Nat.pow 10 k.toNat
        else value * Nat.pow 10 (-k).toNat < den
      if below then k else magnitudeFrom value den fuel (k + 1)

/-- A start that is too low by at most two; the search goes on from there. -/
def magnitude (i : Interval) : Int :=
  let bits : Int := (i.value.log2 : Int) - (i.den.log2 : Int) - 1
  magnitudeFrom i.value i.den 8 (bits * 30103 / 100000 - 1)

def firstScale (i : Interval) (top : Int) : Nat → Nat → Option Decimal
  | 0, _ => none
  | fuel + 1, count => (atScale? i (top - count)).orElse fun _ => firstScale i top fuel (count + 1)

end Shortest

/-- Seventeen digits always suffice; the last alternative is the exact value and is
not reached. -/
def Binary64.shortest (significand : Nat) (exponent : Int) : Decimal :=
  let i := Shortest.interval significand exponent
  match Shortest.firstScale i (Shortest.magnitude i) 18 1 with
  | some decimal => decimal
  | none => ⟨significand, exponent⟩

end LuaBinder.Number
