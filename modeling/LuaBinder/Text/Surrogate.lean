namespace LuaBinder.Text

/-! The two halves that one character beyond the first 65536 is written with. A half
without its partner is no character; a private one of the last plane stands for it. -/

def isHighSurrogate (unit : Nat) : Bool := 0xD800 ≤ unit && unit ≤ 0xDBFF

def isLowSurrogate (unit : Nat) : Bool := 0xDC00 ≤ unit && unit ≤ 0xDFFF

def isSurrogate (unit : Nat) : Bool := isHighSurrogate unit || isLowSurrogate unit

def joinSurrogates (high low : Nat) : Char :=
  Char.ofNat (0x10000 + (high - 0xD800) * 0x400 + (low - 0xDC00))

def lastPlane : Nat := 0x100000

def unitChar (unit : Nat) : Char :=
  Char.ofNat (if isSurrogate unit then lastPlane + unit else unit)

/-- The number of a character, or of the half that it stands for. -/
def codeOf (c : Char) : Nat :=
  if lastPlane ≤ c.toNat && isSurrogate (c.toNat - lastPlane) then c.toNat - lastPlane
  else c.toNat

end LuaBinder.Text
