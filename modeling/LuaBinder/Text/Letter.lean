import LuaBinder.Text.Table.Alphanumeric
import LuaBinder.Text.Table.Case
import LuaBinder.Text.Table.Digit
import LuaBinder.Text.Table.Name
import LuaBinder.Text.Table.Unprintable

namespace LuaBinder.Text

/-! Letters, digits, words, printed characters and letter case. Beyond ASCII, classes of
characters are given by tables of code point ranges. -/

def inRanges (table : Array (Nat × Nat)) (code : Nat) : Bool :=
  table.any fun range => range.1 ≤ code && code ≤ range.2

def isAsciiLetter (c : Char) : Bool :=
  ('a' ≤ c && c ≤ 'z') || ('A' ≤ c && c ≤ 'Z')

def isAsciiDigit (c : Char) : Bool := '0' ≤ c && c ≤ '9'

def isAsciiAlphanumeric (c : Char) : Bool := isAsciiLetter c || isAsciiDigit c

def isAlphanumeric (c : Char) : Bool :=
  if c.toNat < 128 then isAsciiAlphanumeric c
  else inRanges Table.alphanumericRanges c.toNat

/-- Letters, numerals and the underscore. -/
def isWord (c : Char) : Bool := c == '_' || isAlphanumeric c

/-- The value of a decimal digit of any script. -/
def decimalValue? (c : Char) : Option Nat :=
  if isAsciiDigit c then some (c.toNat - 48)
  else if c.toNat < 128 then none
  else (Table.decimalZeros.find? fun first => first ≤ c.toNat && c.toNat ≤ first + 9).map
    fun first => c.toNat - first

def isDecimal (c : Char) : Bool := (decimalValue? c).isSome

/-- Has a printed form; of the separators only the plain space has one. -/
def isPrintable (c : Char) : Bool :=
  if c.toNat < 128 then 32 ≤ c.toNat && c.toNat < 127
  else !inRanges Table.unprintableRanges c.toNat

def isLetter (c : Char) : Bool :=
  if c.toNat < 128 then isAsciiLetter c
  else isAlphanumeric c && !inRanges Table.numeralRanges c.toNat

def startsName (c : Char) : Bool :=
  if c.toNat < 128 then c == '_' || isAsciiLetter c
  else isLetter c != inRanges Table.nameStartExceptions c.toNat

def continuesName (c : Char) : Bool :=
  if c.toNat < 128 then isWord c
  else isAlphanumeric c != inRanges Table.namePartExceptions c.toNat

/-- An identifier in letters of any script. -/
def isName : List Char → Bool
  | [] => false
  | c :: rest => startsName c && rest.all continuesName

def hexValue? (c : Char) : Option Nat :=
  if isAsciiDigit c then some (c.toNat - 48)
  else if 'a' ≤ c && c ≤ 'f' then some (c.toNat - 87)
  else if 'A' ≤ c && c ≤ 'F' then some (c.toNat - 55)
  else none

def hexDigit (n : Nat) : Char :=
  if n < 10 then Char.ofNat (48 + n) else Char.ofNat (87 + n)

/-- The last `width` hexadecimal digits of `n`, in lower case. -/
def hexDigits : Nat → Nat → List Char
  | 0, _ => []
  | width + 1, n => hexDigits width (n / 16) ++ [hexDigit (n % 16)]

/-- Case mappings are given as runs: every `step`-th code point from `first` to `last`
goes to the one `shift` away. -/
private def runContains (run : Nat × Nat × Nat × Int) (code : Nat) : Bool :=
  run.1 ≤ code && code ≤ run.2.1 && (code - run.1) % run.2.2.1 == 0

private def mapped (runs : Array (Nat × Nat × Nat × Int)) (code : Nat) : Nat :=
  match runs.find? (runContains · code) with
  | some run => (code + run.2.2.2).toNat
  | none => code

/-- Simple lowercase form, one code point to one code point. -/
def lowerCode (code : Nat) : Nat :=
  if code < 128 then (if 65 ≤ code && code ≤ 90 then code + 32 else code)
  else mapped Table.lowercaseRuns code

def uppercaseCodes (code : Nat) : List Nat :=
  if code < 128 then [if 97 ≤ code && code ≤ 122 then code - 32 else code]
  else
    match Table.longUppercase.find? (·.1 == code) with
    | some entry => entry.2
    | none => [mapped Table.uppercaseRuns code]

/-- The first code point of the uppercase form. -/
def upperCode (code : Nat) : Nat := (uppercaseCodes code).headD code

def uppercase (text : List Char) : List Char :=
  text.flatMap fun c => (uppercaseCodes c.toNat).map Char.ofNat

private def runSource? (target : Nat) (run : Nat × Nat × Nat × Int) : Option Nat :=
  let source := (target - run.2.2.2 : Int).toNat
  if runContains run source then some source else none

/-- The code points other than `code` itself whose lowercase form it is. -/
def capitalCodes (code : Nat) : List Nat :=
  Table.lowercaseRuns.toList.filterMap (runSource? code)

/-- The other lowercase letters with the same uppercase form. -/
def casePartners (code : Nat) : List Nat :=
  match Table.caseClasses.find? (·.contains code) with
  | some cls => cls.filter (· != code)
  | none => []

/-- Some code point between the two differs from its lowercase or uppercase form. -/
def hasCase (low high : Nat) : Bool :=
  Table.casedRanges.any fun range => range.1 ≤ high && low ≤ range.2

end LuaBinder.Text
