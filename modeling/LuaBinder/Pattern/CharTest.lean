import LuaBinder.Pattern.Basic
import LuaBinder.Text.Blank

namespace LuaBinder.Pattern

open Text

/-! Tests of single characters. -/

def isOfKind (ascii : Bool) : CharKind → Char → Bool
  | .digit, c => if ascii then isAsciiDigit c else isDecimal c
  | .blank, c =>
      if ascii then c == ' ' || (9 ≤ c.toNat && c.toNat ≤ 13) else isBlank c
  | .word, c => if ascii then c == '_' || isAsciiAlphanumeric c else isWord c

/-- The code points up to here are collected in a table when letter case is ignored;
those above are compared one by one. -/
def tableLimit : Nat := 0xFFFF

/-- A set of characters. `ascii` says what the kinds of characters mean. -/
structure CharSet where
  negated : Bool
  items : List SetItem
  folding : Folding := .exact
  ascii : Bool := false
  deriving Repr

namespace CharSet

def exactHolds (ascii : Bool) (c : Char) : SetItem → Bool
  | .char code => c.toNat == code
  | .range low high => low ≤ c.toNat && c.toNat ≤ high
  | .kind kind negated => isOfKind ascii kind c != negated

def inTable (folding : Folding) (low high code : Nat) : Bool :=
  let letters := code :: folding.partners code
  (letters.flatMap folding.sources).any fun source =>
    source ≤ tableLimit && low ≤ source && source ≤ high

/-- The item holds for a character whose lowercase form is `code`. Beyond the table a
single code point holds only for itself, and a range also for its uppercase forms. -/
def foldedHolds (folding : Folding) (ascii : Bool) (code : Nat) : SetItem → Bool
  | .char c =>
      if folding.lower c ≤ tableLimit then inTable folding c c code else c == code
  | .range low high =>
      inTable folding low high code ||
        (tableLimit < high &&
          ((low ≤ code && code ≤ high) || (low ≤ upperCode code && upperCode code ≤ high)))
  | .kind kind negated => isOfKind ascii kind (Char.ofNat code) != negated

def holds (set : CharSet) (c : Char) : Bool :=
  let found :=
    match set.folding with
    | .exact => set.items.any (exactHolds set.ascii c)
    | folding => set.items.any (foldedHolds folding set.ascii (folding.lower c.toNat))
  found != set.negated

/-- Letter case matters to an item with a letter or with a range beyond the table. -/
def isCasedItem (folding : Folding) : SetItem → Bool
  | .char code => folding.isCased code
  | .range low high => folding.casedBetween low high || tableLimit < high
  | .kind _ _ => false

def isBeyondTable (folding : Folding) : SetItem → Bool
  | .char code => tableLimit < folding.lower code
  | _ => false

/-- A set of characters in the table that have no case compares exactly. -/
def ofItems (flags : Flags) (negated : Bool) (items : List SetItem) : CharSet :=
  let folding := flags.folding
  let cased := folding != .exact &&
    items.any fun item => isCasedItem folding item || isBeyondTable folding item
  ⟨negated, items, if cased then folding else .exact, flags.ascii⟩

end CharSet

inductive CharTest where
  | exactly (code : Nat)
  | otherThan (code : Nat)
  /-- Compares lowercase forms. -/
  | letter (folding : Folding) (negated : Bool) (code : Nat)
  | any (newlines : Bool)
  | among (set : CharSet)
  deriving Repr

namespace CharTest

def holds : CharTest → Char → Bool
  | .exactly code, c => c.toNat == code
  | .otherThan code, c => c.toNat != code
  | .letter folding negated code, c => (folding.lower c.toNat == code) != negated
  | .any newlines, c => newlines || c != '\n'
  | .among set, c => set.holds c

/-- A single character or, if `negated`, any other. -/
def ofCode (flags : Flags) (negated : Bool) (code : Nat) : CharTest :=
  let folding := flags.folding
  if folding.isCased code then
    let small := folding.lower code
    if (folding.partners small).isEmpty then .letter folding negated small
    else .among ⟨negated, [.char small], folding, flags.ascii⟩
  else if negated then .otherThan code
  else .exactly code

/-- Sets in which letter case is ignored are tried one character after the other. -/
def isFoldedSet : CharTest → Bool
  | .among set => set.folding != .exact
  | _ => false

end CharTest

end LuaBinder.Pattern
