import LuaBinder.Pattern.Reader
import LuaBinder.Text.CharacterName

namespace LuaBinder.Pattern.Reader

open Text Number

/-! Escapes, and the sets between square brackets. -/

def simpleEscape? : Char → Option Nat
  | 'a' => some 7
  | 'b' => some 8
  | 'f' => some 12
  | 'n' => some 10
  | 'r' => some 13
  | 't' => some 9
  | 'v' => some 11
  | '\\' => some 92
  | _ => none

def kindEscape? : Char → Option SetItem
  | 'd' => some (.kind .digit false)
  | 'D' => some (.kind .digit true)
  | 's' => some (.kind .blank false)
  | 'S' => some (.kind .blank true)
  | 'w' => some (.kind .word false)
  | 'W' => some (.kind .word true)
  | _ => none

def anchorEscape? : Char → Option Anchor
  | 'A' => some .textStart
  | 'Z' => some .textFinish
  | 'b' => some (.wordEdge false)
  | 'B' => some (.wordEdge true)
  | _ => none

/-- Exactly `count` hexadecimal digits. -/
def fixedHex (mark : Char) (count : Nat) : Reading Nat := do
  let digits ← takeWhile isHex count
  let escape := '\\' :: mark :: digits
  if digits.length != count then
    failAt escape.length (.incompleteEscape (String.ofList escape))
  let code := valueIn 16 digits
  if 0x10FFFF < code then
    failAt escape.length (.badEscape (String.ofList escape))
  return code

def namedCharacter : Reading Nat := do
  if !(← skipOver '\x7b') then failAt 0 .missingBrace
  let name ← takeName '\x7d' .character
  match characterNamed? name with
  | some code => return code
  | none => failAt (name.length + 4) (.unknownCharacter (String.ofList name))

/-- The escapes by code point, common to sets and to the pattern around them. -/
def codeEscape? : Char → Option (Reading Nat)
  | 'x' => some (fixedHex 'x' 2)
  | 'u' => some (fixedHex 'u' 4)
  | 'U' => some (fixedHex 'U' 8)
  | 'N' => some namedCharacter
  | _ => none

def octalValue (escape : List Char) (digits : List Char) : Reading Nat := do
  let code := valueIn 8 digits
  if 0o377 < code then
    failAt escape.length (.octalTooLarge (String.ofList escape))
  return code

/-- An escaped character without a meaning of its own; a letter or a digit must have
one. -/
def plainEscape (c : Char) : Reading Nat := do
  if isAsciiLetter c || isAsciiDigit c then
    failAt 2 (.badEscape (String.ofList ['\\', c]))
  return c.toNat

def setEscape (c : Char) : Reading SetItem := do
  match simpleEscape? c, kindEscape? c, codeEscape? c with
  | some code, _, _ => return .char code
  | _, some item, _ => return item
  | _, _, some code => return .char (← code)
  | _, _, _ =>
      if isOctal c then
        let digits := c :: (← takeWhile isOctal 2)
        return .char (← octalValue ('\\' :: digits) digits)
      else return .char (← plainEscape c)

def reference (digits : List Char) : Reading Node := do
  let group := valueIn 10 digits
  let p ← get
  if group ≤ p.widths.length then
    if isOpen group p then failAt (digits.length + 1) .openGroup
    checkLookBehind group
    return .backref group
  else failAt digits.length (.noSuchGroup group)

/-- Three octal digits are a code point; any shorter number is a group. -/
def numberEscape (c : Char) : Reading Node := do
  match ← takeWhile isAsciiDigit 1 with
  | [d] =>
      if isOctal c && isOctal d then
        match ← takeWhile isOctal 1 with
        | [e] =>
            let code ← octalValue ['\\', c, d, e] [c, d, e]
            return .char code
        | _ => reference [c, d]
      else reference [c, d]
  | _ => reference [c]

def escaped (c : Char) : Reading Node := do
  match anchorEscape? c, kindEscape? c with
  | some anchor, _ => return .anchor anchor
  | _, some item => return .set false [item]
  | _, _ =>
      match simpleEscape? c, codeEscape? c with
      | some code, _ => return .char code
      | _, some code => return .char (← code)
      | _, _ =>
          if c == '0' then
            let digits := c :: (← takeWhile isOctal 2)
            return .char (valueIn 8 digits)
          else if isAsciiDigit c then numberEscape c
          else return .char (← plainEscape c)

def setSymbol : Symbol → Reading SetItem
  | ['\\', c] => setEscape c
  | symbol => return .char ((symbol.head?.map Char.toNat).getD 0)

/-- A range between two single characters, the lower one first. -/
def setRange (low high : SetItem) (lowText highText : Symbol) : Reading SetItem := do
  let bad := failAt (lowText.length + 1 + highText.length)
    (.badRange (String.ofList lowText) (String.ofList highText))
  match low, high with
  | .char a, .char b => if b < a then bad else return .range a b
  | _, _ => bad

/-- The items of a set up to its closing bracket; a bracket that would be the first
item stands for itself. -/
def setItems (start : Nat) : Nat → List SetItem → Reading (List SetItem)
  | 0, done => return done
  | fuel + 1, done => do
      let unterminated := do failAt ((← position) - start) .unterminatedSet
      match ← take with
      | none => unterminated
      | some symbol =>
          if symbol == [']'] && !done.isEmpty then return done
          let item ← setSymbol symbol
          if ← skipOver '-' then
            match ← take with
            | none => unterminated
            | some [']'] => return done ++ [item, .char 45]
            | some high =>
                let range ← setRange item (← setSymbol high) symbol high
                setItems start fuel (done ++ [range])
          else setItems start fuel (done ++ [item])

/-- A set of one character is that character, or any other. -/
def charSet : Reading Node := do
  let start := (← position) - 1
  let negated ← skipOver '^'
  let items ← setItems start ((← get).rest.length + 1) []
  return match items.eraseDups with
    | [.char code] => if negated then .otherThan code else .char code
    | items => .set negated items

end LuaBinder.Pattern.Reader
