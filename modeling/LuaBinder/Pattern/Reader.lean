import LuaBinder.Number.Limit
import LuaBinder.Number.Reading
import LuaBinder.Pattern.Fault

namespace LuaBinder.Pattern.Reader

open Text Number

/-! Reading a pattern. The text is a sequence of symbols, each a character or a
backslash with the character after it. -/

/-- The reader's state: what is left, the flags of the whole pattern, and what is
known of its groups. Position `n` of `widths` belongs to group `n + 1` and is empty
while the group is open. -/
structure Progress where
  rest : List Char
  flags : Flags := {}
  names : List (String × Nat) := []
  widths : List (Option Width) := []
  behind : Option Nat := none
  conditions : List (Nat × Nat) := []
  deriving Repr

structure Stop where
  cause : Cause
  position : Option Nat

inductive Halt where
  | stop (stop : Stop)
  | repeatTooLarge
  | repeatTooLong (digits : Nat)

/-- Reading knows the length of the whole text. -/
abbrev Reading := ReaderT Nat (StateT Progress (Except Halt))

/-- A symbol is one character, or a backslash and one more. -/
abbrev Symbol := List Char

def symbolOf : List Char → Option Symbol
  | [] => none
  | '\\' :: c :: _ => some ['\\', c]
  | c :: _ => some [c]

def peek : Reading (Option Symbol) := do
  return symbolOf (← get).rest

def position : Reading Nat := do
  return (← read) - (← get).rest.length

/-- A fault `offset` characters before the next symbol. -/
def failAt (offset : Nat) (cause : Cause) : Reading α := do
  throw (.stop ⟨cause, some ((← position) - offset)⟩)

/-- A lone backslash at the end is no symbol. -/
def checkEnd : Reading Unit := do
  if (← get).rest == ['\\'] then
    throw (.stop ⟨.escapeAtEnd, some ((← read) - 1)⟩)

def take : Reading (Option Symbol) := do
  let next ← peek
  modify fun p => { p with rest := p.rest.drop (next.getD []).length }
  checkEnd
  return next

def skipOver (c : Char) : Reading Bool := do
  if (← peek) == some [c] then
    let _ ← take
    return true
  else return false

/-- At most `count` symbols of the class, as text. -/
def takeWhile (ok : Char → Bool) : Nat → Reading (List Char)
  | 0 => return []
  | count + 1 => do
      match ← peek with
      | some [c] =>
          if ok c then
            let _ ← take
            return c :: (← takeWhile ok count)
          else return []
      | _ => return []

def isOctal (c : Char) : Bool := '0' ≤ c && c ≤ '7'

def isHex (c : Char) : Bool := (hexValue? c).isSome

def valueIn (base : Nat) (digits : List Char) : Nat :=
  ofDigits base (digits.map fun c => (hexValue? c).getD 0)

/-- The text before the closing character, which is consumed. -/
def takeUntil (close : Char) (named : Named) : Nat → List Char → Reading (List Char)
  | 0, done => return done
  | fuel + 1, done => do
      match ← take with
      | none =>
          if done.isEmpty then failAt 0 (.missingName named)
          else failAt done.length (.unterminatedName close named)
      | some symbol =>
          if symbol == [close] then
            if done.isEmpty then failAt 1 (.missingName named) else return done
          else takeUntil close named fuel (done ++ symbol)

def takeName (close : Char) (named : Named) : Reading (List Char) := do
  takeUntil close named ((← get).rest.length + 1) []

/-- An integer as a group reference may write it: signed, blanks around it, single
underscores between digits, digits of any script. -/
def integer? (text : List Char) : Option Int :=
  match dropUnderscores? (trimPadding text) with
  | none => none
  | some plain =>
      let (negative, unsigned) := takeSign plain
      let (digits, rest) := takeDecimals unsigned
      if digits.isEmpty || !rest.isEmpty || digitLimit < digits.length then none
      else
        let value : Int := ofDigits 10 digits
        some (if negative then -value else value)

/-- References to groups stay below this number. -/
def groupLimit : Nat := 1073741823

def isOpen (group : Nat) (p : Progress) : Bool :=
  ((p.widths[group - 1]?).join).isNone

def groupWidth (p : Progress) (group : Nat) : Width :=
  ((p.widths[group - 1]?).join).getD .zero

/-- Inside a look-behind only groups closed before it can be referred to. -/
def checkLookBehind (group : Nat) : Reading Unit := do
  let p ← get
  match p.behind with
  | none => return ()
  | some first =>
      if isOpen group p then failAt 0 .openGroup
      if first ≤ group then failAt 0 .groupInLookBehind

def openGroup (name : Option (List Char)) : Reading Nat := do
  let p ← get
  let group := p.widths.length + 1
  set { p with widths := p.widths ++ [none] }
  match name with
  | none => return group
  | some name =>
      let text := String.ofList name
      match p.names.find? (·.1 == text) with
      | some earlier =>
          failAt (name.length + 1) (.repeatedGroup text group earlier.2)
      | none =>
          modify fun p => { p with names := p.names ++ [(text, group)] }
          return group

def closeGroup (group : Nat) (body : List Node) : Reading Unit :=
  modify fun p =>
    { p with widths := p.widths.set (group - 1) (some (seqWidth (groupWidth p) body)) }

end LuaBinder.Pattern.Reader
