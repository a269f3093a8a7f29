namespace LuaBinder

/-! Patterns for file names. A star stands for any text, a question mark for one
character, and a bracket for one character of a set. -/

inductive GlobItem where
  | anyText
  | anyChar
  | char (c : Char)
  | oneOf (negated : Bool) (ranges : List (Char × Char))
  deriving DecidableEq, Repr

abbrev Glob := List GlobItem

namespace Glob

/-! The inside of a bracket. A hyphen makes a range of the characters beside it unless
one of them is missing or belongs to a range already. -/

/-- The text between the hyphens that make ranges; the next `skip` characters make
none. -/
def chunksFrom (skip : Nat) (chunk : List Char) : List Char → List (List Char)
  | [] => [chunk]
  | c :: rest =>
      if skip == 0 && c == '-' then chunk :: chunksFrom 2 [] rest
      else chunksFrom (skip - 1) (chunk ++ [c]) rest

/-- A hyphen at the end stands for itself. -/
def keepLastHyphen : List (List Char) → List (List Char)
  | [] => []
  | [chunk] => [chunk]
  | [chunk, []] => [chunk ++ ['-']]
  | chunk :: rest => chunk :: keepLastHyphen rest

def isEmptyRange (first second : List Char) : Bool :=
  match first.getLast?, second.head? with
  | some low, some high => high < low
  | _, _ => false

/-- A range from a later to an earlier character is left out. -/
def dropEmptyRanges : List (List Char) → List (List Char)
  | [] => []
  | chunk :: rest =>
      match dropEmptyRanges rest with
      | [] => [chunk]
      | next :: others =>
          if isEmptyRange chunk next then (chunk.dropLast ++ next.tail) :: others
          else chunk :: next :: others

def startsNegated (body : List Char) : Bool := body.head? == some '!'

def chunks (body : List Char) : List (List Char) :=
  let first := if startsNegated body then 2 else 1
  dropEmptyRanges (keepLastHyphen (chunksFrom first [] body))

inductive SetPart where
  | char (c : Char)
  | through
  deriving DecidableEq, Repr

def SetPart.literal : SetPart → Char
  | .char c => c
  | .through => '-'

def setParts : List (List Char) → List SetPart
  | [] => []
  | [chunk] => chunk.map .char
  | chunk :: rest => chunk.map .char ++ .through :: setParts rest

def rangesOf : List SetPart → List (Char × Char)
  | [] => []
  | low :: .through :: high :: rest => (low.literal, high.literal) :: rangesOf rest
  | part :: rest => (part.literal, part.literal) :: rangesOf rest

def setOf (body : List Char) : GlobItem :=
  match setParts (chunks body) with
  | .char '!' :: parts => .oneOf true (rangesOf parts)
  | parts => .oneOf false (rangesOf parts)

/-- The inside of a bracket that ends somewhere. A closing bracket at the start belongs
to the set. -/
def bracket? (text : List Char) : Option (List Char) :=
  let mark := text.takeWhile (· == '!') |>.take 1
  let inside := text.drop mark.length
  let close := inside.takeWhile (· == ']') |>.take 1
  let rest := inside.drop close.length
  if rest.contains ']' then some (mark ++ close ++ rest.takeWhile (· != ']')) else none

/-- Skips the characters that belong to a bracket read before. -/
def ofCharsAfter : Nat → List Char → Glob
  | _, [] => []
  | skip + 1, _ :: rest => ofCharsAfter skip rest
  | 0, c :: rest =>
      if c == '*' then .anyText :: ofCharsAfter 0 rest
      else if c == '?' then .anyChar :: ofCharsAfter 0 rest
      else if c == '[' then
        match bracket? rest with
        | some body => setOf body :: ofCharsAfter (body.length + 1) rest
        | none => .char c :: ofCharsAfter 0 rest
      else .char c :: ofCharsAfter 0 rest

def ofText (text : String) : Glob := ofCharsAfter 0 text.toList

end Glob

def GlobItem.admits : GlobItem → Char → Bool
  | .anyText, _ => true
  | .anyChar, _ => true
  | .char expected, c => expected == c
  | .oneOf negated ranges, c =>
      (ranges.any fun range => range.1 ≤ c && c ≤ range.2) != negated

namespace Glob

def suffixes : List α → List (List α)
  | [] => [[]]
  | a :: rest => (a :: rest) :: suffixes rest

def matchesChars : Glob → List Char → Bool
  | [], text => text.isEmpty
  | .anyText :: rest, text => (suffixes text).any (matchesChars rest)
  | item :: rest, text =>
      match text with
      | [] => false
      | c :: others => item.admits c && matchesChars rest others

/-- The pattern describes the whole text. -/
def accepts (glob : Glob) (text : String) : Bool := glob.matchesChars text.toList

end Glob

end LuaBinder
