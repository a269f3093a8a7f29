import LuaBinder.Pattern.Machine

namespace LuaBinder.Pattern

/-! Matches: of a whole text, and the first one within a text. -/

/-- A match: the stretch it covers and what its groups captured. -/
structure Match where
  subject : Array Char
  span : Span
  captures : List (Option Span)
  deriving Repr

/-- A capture ends before it begins, so that the match cannot be told. -/
inductive MatchFault where
  | crossedCapture
  deriving DecidableEq, Repr

def MatchFault.message : MatchFault → String
  | .crossedCapture =>
      "The span of capturing group is wrong, please report a bug for the re module."

namespace Match

def group? (found : Match) (group : Nat) : Option (List Char) :=
  if group == 0 then some (textOf found.subject found.span)
  else (found.captures[group - 1]?.join).map (textOf found.subject)

def before (found : Match) : List Char :=
  textOf found.subject ⟨0, found.span.first⟩

def after (found : Match) : List Char :=
  textOf found.subject ⟨found.span.last, found.subject.size⟩

end Match

/-- Where each group begins and ends, if both of its marks are set. -/
def State.spans (groups : Nat) (state : State) : List (Option Span) :=
  (List.range groups).map fun group =>
    match state.marks[2 * group]?.join, state.marks[2 * group + 1]?.join with
    | some first, some last => some ⟨first, last⟩
    | _, _ => none

def Span.isCrossed (span : Span) : Bool := span.last < span.first

namespace Beginning

/-- A match may begin here. A set holds for a character, and so for no end of text. -/
def allows (subject : Array Char) (start : Nat) : Beginning → Bool
  | .anywhere => true
  | .text codes =>
      codes == ((subject.extract start (start + codes.length)).toList.map Char.toNat)
  | .oneOf set => subject[start]?.any set.holds

/-- The places where a search looks, in order. Where nothing is known of the first
characters, the last places that are too near to the end are left out. -/
def starts (subject : Array Char) (least : Nat) (beginning : Beginning) : List Nat :=
  if subject.size < least then []
  else
    match beginning with
    | .anywhere => List.range (subject.size - (least - 1) + 1)
    | known => (List.range subject.size).filter (known.allows subject ·)

end Beginning

namespace Compiled

def matchOf (pattern : Compiled) (subject : Array Char) (start : Nat) (state : State) : Match :=
  ⟨subject, ⟨start, state.place⟩, state.spans pattern.groups⟩

/-- The first match in the text: the preferred one at the leftmost place that has one. -/
def search? (pattern : Compiled) (text : String) : Option Match :=
  let subject := text.toList.toArray
  let program := pattern.program
  (program.beginning.starts subject program.least).findSome? fun start =>
    (program.runFrom false subject start).map (pattern.matchOf subject start)

/-- The preferred match that covers the whole text. -/
def fullMatch? (pattern : Compiled) (text : String) : Option Match :=
  let subject := text.toList.toArray
  if subject.size < pattern.program.least then none
  else (pattern.program.runFrom true subject 0).map (pattern.matchOf subject 0)

end Compiled

/-- The match can be told if no capture is crossed. -/
def Match.check (found : Match) : Except MatchFault Match :=
  if found.captures.any (·.any Span.isCrossed) then .error .crossedCapture else .ok found

/-- Whether the pattern matches the whole text. -/
def Compiled.matchesAll (pattern : Compiled) (text : String) : Except MatchFault Bool :=
  match pattern.fullMatch? text with
  | none => .ok false
  | some found => found.check.map fun _ => true

end LuaBinder.Pattern
