import LuaBinder.Pattern.Program

namespace LuaBinder.Pattern

open Text

/-! Running a program by backtracking. Besides the place that a step starts from there
is one state for the whole run. It also changes on the way to a failure: a step that
fails leaves the state as it is, and each choice says what of it is put back. -/

/-- A stretch of the subject. -/
structure Span where
  first : Nat
  last : Nat
  deriving DecidableEq, Repr

def textOf (subject : Array Char) (span : Span) : List Char :=
  (subject.extract span.first span.last).toList

/-- `place` is where the last attempt began or ended. The marks are those set so far;
a mark below one that is set may be missing. -/
structure State where
  place : Nat
  marks : Array (Option Nat) := #[]
  deriving Repr

namespace State

def moveTo (place : Nat) (state : State) : State := { state with place }

def setMark (index place : Nat) (state : State) : State :=
  let missing := index - state.marks.size
  let marks := state.marks ++ Array.replicate missing none
  { state with
    marks :=
      if index < marks.size then marks.setIfInBounds index (some place)
      else marks.push (some place) }

/-- A capture is known once its second mark has been reached; marks left by an attempt
that failed count as well. -/
def capture? (group : Nat) (state : State) : Option Span :=
  match state.marks[2 * group - 2]?.join, state.marks[2 * group - 1]?.join with
  | some first, some last => if last < first then none else some ⟨first, last⟩
  | _, _ => none

/-- After a failed attempt later marks are dropped. Inside a loop earlier marks get
their former places back; outside they stay as the attempt left them. -/
def backTo (former : Array (Option Nat)) (inLoop : Bool) (state : State) : State :=
  { state with marks := if inLoop then former else state.marks.take former.size }

end State

/-- A loop under way: `count` rounds have begun, the last optional one at `last`. -/
structure Loop where
  greedy : Bool
  least : Nat
  most : Option Nat
  body : Code
  rest : Code
  count : Nat := 0
  last : Option Nat := none

def below (count : Nat) (most : Option Nat) : Bool := most.all (count < ·)

def Loop.next (loop : Loop) : Loop := { loop with count := loop.count + 1 }

/-- Whether an attempt succeeded, and the state that it leaves. -/
abbrev Outcome := Bool × State

abbrev Attempt := State → Outcome

def fail (state : State) : Outcome := (false, state)

/-- On success the outcome stands; a failure is mended and something else is tried. -/
def orElse (outcome : Outcome) (mend : State → State) (other : Attempt) : Outcome :=
  if outcome.1 then outcome else other (mend outcome.2)

def charBefore? (subject : Array Char) (place : Nat) : Option Char :=
  if place == 0 then none else subject[place - 1]?

def wordAt (ascii : Bool) (c : Option Char) : Bool := c.any (isOfKind ascii .word)

/-- An empty subject has no word edge and no place that is none. -/
def Anchor.holds (subject : Array Char) (multiline ascii : Bool) (place : Nat) :
    Anchor → Bool
  | .start => place == 0 || (multiline && charBefore? subject place == some '\n')
  | .finish =>
      place == subject.size ||
        (subject[place]? == some '\n' && (multiline || place + 1 == subject.size))
  | .textStart => place == 0
  | .textFinish => place == subject.size
  | .wordEdge negated =>
      !subject.isEmpty &&
        ((wordAt ascii (charBefore? subject place) != wordAt ascii subject[place]?) != negated)

def CharTest.holdsAt (test : CharTest) (subject : Array Char) (place : Nat) : Bool :=
  subject[place]?.any test.holds

/-- How many characters in a row pass the test, at most `most`. -/
def CharTest.count (test : CharTest) (subject : Array Char) (place : Nat) :
    (most : Nat) → Nat
  | 0 => 0
  | most + 1 =>
      if test.holdsAt subject place then test.count subject (place + 1) most + 1 else 0

/-- The state after counting: sets that ignore case move the place along. -/
def CharTest.afterCount (test : CharTest) (place count : Nat) (state : State) : State :=
  state.moveTo (if test.isFoldedSet then place + count else place)

/-- The text of a capture again, from `place` on. -/
def repeatedAt (subject : Array Char) (folding : Folding) (place : Nat) :
    List Char → Option Nat
  | [] => some place
  | c :: rest =>
      match subject[place]? with
      | some d =>
          if folding.lower c.toNat == folding.lower d.toNat then
            repeatedAt subject folding (place + 1) rest
          else none
      | none => none

/-- The character that a program must find first, where it is told at once. -/
def leadingChar? : Code → Option Nat
  | .one (.exactly code) :: _ => some code
  | _ => none

/-- A branch whose first character is told at once and is another is not tried. -/
def canBegin (subject : Array Char) (place : Nat) : Code → Bool
  | .one (.exactly code) :: _ => (CharTest.exactly code).holdsAt subject place
  | .one (.among set) :: _ =>
      set.folding != .exact || (CharTest.among set).holdsAt subject place
  | _ => true

/-- Branches in their order. -/
def firstBranch (subject : Array Char) (place : Nat) (attempt : Code → Attempt)
    (mend : State → State) : List Code → Attempt
  | [], state => fail state
  | branch :: others, state =>
      if canBegin subject place branch then
        orElse (attempt branch (state.moveTo place)) mend
          (firstBranch subject place attempt mend others)
      else firstBranch subject place attempt mend others state

/-- The rest after `extra` more characters than needed, then after fewer. A rest that
begins with a certain character is tried only where that stands. -/
def longestFirst (subject : Array Char) (lead : Option Nat) (base : Nat)
    (attempt : Nat → Attempt) (mend : State → State) : (extra : Nat) → Attempt
  | extra, state =>
      let place := base + extra
      let tried (other : Attempt) : Outcome :=
        if lead.all fun code => (CharTest.exactly code).holdsAt subject place then
          orElse (attempt place (state.moveTo place)) mend other
        else other state
      match extra with
      | 0 => tried fail
      | fewer + 1 => tried (longestFirst subject lead base attempt mend fewer)

/-- The rest after as few characters as possible, then after more. -/
def shortestFirst (subject : Array Char) (test : CharTest) (attempt : Nat → Attempt)
    (mend : State → State) : (extra : Nat) → (place : Nat) → Attempt
  | extra, place, state =>
      orElse (attempt place (state.moveTo place)) (fun s => (mend s).moveTo place)
        fun state =>
          if test.holdsAt subject place then
            let state := test.afterCount place 1 state
            match extra with
            | 0 => fail state
            | extra + 1 => shortestFirst subject test attempt mend extra (place + 1) state
          else fail state

/-- The required rounds of a possessive repetition. -/
def requiredRounds (attempt : Attempt) : Nat → Attempt
  | 0, state => (true, state)
  | count + 1, state =>
      let outcome := attempt state
      if outcome.1 then requiredRounds attempt count outcome.2 else outcome

/-- The optional rounds of a possessive repetition. A round that fails puts the marks
back, and the repetition goes on from the place that the round has reached. -/
def optionalRounds (attempt : Attempt) : (fuel : Nat) → (most : Option Nat) →
    (last : Option Nat) → State → State
  | 0, _, _, state => state
  | fuel + 1, most, last, state =>
      if most == some 0 || last == some state.place then state
      else
        let outcome := attempt state
        if outcome.1 then
          optionalRounds attempt fuel (most.map (· - 1)) (some state.place) outcome.2
        else outcome.2.backTo state.marks true

/-- Runs the program from `place`. With `whole` its end must be the end of the subject.
The loops under way are those that an `again` belongs to, the innermost first. -/
def run (subject : Array Char) :
    (fuel : Nat) → (whole : Bool) → Code → List Loop → (place : Nat) → Attempt
  | 0, _, _, _, _, state => fail state
  | fuel + 1, whole, code, loops, place, state =>
      let mend (s : State) := s.backTo state.marks (!loops.isEmpty)
      let rewind (outcome : Outcome) := orElse outcome (State.moveTo place) fail
      match code with
      | [] =>
          if whole && place != subject.size then fail state else (true, state.moveTo place)
      | .one test :: rest =>
          if test.holdsAt subject place then run subject fuel whole rest loops (place + 1) state
          else fail state
      | .anchor multiline ascii anchor :: rest =>
          if anchor.holds subject multiline ascii place then
            run subject fuel whole rest loops place state
          else fail state
      | .mark index :: rest =>
          run subject fuel whole rest loops place (state.setMark index place)
      | .backref group folding :: rest =>
          match state.capture? group with
          | none => fail state
          | some span =>
              match repeatedAt subject folding place (textOf subject span) with
              | some after => run subject fuel whole rest loops after state
              | none => fail state
      | .given group yes no :: rest =>
          let chosen := if (state.capture? group).isSome then yes else no
          run subject fuel whole (chosen ++ rest) loops place state
      | .join :: rest => run subject fuel whole rest loops place state
      | .choice branches :: rest =>
          firstBranch subject place
            (fun branch s => run subject fuel whole (branch ++ rest) loops s.place s)
            mend branches state
      | .repeatOne greed least most test :: rest =>
          let left := subject.size - place
          if left < least then fail state
          else
            let most := min left (most.getD left)
            let goal := if greed == .lazy then least else most
            let count := test.count subject place goal
            let counted := test.afterCount place count state
            if count < least then fail counted
            else
              let attempt (place : Nat) := run subject fuel whole rest loops place
              match greed with
              | .greedy =>
                  longestFirst subject (leadingChar? rest) (place + least) attempt mend
                    (count - least) counted
              | .lazy =>
                  shortestFirst subject test attempt mend (most - least) (place + least) counted
              | .possessive => attempt (place + count) (counted.moveTo (place + count))
      | .loop greedy least most body :: rest =>
          run subject fuel whole [.again] ({ greedy, least, most, body, rest } :: loops) place
            (state.moveTo place)
      | .again :: _ =>
          match loops with
          | [] => fail state
          | loop :: outer =>
              let state := state.moveTo place
              let round (loop : Loop) : Attempt := fun s =>
                run subject fuel whole loop.body (loop.next :: outer) place s
              let after : Attempt := fun s => run subject fuel whole loop.rest outer place s
              let more := below loop.count loop.most && loop.last != some place
              let optional := { loop with last := some place }
              if loop.count < loop.least then rewind (round loop state)
              else if loop.greedy then
                if more then
                  orElse (round optional state)
                    (fun s => (s.backTo state.marks true).moveTo place)
                    fun s => rewind (after s)
                else rewind (after state)
              else
                orElse (after state)
                  (fun s => (s.backTo state.marks (!outer.isEmpty)).moveTo place)
                  fun s => if more then rewind (round optional s) else fail s
      | .possessive least most body :: rest =>
          let attempt : Attempt := fun s => run subject fuel false body loops s.place s
          let required := requiredRounds attempt least (state.moveTo place)
          if required.1 then
            let reached := optionalRounds attempt fuel (most.map (· - least)) none required.2
            run subject fuel whole rest loops reached.place reached
          else fail (required.2.moveTo place)
      | .atomic body :: rest =>
          let inner := run subject fuel false body loops place (state.moveTo place)
          if inner.1 then run subject fuel whole rest loops inner.2.place inner.2
          else fail (inner.2.moveTo place)
      | .look back positive body :: rest =>
          if place < back then
            if positive then fail state else run subject fuel whole rest loops place state
          else
            let inner := run subject fuel false body loops (place - back)
              (state.moveTo (place - back))
            if inner.1 != positive then fail inner.2
            else
              let state := if positive then inner.2 else mend inner.2
              run subject fuel whole rest loops place state

mutual

/-- A bound on the steps in a row from a step to the end of its code: in a repetition
every optional round begins at another place. -/
def Instr.bound (places : Nat) : Instr → Nat
  | .choice branches => branchesBound places branches
  | .loop _ least _ body => (least + places) * (codeBound places body + 2)
  | .possessive _ _ body => codeBound places body + places
  | .atomic body => codeBound places body
  | .look _ _ body => codeBound places body
  | .given _ yes no => codeBound places yes + codeBound places no
  | _ => 1

def codeBound (places : Nat) : Code → Nat
  | [] => 2
  | step :: rest => step.bound places + codeBound places rest + 1

def branchesBound (places : Nat) : List Code → Nat
  | [] => 0
  | branch :: rest => codeBound places branch + branchesBound places rest

end

namespace Program

def runFrom (program : Program) (whole : Bool) (subject : Array Char) (start : Nat) :
    Option State :=
  let places := subject.size + 2
  let fuel := places * codeBound places program.code
  let outcome := run subject fuel whole program.code [] start { place := start }
  if outcome.1 then some outcome.2 else none

end Program

end LuaBinder.Pattern
