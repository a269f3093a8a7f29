import LuaBinder.Pattern.Escape
import LuaBinder.Pattern.Program

namespace LuaBinder.Pattern

open Text Number

/-! Patterns from their text: groups, repetitions and alternatives. -/

namespace Reader

/-- A number of repetitions; without digits it is zero. -/
def repeatCount (digits : List Char) : Reading Nat := do
  if digitLimit < digits.length then throw (.repeatTooLong digits.length)
  let count := valueIn 10 digits
  if repeatLimit ≤ count then throw .repeatTooLarge
  return count

def countBounds : Reading (Option (Nat × Option Nat)) := do
  let before ← get
  let start ← position
  let digits := takeWhile isAsciiDigit (before.rest.length + 1)
  let literal := do
    set before
    return none
  if (← peek) == some ['\x7d'] then return none
  let low ← digits
  let high ← if ← skipOver ',' then digits else pure low
  if !(← skipOver '\x7d') then literal
  else
    let least ← repeatCount low
    let most ← repeatCount high
    if !high.isEmpty && most < least then
      failAt ((← position) - start) .repeatBounds
    return some (least, if high.isEmpty then none else some most)

/-- The parts of a branch read so far, the last one first. -/
abbrev Parts := List Node

/-- The parts in their order; a plain group is the parts within it. -/
def joined (parts : Parts) : List Node :=
  parts.reverse.flatMap fun part => part.plainBody?.getD [part]

/-- The mark after a repetition. -/
def greedMark : Reading Greed := do
  match ← peek with
  | some ['?'] =>
      let _ ← take
      return .lazy
  | some ['+'] =>
      let _ ← take
      return .possessive
  | _ => return .greedy

/-- Repeats the last part; `start` is the place after the repetition mark. -/
def repeatLast (start : Nat) (bounds : Nat × Option Nat) (parts : Parts) :
    Reading Parts := do
  let place := (← position) - start + 1
  match parts with
  | [] => failAt place .nothingToRepeat
  | last :: before =>
      if last.isAnchor then failAt place .nothingToRepeat
      if last.isRepetition then failAt place .multipleRepeat
      let greed ← greedMark
      return .iterate greed bounds.1 bounds.2 (last.plainBody?.getD [last]) :: before

def unknownFlag (what : String) (symbol : Symbol) : Reading α :=
  failAt symbol.length <|
    match symbol with
    | [c] => if isLetter c then .unknownFlag else .expected what
    | _ => .expected what

/-- Flags up to the end of their list; `first` is the letter already read. -/
def addedFlags : Nat → Flags → Char → Reading (Flags × Char)
  | 0, done, close => return (done, close)
  | fuel + 1, done, c => do
      let flag := (Flags.ofLetter? c).getD {}
      if c == 'L' then failAt 0 .localeFlag
      let done := done.union flag
      if flag.setsKind && done.kind != flag then failAt 0 .exclusiveFlags
      match ← take with
      | none => failAt 0 (.expected "-, : or )")
      | some symbol =>
          match symbol with
          | [d] =>
              if d == ')' || d == '-' || d == ':' then return (done, d)
              else if (Flags.ofLetter? d).isSome then addedFlags fuel done d
              else unknownFlag "-, : or )" symbol
          | _ => unknownFlag "-, : or )" symbol

def removedFlags : Nat → Flags → Char → Reading Flags
  | 0, done, _ => return done
  | fuel + 1, done, c => do
      let flag := (Flags.ofLetter? c).getD {}
      if flag.setsKind then failAt 0 .kindFlagOff
      let done := done.union flag
      match ← take with
      | none => failAt 0 (.expected ":")
      | some symbol =>
          match symbol with
          | [d] =>
              if d == ':' then return done
              else if (Flags.ofLetter? d).isSome then removedFlags fuel done d
              else unknownFlag ":" symbol
          | _ => unknownFlag ":" symbol

def firstRemovedFlag : Reading Char := do
  match ← take with
  | none => failAt 0 (.expected "flag")
  | some symbol =>
      match symbol with
      | [d] =>
          if (Flags.ofLetter? d).isSome then return d else unknownFlag "flag" symbol
      | _ => unknownFlag "flag" symbol

/-- Flags for the whole pattern, or those that the following group adds and removes. -/
inductive FlagScope where
  | whole (added : Flags)
  | group (added removed : Flags)

def inlineFlags (first : Char) : Reading FlagScope := do
  let fuel := (← get).rest.length + 1
  let (added, close) ←
    if first == '-' then pure (Flags.none, '-') else addedFlags fuel {} first
  if close == ')' then return .whole added
  if added.template then failAt 1 .globalFlagOn
  let removed ←
    if close == '-' then removedFlags fuel {} (← firstRemovedFlag) else pure {}
  if removed.template then failAt 1 .globalFlagOff
  if added.without removed != added then failAt 1 .flagOnAndOff
  return .group added removed

def skipComment (start : Nat) : Nat → Reading Unit
  | 0 => return ()
  | fuel + 1 => do
      if (← peek).isNone then failAt ((← position) - start) .unterminatedComment
      if (← take) == some [')'] then return () else skipComment start fuel

/-- In verbose patterns a hash mark starts a comment that ends with the line. -/
def skipLine : Nat → Reading Unit
  | 0 => return ()
  | fuel + 1 => do
      match ← take with
      | none => return ()
      | some symbol => if symbol == ['\n'] then return () else skipLine fuel

def isPatternSpace (c : Char) : Bool := c == ' ' || (9 ≤ c.toNat && c.toNat ≤ 13)

def namedReference : Reading Node := do
  let name ← takeName ')' .group
  let text := String.ofList name
  if !isName name then failAt (name.length + 1) (.badGroupName text)
  match (← get).names.find? (·.1 == text) with
  | none => failAt (name.length + 1) (.unknownGroup text)
  | some (_, group) =>
      if isOpen group (← get) then failAt (name.length + 1) .openGroup
      checkLookBehind group
      return .backref group

/-- The group that a condition asks for, by name or by number. A number is checked
against the groups when the pattern is complete. -/
def conditionGroup : Reading Nat := do
  let name ← takeName ')' .group
  let text := String.ofList name
  let place := name.length + 1
  let group ←
    if isName name then
      match (← get).names.find? (·.1 == text) with
      | none => failAt place (.unknownGroup text)
      | some (_, group) => pure group
    else
      match integer? name with
      | none => failAt place (.badGroupName text)
      | some number =>
          if number < 0 then failAt place (.badGroupName text)
          let group := number.toNat
          if group == 0 then failAt place .badGroupNumber
          if groupLimit ≤ group then failAt place (.noSuchGroup group)
          if !(← get).conditions.any (·.1 == group) then
            let start := (← position) - place
            modify fun p => { p with conditions := p.conditions ++ [(group, start)] }
          pure group
  checkLookBehind group
  return group

def expectClose (start : Nat) : Reading Unit := do
  if !(← skipOver ')') then failAt ((← position) - start) .unterminatedGroup

/-- The end of a branch. -/
def atBranchEnd : Option Symbol → Bool
  | none => true
  | some ['|'] => true
  | some [')'] => true
  | _ => false

def wholeFlags : Reading Flags := do return (← get).flags

/-- What kind of group a bracket opens. -/
inductive Opening where
  | group (name : Option (List Char))
  | inner (added removed : Flags)
  | atomic
  | look (positive : Bool)
  | lookBehind (positive : Bool)
  | conditional
  | reference (node : Node)
  | comment
  | whole (added : Flags)

def unknownExtension (mark : List Char) (symbol : Symbol) : Reading α :=
  let text := mark ++ symbol
  failAt (text.length + 1) (.unknownExtension (String.ofList text))

def namedOpening : Reading Opening := do
  match ← take with
  | none => failAt 0 .unexpectedEnd
  | some ['<'] =>
      let name ← takeName '>' .group
      if !isName name then
        failAt (name.length + 1) (.badGroupName (String.ofList name))
      return .group (some name)
  | some ['='] => return .reference (← namedReference)
  | some symbol => unknownExtension ['P'] symbol

def behindOpening : Reading Opening := do
  match ← take with
  | none => failAt 0 .unexpectedEnd
  | some ['='] => return .lookBehind true
  | some ['!'] => return .lookBehind false
  | some symbol => unknownExtension ['<'] symbol

def flagOpening (symbol : Symbol) : Reading Opening := do
  match symbol with
  | [c] =>
      if c == '-' || (Flags.ofLetter? c).isSome then
        match ← inlineFlags c with
        | .whole added => return .whole added
        | .group added removed => return .inner added removed
      else unknownExtension [] symbol
  | _ => unknownExtension [] symbol

/-- What follows an opening bracket at `start`, up to the body. -/
def opening (start : Nat) : Reading Opening := do
  if !(← skipOver '?') then return .group none
  match ← take with
  | none => failAt 0 .unexpectedEnd
  | some [':'] => return .inner .none .none
  | some ['>'] => return .atomic
  | some ['P'] => namedOpening
  | some ['#'] =>
      skipComment start ((← get).rest.length + 1)
      return .comment
  | some ['='] => return .look true
  | some ['!'] => return .look false
  | some ['<'] => behindOpening
  | some ['('] => return .conditional
  | some symbol => flagOpening symbol

/-- The next piece of a branch. Bounds repeat the part before them, and a group is
known by the place of its bracket. -/
inductive Item where
  | part (node : Node)
  | blank
  | bounds (start : Nat) (bounds : Nat × Option Nat)
  | bracket (start : Nat) (opening : Opening)

/-- In verbose patterns blanks and comments mean nothing. -/
def item (verbose : Bool) : Symbol → Reading Item
  | ['\\', c] => do return .part (← escaped c)
  | [c] => do
      if verbose && isPatternSpace c then return .blank
      if verbose && c == '#' then
        skipLine ((← get).rest.length + 1)
        return .blank
      match c with
      | '[' => return .part (← charSet)
      | '.' => return .part .any
      | '^' => return .part (.anchor .start)
      | '$' => return .part (.anchor .finish)
      | '?' => return .bounds (← position) (0, some 1)
      | '*' => return .bounds (← position) (0, none)
      | '+' => return .bounds (← position) (1, none)
      | '\x7b' =>
          let start ← position
          match ← countBounds with
          | none => return .part (.char c.toNat)
          | some bounds => return .bounds start bounds
      | '(' =>
          let start := (← position) - 1
          return .bracket start (← opening start)
      | _ => return .part (.char c.toNat)
  | _ => return .blank

mutual

/-- Alternatives separated by bars. At the top it is asked anew for each alternative
whether the pattern is verbose. -/
def alternatives : Nat → (verbose top first : Bool) → Reading (List (List Node))
  | 0, _, _, _ => return []
  | fuel + 1, verbose, top, first => do
      let parts ← branch fuel verbose first top []
      if ← skipOver '|' then
        let verbose ← if top then do pure (← wholeFlags).verbose else pure verbose
        return parts :: (← alternatives fuel verbose top false)
      else return [parts]

/-- One alternative; `first` while flags for the whole pattern may still come. -/
def branch : Nat → (verbose first top : Bool) → Parts → Reading (List Node)
  | 0, _, _, _, parts => return joined parts
  | fuel + 1, verbose, first, top, parts => do
      let next ← peek
      if atBranchEnd next then return joined parts
      let _ ← take
      match ← item verbose (next.getD []) with
      | .part node => branch fuel verbose first top (node :: parts)
      | .blank => branch fuel verbose first top parts
      | .bounds start bounds =>
          branch fuel verbose first top (← repeatLast start bounds parts)
      | .bracket start found =>
          match found with
          | .comment => branch fuel verbose first top parts
          | .whole added =>
              modify fun p => { p with flags := p.flags.union added }
              if !first || !parts.isEmpty then
                failAt ((← position) - start) .lateFlags
              branch fuel (← wholeFlags).verbose first top parts
          | found =>
              let node ← bracketed fuel verbose start found
              branch fuel verbose first top (node :: parts)

/-- A group up to its closing bracket. -/
def bracketed : Nat → (verbose : Bool) → (start : Nat) → Opening → Reading Node
  | 0, _, _, _ => return .choice []
  | fuel + 1, verbose, start, found => do
      match found with
      | .group name =>
          let group ← openGroup name
          let body ← body fuel verbose start
          closeGroup group body
          return .group (some group) .none .none body
      | .inner added removed =>
          let verbose := (verbose || added.verbose) && !removed.verbose
          return .group none added removed (← body fuel verbose start)
      | .atomic => return .atomic (← body fuel verbose start)
      | .look positive => return .look .ahead positive (← body fuel verbose start)
      | .lookBehind positive =>
          let outer := (← get).behind
          if outer.isNone then
            modify fun p => { p with behind := some (p.widths.length + 1) }
          let branches ← alternatives fuel verbose false false
          modify fun p => { p with behind := outer }
          expectClose start
          let body := Node.ofBranches branches
          let width := seqWidth (groupWidth (← get)) body
          return .look (.behind width) positive body
      | .conditional => conditional fuel verbose start
      | .reference node => return node
      | .comment => return .choice []
      | .whole _ => return .choice []

/-- What stands between the brackets of a group. -/
def body : Nat → (verbose : Bool) → (start : Nat) → Reading (List Node)
  | 0, _, _ => return []
  | fuel + 1, verbose, start => do
      let branches ← alternatives fuel verbose false false
      expectClose start
      return Node.ofBranches branches

def conditional : Nat → (verbose : Bool) → (start : Nat) → Reading Node
  | 0, _, _ => return .choice []
  | fuel + 1, verbose, start => do
      let group ← conditionGroup
      let yes ← branch fuel verbose false false []
      if ← skipOver '|' then
        let no ← branch fuel verbose false false []
        if (← peek) == some ['|'] then failAt 0 .tooManyBranches
        expectClose start
        return .given group yes no
      else
        expectClose start
        return .given group yes []

end

end Reader

mutual

/-- A look-behind moves back by a fixed width; a template repeats nothing. -/
def Node.misuse? (template : Bool) : Node → Option Cause
  | .choice branches => branchesMisuse? template branches
  | .group _ _ _ body => seqMisuse? template body
  | .iterate greed _ _ body =>
      if template then some (.noRepeatAllowed greed) else seqMisuse? template body
  | .atomic body => seqMisuse? template body
  | .look .ahead _ body => seqMisuse? template body
  | .look (.behind width) _ body =>
      if width.least != width.most then some .variableLookBehind
      else seqMisuse? template body
  | .given _ yes no => (seqMisuse? template yes).or (seqMisuse? template no)
  | _ => none

def seqMisuse? (template : Bool) : List Node → Option Cause
  | [] => none
  | node :: rest => (node.misuse? template).or (seqMisuse? template rest)

def branchesMisuse? (template : Bool) : List (List Node) → Option Cause
  | [] => none
  | branch :: rest => (seqMisuse? template branch).or (branchesMisuse? template rest)

end

open Reader in
def readPattern : Reading (List Node) := do
  checkEnd
  let length ← read
  let branches ← alternatives (4 * length + 8) false true true
  let nodes := Node.ofBranches branches
  let p ← get
  if p.flags.ascii && p.flags.unicode then return nodes
  if !p.rest.isEmpty then failAt 0 .unbalanced
  p.conditions.forM fun (index, place) =>
    if p.widths.length < index then throw (.stop ⟨.noSuchGroup index, some place⟩)
    else return ()
  return nodes

def Reader.Halt.error (source : String) : Reader.Halt → PatternError
  | .stop reason => .fault ⟨reason.cause, reason.position, source⟩
  | .repeatTooLarge => .repeatTooLarge
  | .repeatTooLong digits => .repeatTooLong digits

def parse (source : String) : Except PatternError Compiled :=
  let text := source.toList
  match (readPattern.run text.length).run { rest := text } with
  | .error halt => .error (halt.error source)
  | .ok (nodes, p) =>
      if p.flags.ascii && p.flags.unicode then .error .mixedFlags
      else
        match seqMisuse? p.flags.template nodes with
        | some cause => .error (.fault ⟨cause, none, source⟩)
        | none =>
            let program := Program.ofNodes p.flags (Reader.groupWidth p) nodes
            if program.looksTooFarBack then .error .wideLookBehind
            else .ok ⟨source, program, p.widths.length, p.names⟩

end LuaBinder.Pattern
