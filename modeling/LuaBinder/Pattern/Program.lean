import LuaBinder.Pattern.CharTest

namespace LuaBinder.Pattern

/-! What a pattern does, step by step. A program is a sequence of steps; repetitions,
choices and looks hold sequences of their own. -/

/-- Capture `n` begins at mark `2 * n - 2` and ends at the mark after it. -/
inductive Instr where
  | one (test : CharTest)
  | anchor (multiline ascii : Bool) (anchor : Anchor)
  | mark (index : Nat)
  | backref (group : Nat) (folding : Folding)
  | choice (branches : List (List Instr))
  /-- The end of a branch that others follow. -/
  | join
  | repeatOne (greed : Greed) (least : Nat) (most : Option Nat) (test : CharTest)
  | loop (greedy : Bool) (least : Nat) (most : Option Nat) (body : List Instr)
  /-- The end of a loop's body. -/
  | again
  | possessive (least : Nat) (most : Option Nat) (body : List Instr)
  | atomic (body : List Instr)
  | look (back : Nat) (positive : Bool) (body : List Instr)
  | given (group : Nat) (yes no : List Instr)

abbrev Code := List Instr

mutual

/-- The test of a part that matches single characters, maybe in a group of its own. -/
def Node.test? (flags : Flags) : Node → Option CharTest
  | .char code => some (.ofCode flags false code)
  | .otherThan code => some (.ofCode flags true code)
  | .any => some (.any flags.dotAll)
  | .set negated items => some (.among (.ofItems flags negated items))
  | .group none added removed body => seqTest? (flags.inside added removed) body
  | _ => none

def seqTest? (flags : Flags) : List Node → Option CharTest
  | [node] => node.test? flags
  | _ => none

end

def captured (number : Option Nat) (body : Code) : Code :=
  match number with
  | none => body
  | some number => .mark (2 * number - 2) :: body ++ [.mark (2 * number - 1)]

def repetition (greed : Greed) (least : Nat) (most : Option Nat) (body : Code) : Instr :=
  match greed with
  | .greedy => .loop true least most (body ++ [.again])
  | .lazy => .loop false least most (body ++ [.again])
  | .possessive => .possessive least most body

mutual

def Node.code (flags : Flags) : Node → Code
  | .char code => [.one (.ofCode flags false code)]
  | .otherThan code => [.one (.ofCode flags true code)]
  | .any => [.one (.any flags.dotAll)]
  | .set negated items => [.one (.among (.ofItems flags negated items))]
  | .anchor anchor => [.anchor flags.multiline flags.ascii anchor]
  | .backref group => [.backref group flags.folding]
  | .choice branches => [.choice (branchCodes flags branches)]
  | .group number added removed body =>
      captured number (seqCode (flags.inside added removed) body)
  | .iterate greed least most body =>
      match seqTest? flags body with
      | some test => [.repeatOne greed least most test]
      | none => [repetition greed least most (seqCode flags body)]
  | .atomic body => [.atomic (seqCode flags body)]
  | .look .ahead positive body => [.look 0 positive (seqCode flags body)]
  | .look (.behind width) positive body => [.look width.least positive (seqCode flags body)]
  | .given group yes no =>
      if no.isEmpty then [.given group (seqCode flags yes) []]
      else [.given group (seqCode flags yes ++ [.join]) (seqCode flags no)]

def seqCode (flags : Flags) : List Node → Code
  | [] => []
  | node :: rest => node.code flags ++ seqCode flags rest

def branchCodes (flags : Flags) : List (List Node) → List Code
  | [] => []
  | branch :: rest => (seqCode flags branch ++ [.join]) :: branchCodes flags rest

end

/-! What is known of the places where a match can begin. -/

inductive Beginning where
  | anywhere
  | text (codes : List Nat)
  | oneOf (set : CharSet)
  deriving Repr

mutual

/-- The characters that every match begins with, and whether they are all of it. -/
def Node.fixedStart (flags : Flags) : Node → List Nat × Bool
  | .char code => if flags.folding.isCased code then ([], false) else ([code], true)
  | .group _ added removed body => seqFixedStart (flags.inside added removed) body
  | _ => ([], false)

def seqFixedStart (flags : Flags) : List Node → List Nat × Bool
  | [] => ([], true)
  | node :: rest =>
      let (codes, whole) := node.fixedStart flags
      if whole then
        let (more, whole) := seqFixedStart flags rest
        (codes ++ more, whole)
      else (codes, false)

end

/-- The single characters that branches begin with. -/
def firstChars? (flags : Flags) (branches : List (List Node)) : Option (List SetItem) :=
  branches.mapM fun
    | .char code :: _ => if flags.folding.isCased code then none else some (.char code)
    | _ => none

mutual

/-- The set of characters that a match begins with, where letter case does not matter. -/
def Node.startSet? (flags : Flags) : Node → Option (Bool × List SetItem)
  | .char code => if flags.folding.isCased code then none else some (false, [.char code])
  | .choice branches => (firstChars? flags branches).map (false, ·)
  | .set negated items =>
      if flags.folding != .exact && items.any (CharSet.isCasedItem flags.folding) then none
      else some (negated, items)
  | .group _ added removed body => seqStartSet? (flags.inside added removed) body
  | _ => none

def seqStartSet? (flags : Flags) : List Node → Option (Bool × List SetItem)
  | [] => none
  | node :: _ => node.startSet? flags

end

/-- Kinds of characters at the start mean what the flags of the whole pattern say. -/
def Beginning.ofNodes (flags : Flags) (nodes : List Node) : Beginning :=
  match seqFixedStart flags nodes with
  | ([], _) =>
      match seqStartSet? flags nodes with
      | some (negated, items) => .oneOf ⟨negated, items, .exact, flags.ascii⟩
      | none => .anywhere
  | (codes, _) => .text codes

/-- A pattern's steps, the fewest characters of a match, and how a match begins. -/
structure Program where
  code : Code
  least : Nat
  beginning : Beginning

namespace Program

def ofNodes (flags : Flags) (group : Nat → Width) (nodes : List Node) : Program :=
  let least := (seqWidth group nodes).least
  ⟨seqCode flags nodes, least,
    if least == 0 then .anywhere else .ofNodes flags nodes⟩

end Program

mutual

/-- A look can go back by less than 2 to the 31 characters. -/
def Instr.looksTooFarBack : Instr → Bool
  | .choice branches => branchesLookTooFarBack branches
  | .loop _ _ _ body => codeLooksTooFarBack body
  | .possessive _ _ body => codeLooksTooFarBack body
  | .atomic body => codeLooksTooFarBack body
  | .look back _ body => 0x80000000 ≤ back || codeLooksTooFarBack body
  | .given _ yes no => codeLooksTooFarBack yes || codeLooksTooFarBack no
  | _ => false

def codeLooksTooFarBack : Code → Bool
  | [] => false
  | step :: rest => step.looksTooFarBack || codeLooksTooFarBack rest

def branchesLookTooFarBack : List Code → Bool
  | [] => false
  | branch :: rest => codeLooksTooFarBack branch || branchesLookTooFarBack rest

end

def Program.looksTooFarBack (program : Program) : Bool := codeLooksTooFarBack program.code

/-- A readable pattern: its text, its program, how many captures it has and their names. -/
structure Compiled where
  source : String
  program : Program
  groups : Nat
  names : List (String × Nat)

instance : Repr Compiled := ⟨fun pattern depth => reprPrec pattern.source depth⟩

end LuaBinder.Pattern
