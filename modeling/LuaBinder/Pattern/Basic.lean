import LuaBinder.Pattern.Flags

namespace LuaBinder.Pattern

/-! Regular expressions over characters, with captures, look-around, atomic parts
and back references. -/

inductive CharKind where
  | digit
  | blank
  | word
  deriving DecidableEq, Repr

inductive SetItem where
  | char (code : Nat)
  | range (low high : Nat)
  | kind (kind : CharKind) (negated : Bool)
  deriving DecidableEq, Repr

/-- Places. The first two also stand at the ends of lines when lines count. -/
inductive Anchor where
  | start
  | finish
  | textStart
  | textFinish
  | wordEdge (negated : Bool)
  deriving DecidableEq, Repr

/-- Which count of repetitions is tried first, and whether others are tried at all. -/
inductive Greed where
  | greedy
  | lazy
  | possessive
  deriving DecidableEq, Repr

/-- The fewest and the most characters that a part can match. -/
structure Width where
  least : Nat
  most : Nat
  deriving DecidableEq, Repr

inductive Direction where
  | ahead
  | behind (width : Width)
  deriving DecidableEq, Repr

/-- A part of a pattern. Letter case and the other flags are settled by the groups
around a part. -/
inductive Node where
  | char (code : Nat)
  | otherThan (code : Nat)
  | any
  | set (negated : Bool) (items : List SetItem)
  | anchor (anchor : Anchor)
  | backref (group : Nat)
  | choice (branches : List (List Node))
  | group (number : Option Nat) (added removed : Flags) (body : List Node)
  | iterate (greed : Greed) (least : Nat) (most : Option Nat) (body : List Node)
  | atomic (body : List Node)
  | look (direction : Direction) (positive : Bool) (body : List Node)
  | given (group : Nat) (yes no : List Node)

/-- Repetitions are counted up to this number, which also stands for no bound. -/
def repeatLimit : Nat := 4294967295

namespace Width

def zero : Width := ⟨0, 0⟩

def one : Width := ⟨1, 1⟩

def cap (w : Width) : Width := ⟨min w.least (repeatLimit - 1), min w.most repeatLimit⟩

def add (a b : Width) : Width := ⟨a.least + b.least, a.most + b.most⟩

def join (a b : Width) : Width := ⟨min a.least b.least, max a.most b.most⟩

def times (w : Width) (least : Nat) (most : Option Nat) : Width :=
  ⟨w.least * least, w.most * most.getD repeatLimit⟩

end Width

mutual

/-- `group` gives the widths of the captures that are referred to. -/
def Node.width (group : Nat → Width) : Node → Width
  | .char _ => .one
  | .otherThan _ => .one
  | .any => .one
  | .set _ _ => .one
  | .anchor _ => .zero
  | .backref index => group index
  | .choice branches => (branchesWidth group branches).getD .zero
  | .group _ _ _ body => seqWidth group body
  | .iterate _ least most body => (seqWidth group body).times least most
  | .atomic body => seqWidth group body
  | .look _ _ _ => .zero
  | .given _ yes no => (seqWidth group yes).join (seqWidth group no)

def seqWidth (group : Nat → Width) : List Node → Width
  | [] => .zero
  | node :: rest => ((node.width group).add (seqWidth group rest)).cap

def branchesWidth (group : Nat → Width) : List (List Node) → Option Width
  | [] => none
  | branch :: rest =>
      match branchesWidth group rest with
      | none => some (seqWidth group branch)
      | some others => some ((seqWidth group branch).join others)

end

namespace Node

/-- Equal parts without parts of their own. -/
def sameLeaf : Node → Node → Bool
  | .char a, .char b => a == b
  | .otherThan a, .otherThan b => a == b
  | .any, .any => true
  | .set negated items, .set negated' items' => negated == negated' && items == items'
  | .anchor a, .anchor b => a == b
  | .backref a, .backref b => a == b
  | _, _ => false

def isAnchor : Node → Bool
  | .anchor _ => true
  | _ => false

def isRepetition : Node → Bool
  | .iterate _ _ _ _ => true
  | _ => false

/-- The parts of a group that neither captures nor changes flags. -/
def plainBody? : Node → Option (List Node)
  | .group none added removed body =>
      if added.isNone && removed.isNone then some body else none
  | _ => none

/-- Several branches as one part: what they all begin with comes first, and branches
of single characters are a set. -/
def branchItems? : List Node → Option (List SetItem)
  | [.char code] => some [.char code]
  | [.set false items] => some items
  | _ => none

def commonStart : List Node → List (List Node) → List Node × List (List Node)
  | [], others => ([], [] :: others)
  | node :: rest, others =>
      if others.all fun branch => branch.head?.any node.sameLeaf then
        let (start, branches) := commonStart rest (others.map List.tail)
        (node :: start, branches)
      else ([], (node :: rest) :: others)

def ofBranches : List (List Node) → List Node
  | [] => []
  | [branch] => branch
  | first :: others =>
      let (start, branches) := commonStart first others
      match branches.mapM branchItems? with
      | some items => start ++ [.set false items.flatten.eraseDups]
      | none => start ++ [.choice branches]

end Node

end LuaBinder.Pattern
