import LuaBinder.Policy.Fault

namespace LuaBinder

open Pattern

/-! Which declarations of one kind are bound, and under which names. Patterns match
whole names. -/

/-- Replaces a name that the pattern matches. The replacement is read when it is
used. -/
structure RenameRule where
  pattern : Compiled
  replacement : Json
  deriving Repr

structure MemberRules where
  owner : Compiled
  rules : List RenameRule
  deriving Repr

/-- Without an inclusion list everything is included; exclusion wins over inclusion. -/
structure Selection where
  included : Option (List Compiled) := none
  excluded : List Compiled := []
  renames : List RenameRule := []
  memberRenames : List MemberRules := []
  addresses : List Compiled := []
  deriving Repr

/-- Whether a pattern matches the whole name. -/
def SelectionError.matched (pattern : Compiled) (name : String) : Except SelectionError Bool :=
  (pattern.matchesAll name).mapError .match

open SelectionError (matched)

namespace RenameRule

def apply (rule : RenameRule) (name : String) : Except SelectionError String :=
  match rule.replacement with
  | .string source =>
      match Template.parse rule.pattern source with
      | .ok template => (rule.pattern.replaceFirst template name).mapError .match
      | .error error => .error (.template error)
  | other => .error (.notText other)

/-- The first rule whose pattern matches the whole name. -/
def firstFor? (name : String) (rules : List RenameRule) :
    Except SelectionError (Option RenameRule) :=
  rules.findM? fun rule => matched rule.pattern name

end RenameRule

namespace Selection

def none : Selection := { included := some [] }

/-- A pattern also stands for the declaration whose USR is its text. -/
def covers (patterns : List Compiled) (usr name : String) : Except SelectionError Bool :=
  patterns.anyM fun pattern =>
    if pattern.source == usr then .ok true else matched pattern name

def includes (selection : Selection) (usr name : String) : Except SelectionError Bool := do
  if ← covers selection.excluded usr name then return false
  match selection.included with
  | .none => return true
  | some patterns => covers patterns usr name

def includesName (selection : Selection) (name : String) : Except SelectionError Bool :=
  selection.includes "" name

def exposesAddress (selection : Selection) (name : String) : Except SelectionError Bool :=
  selection.addresses.anyM (matched · name)

def rename (selection : Selection) (name : String) : Except SelectionError String := do
  match ← RenameRule.firstFor? name selection.renames with
  | some rule => rule.apply name
  | .none => return name

/-- The rule for a member: of all owners that match, the first rule that matches. -/
def memberRule? (owner member : String) :
    List MemberRules → Except SelectionError (Option RenameRule)
  | [] => .ok .none
  | entry :: rest => do
      if ← matched entry.owner owner then
        match ← RenameRule.firstFor? member entry.rules with
        | some rule => return some rule
        | .none => memberRule? owner member rest
      else memberRule? owner member rest

def renameMember (selection : Selection) (owner member : String) :
    Except SelectionError String := do
  match ← memberRule? owner member selection.memberRenames with
  | some rule => rule.apply member
  | .none => return member

end Selection

/-! Building a selection from patterns in text form. -/

/-- A selection as it is written down. -/
structure SelectionText where
  included : Option (List String) := none
  excluded : List String := []
  renames : List (String × Json) := []
  memberRenames : List (String × List (String × Json)) := []
  addresses : List String := []

namespace SelectionText

def readPattern (place source : String) : Except Policy.Error Compiled :=
  match Pattern.parse source with
  | .ok pattern => .ok pattern
  | .error (.fault fault) => .error (.fault (.badPattern place fault))
  | .error error => .error (.pattern error)

def readRules (place : String) (rules : List (String × Json)) :
    Except Policy.Error (List RenameRule) :=
  rules.mapM fun rule => do
    return ⟨← readPattern place rule.1, rule.2⟩

def readMemberRules (entry : String × List (String × Json)) :
    Except Policy.Error MemberRules := do
  let owner ← readPattern "member-rename" entry.1
  return ⟨owner, ← readRules "member-rename" entry.2⟩

def read (text : SelectionText) : Except Policy.Error Selection := do
  let included ← text.included.mapM fun patterns => patterns.mapM (readPattern "include")
  let excluded ← text.excluded.mapM (readPattern "exclude")
  let renames ← readRules "rename" text.renames
  let memberRenames ← text.memberRenames.mapM readMemberRules
  let addresses ← text.addresses.mapM (readPattern "symbol-address")
  return { included, excluded, renames, memberRenames, addresses }

end SelectionText

end LuaBinder
