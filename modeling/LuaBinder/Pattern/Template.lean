import LuaBinder.Pattern.Match
import LuaBinder.Pattern.Parser

namespace LuaBinder.Pattern

open Text Number

/-! Replacements: text in which groups of a match are referred to. -/

inductive Piece where
  | text (text : List Char)
  | group (group : Nat)
  deriving DecidableEq, Repr

inductive TemplateError where
  | fault (fault : Fault)
  | unknownName (name : String)
  deriving DecidableEq, Repr

def TemplateError.message : TemplateError → String
  | .fault found => found.message
  | .unknownName name => (Cause.unknownGroup name).message

namespace Template

/-- A group name that is not defined stops the reading at once. -/
inductive Halt where
  | pattern (halt : Reader.Halt)
  | unknownName (name : String)

open Reader in
/-- The group that a number refers to; `place` is the distance back to its text. -/
def groupPiece (groups index place : Nat) : Reading Piece := do
  if groups < index then failAt place (.noSuchGroup index)
  return .group index

open Reader in
/-- A number between angle brackets. -/
def numberedGroup (groups : Nat) (name : List Char) : Reading Piece := do
  let place := name.length + 1
  match integer? name with
  | none => failAt place (.badGroupName (String.ofList name))
  | some number =>
      if number < 0 then failAt place (.badGroupName (String.ofList name))
      let index := number.toNat
      if groupLimit ≤ index then failAt place (.noSuchGroup index)
      groupPiece groups index place

open Reader in
/-- Either three octal digits, or a group of one or two digits. -/
def numberPiece (groups : Nat) (c : Char) : Reading Piece := do
  let group (digits : List Char) := groupPiece groups (valueIn 10 digits) digits.length
  match ← takeWhile isAsciiDigit 1 with
  | [d] =>
      if isOctal c && isOctal d then
        match ← takeWhile isOctal 1 with
        | [e] => return .text [Char.ofNat (← octalValue ['\\', c, d, e] [c, d, e])]
        | _ => group [c, d]
      else group [c, d]
  | _ => group [c]

open Reader in
/-- The text between the angle brackets of a group reference. -/
def bracketed : Reading (List Char) := do
  if !(← skipOver '<') then failAt 0 .missingAngle
  takeName '>' .group

open Reader in
/-- An escaped symbol other than a named group. A letter must have a meaning; any
other character keeps its backslash. -/
def escapePiece (groups : Nat) (c : Char) : Reading Piece := do
  if c == '0' then
    let digits := c :: (← takeWhile isOctal 2)
    return .text [Char.ofNat (valueIn 8 digits % 256)]
  else if isAsciiDigit c then numberPiece groups c
  else
    match simpleEscape? c with
    | some code => return .text [Char.ofNat code]
    | none =>
        if isAsciiLetter c then failAt 2 (.badEscape (String.ofList ['\\', c]))
        return .text ['\\', c]

open Reader in
def pieces (pattern : Compiled) :
    Nat → List Piece → ReaderT Nat (StateT Progress (Except Halt)) (List Piece)
  | 0, done => return done
  | fuel + 1, done => do
      let lifted {α : Type} (step : Reading α) :
          ReaderT Nat (StateT Progress (Except Halt)) α :=
        fun length p => (step length p).mapError Halt.pattern
      match ← lifted take with
      | none => return done
      | some ['\\', 'g'] =>
          let name ← lifted bracketed
          if isName name then
            let text := String.ofList name
            match pattern.names.find? (·.1 == text) with
            | none => throw (.unknownName text)
            | some (_, group) => pieces pattern fuel (done ++ [.group group])
          else
            let piece ← lifted (numberedGroup pattern.groups name)
            pieces pattern fuel (done ++ [piece])
      | some ['\\', c] =>
          let piece ← lifted (escapePiece pattern.groups c)
          pieces pattern fuel (done ++ [piece])
      | some symbol => pieces pattern fuel (done ++ [.text symbol])

open Reader in
/-- A replacement without a backslash is plain text. -/
def parse (pattern : Compiled) (source : String) : Except TemplateError (List Piece) :=
  let text := source.toList
  if text == ['\\'] then .error (.fault ⟨.escapeAtEnd, some 0, source⟩)
  else
    match (pieces pattern (text.length + 1) []).run text.length |>.run { rest := text } with
    | .ok (found, _) => .ok found
    | .error (.unknownName name) => .error (.unknownName name)
    | .error (.pattern (.stop reason)) =>
        .error (.fault ⟨reason.cause, reason.position, source⟩)
    | .error (.pattern _) => .ok []

/-- A group that captured nothing stands for the empty text. -/
def expand (found : Match) (template : List Piece) : List Char :=
  template.flatMap fun
    | .text text => text
    | .group group => (found.group? group).getD []

end Template

def Piece.isGroup : Piece → Bool
  | .group _ => true
  | .text _ => false

/-- The text with the first match of the pattern replaced. Only a replacement that
refers to groups needs a match that can be told. -/
def Compiled.replaceFirst (pattern : Compiled) (template : List Piece) (text : String) :
    Except MatchFault String :=
  match pattern.search? text with
  | none => .ok text
  | some found => do
      if template.any Piece.isGroup then
        let _ ← found.check
      return String.ofList (found.before ++ Template.expand found template ++ found.after)

end LuaBinder.Pattern
