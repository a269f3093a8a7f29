import LuaBinder.Number.Limit
import LuaBinder.Pattern.Basic
import LuaBinder.Text.Quoted

namespace LuaBinder.Pattern

open Text

/-! What can be wrong with a pattern or a replacement, and how it is told. -/

/-- A name between delimiters is missing its text or its end. -/
inductive Named where
  | group
  | character
  deriving DecidableEq, Repr

def Named.text : Named → String
  | .group => "group name"
  | .character => "character name"

inductive Cause where
  | escapeAtEnd
  | badEscape (escape : String)
  | incompleteEscape (escape : String)
  | octalTooLarge (escape : String)
  | unknownCharacter (name : String)
  | missingBrace
  | missingName (named : Named)
  | unterminatedName (close : Char) (named : Named)
  | badGroupName (name : String)
  | unknownGroup (name : String)
  | badGroupNumber
  | noSuchGroup (group : Nat)
  | openGroup
  | groupInLookBehind
  | repeatedGroup (name : String) (group earlier : Nat)
  | unterminatedSet
  | badRange (low high : String)
  | nothingToRepeat
  | multipleRepeat
  | repeatBounds
  | unterminatedGroup
  | unterminatedComment
  | unbalanced
  | unexpectedEnd
  | unknownExtension (text : String)
  | tooManyBranches
  | lateFlags
  | localeFlag
  | exclusiveFlags
  | unknownFlag
  | expected (what : String)
  | globalFlagOn
  | globalFlagOff
  | kindFlagOff
  | flagOnAndOff
  | variableLookBehind
  | noRepeatAllowed (greed : Greed)
  | missingAngle
  deriving DecidableEq, Repr

def Greed.operator : Greed → String
  | .greedy => "MAX_REPEAT"
  | .lazy => "MIN_REPEAT"
  | .possessive => "POSSESSIVE_REPEAT"

def Cause.message : Cause → String
  | .escapeAtEnd => "bad escape (end of pattern)"
  | .badEscape escape => "bad escape " ++ escape
  | .incompleteEscape escape => "incomplete escape " ++ escape
  | .octalTooLarge escape =>
      "octal escape value " ++ escape ++ " outside of range 0-0o377"
  | .unknownCharacter name => "undefined character name " ++ quoted name
  | .missingBrace => "missing \x7b"
  | .missingName named => "missing " ++ named.text
  | .unterminatedName close _ => "missing " ++ close.toString ++ ", unterminated name"
  | .badGroupName name => "bad character in group name " ++ quoted name
  | .unknownGroup name => "unknown group name " ++ quoted name
  | .badGroupNumber => "bad group number"
  | .noSuchGroup group => "invalid group reference " ++ toString group
  | .openGroup => "cannot refer to an open group"
  | .groupInLookBehind =>
      "cannot refer to group defined in the same lookbehind subpattern"
  | .repeatedGroup name group earlier =>
      "redefinition of group name " ++ quoted name ++ " as group " ++ toString group ++
        "; was group " ++ toString earlier
  | .unterminatedSet => "unterminated character set"
  | .badRange low high => "bad character range " ++ low ++ "-" ++ high
  | .nothingToRepeat => "nothing to repeat"
  | .multipleRepeat => "multiple repeat"
  | .repeatBounds => "min repeat greater than max repeat"
  | .unterminatedGroup => "missing ), unterminated subpattern"
  | .unterminatedComment => "missing ), unterminated comment"
  | .unbalanced => "unbalanced parenthesis"
  | .unexpectedEnd => "unexpected end of pattern"
  | .unknownExtension text => "unknown extension ?" ++ text
  | .tooManyBranches => "conditional backref with more than two branches"
  | .lateFlags => "global flags not at the start of the expression"
  | .localeFlag => "bad inline flags: cannot use 'L' flag with a str pattern"
  | .exclusiveFlags => "bad inline flags: flags 'a', 'u' and 'L' are incompatible"
  | .unknownFlag => "unknown flag"
  | .expected what => "missing " ++ what
  | .globalFlagOn => "bad inline flags: cannot turn on global flag"
  | .globalFlagOff => "bad inline flags: cannot turn off global flag"
  | .kindFlagOff => "bad inline flags: cannot turn off flags 'a', 'u' and 'L'"
  | .flagOnAndOff => "bad inline flags: flag turned on and off"
  | .variableLookBehind => "look-behind requires fixed-width pattern"
  | .noRepeatAllowed greed =>
      "internal: unsupported template operator " ++ greed.operator
  | .missingAngle => "missing <"

/-- A fault of the text `source`; some faults have no place in it. -/
structure Fault where
  cause : Cause
  position : Option Nat
  source : String
  deriving DecidableEq, Repr

def lineOf (before : List Char) : Nat := before.count '\n' + 1

def columnOf (before : List Char) : Nat :=
  (before.reverse.takeWhile (· != '\n')).length + 1

/-- Line and column are told only of a text with more than one line. -/
def Fault.message (fault : Fault) : String :=
  match fault.position with
  | none => fault.cause.message
  | some position =>
      let text := fault.source.toList
      let place := fault.cause.message ++ " at position " ++ toString position
      if text.contains '\n' then
        let before := text.take position
        place ++ " (line " ++ toString (lineOf before) ++
          ", column " ++ toString (columnOf before) ++ ")"
      else place

/-- Why a pattern cannot be used. Only the first reason is a fault of its text; the
others are numbers out of bounds, flags that exclude each other, and a look-behind that
is too wide to be matched. -/
inductive PatternError where
  | fault (fault : Fault)
  | repeatTooLarge
  | repeatTooLong (digits : Nat)
  | mixedFlags
  | wideLookBehind
  deriving DecidableEq, Repr

def PatternError.message : PatternError → String
  | .fault found => found.message
  | .repeatTooLarge => "the repetition number is too large"
  | .repeatTooLong digits => Number.Overlong.message (.read digits)
  | .mixedFlags => "ASCII and UNICODE flags are incompatible"
  | .wideLookBehind => "invalid SRE code"

end LuaBinder.Pattern
