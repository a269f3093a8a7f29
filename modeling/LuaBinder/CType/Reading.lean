import LuaBinder.CType.Basic
import LuaBinder.Text.Blank
import LuaBinder.Text.Quoted

namespace LuaBinder

open Text

/-! Types as configuration spells them: a primitive type under any number of
pointers, of which the innermost may point to constant values. -/

inductive TypeTextError where
  | unsupported (text : String)
  | plainVoid
  deriving DecidableEq, Repr

def TypeTextError.message : TypeTextError → String
  | .unsupported text => "unsupported variadic argument type " ++ quoted text
  | .plainVoid => "void is not a valid variadic argument type"

/-- The trailing asterisks, blanks around them ignored, and what precedes them.
The text is given from its end. -/
def takeStars : List Char → Nat × List Char
  | [] => (0, [])
  | c :: rest =>
      if isBlank c then takeStars rest
      else if c == '*' then ((takeStars rest).1 + 1, (takeStars rest).2)
      else (0, c :: rest)

def pointers (type : CType) (const : Bool) : Nat → CType
  | 0 => type
  | 1 => .pointer type const
  | depth + 2 => .pointer (pointers type const (depth + 1)) false

def CType.ofText (text : String) : Except TypeTextError CType :=
  let (depth, reversed) := takeStars text.toList.reverse
  let spelled := words reversed.reverse
  let const := ['c', 'o', 'n', 's', 't']
  let named := spelled.filter (· != const)
  let name := String.intercalate " " (named.map String.ofList)
  match Primitive.ofSpelling? name with
  | none => .error (.unsupported text)
  | some named =>
      if named == .void && depth == 0 then .error .plainVoid
      else .ok (pointers (.primitive named) (spelled.contains const) depth)

end LuaBinder
