import LuaBinder.Text.Blank
import LuaBinder.Text.Lines

namespace LuaBinder.Header

open Text

/-! Documentation comments without their markers. -/

namespace Comment

def dropOne (mark : Char) : List Char → List Char
  | c :: rest => if c == mark then rest else c :: rest
  | [] => []

/-- What follows the marker that a line starts with, if it starts with one. -/
def afterMarker? : List Char → Option (List Char)
  | '/' :: '*' :: rest => some (dropOne '!' (dropOne '*' rest))
  | '*' :: '/' :: rest => some rest
  | '*' :: rest => some rest
  | '/' :: '/' :: rest => some (dropOne '<' (dropOne '!' (dropOne '/' rest)))
  | _ => none

def dropBlank : List Char → List Char
  | c :: rest => if isBlank c then rest else c :: rest
  | [] => []

/-- A marker goes with the blanks before it and with one blank after it; a line
without a marker stays. -/
def dropMarker (line : List Char) : List Char :=
  match afterMarker? (trimStart line) with
  | some rest => dropBlank rest
  | none => line

def dropClosing (line : List Char) : List Char :=
  match line.reverse with
  | '/' :: '*' :: rest => trimEnd rest.reverse
  | _ => line

def bareLine (line : List Char) : List Char :=
  trimEnd (dropMarker (dropClosing (trimEnd line)))

def dropEmptyEnds (lines : List (List Char)) : List (List Char) :=
  ((lines.dropWhile List.isEmpty).reverse.dropWhile List.isEmpty).reverse

/-- The text of a raw comment. -/
def text (raw : String) : String :=
  String.intercalate "\n" <|
    (dropEmptyEnds ((lines raw.toList).map bareLine)).map String.ofList

end Comment

end LuaBinder.Header
