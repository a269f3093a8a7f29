import LuaBinder.Json.Basic

namespace LuaBinder.Json

open Text

/-! JSON values as text, without white space. -/

/-- Quotes, backslashes and control characters are escaped. -/
def escapeChar (c : Char) : List Char :=
  if c == '"' || c == '\\' then ['\\', c]
  else if c.toNat < 32 || c.toNat == 127 then '\\' :: 'u' :: hexDigits 4 c.toNat
  else [c]

def quotedText (text : String) : String :=
  "\"" ++ String.ofList (text.toList.flatMap escapeChar) ++ "\""

mutual

def text : Json → String
  | .null => "null"
  | .bool value => if value then "true" else "false"
  | .int value => toString value
  | .float value => value.text
  | .string value => quotedText value
  | .array items => "[" ++ String.intercalate "," (textItems items) ++ "]"
  | .object fields => "\x7b" ++ String.intercalate "," (textFields fields) ++ "\x7d"

def textItems : List Json → List String
  | [] => []
  | item :: rest => text item :: textItems rest

def textFields : List (String × Json) → List String
  | [] => []
  | (key, value) :: rest => (quotedText key ++ ":" ++ text value) :: textFields rest

end

end LuaBinder.Json
