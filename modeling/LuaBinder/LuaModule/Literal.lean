import LuaBinder.Declaration.Scalar
import LuaBinder.Number.Reading
import LuaBinder.Text.Quoted

namespace LuaBinder.LuaModule

open Number Text

/-! Lua literals, names and field accesses. -/

def keywords : List String :=
  ["and", "break", "do", "else", "elseif", "end", "false", "for",
    "function", "goto", "if", "in", "local", "nil", "not", "or",
    "repeat", "return", "then", "true", "until", "while"]

def isIdentifierText : List Char → Bool
  | [] => false
  | c :: rest =>
      (c == '_' || isAsciiLetter c) &&
        rest.all fun d => d == '_' || isAsciiAlphanumeric d

def isIdentifier (name : String) : Bool :=
  isIdentifierText name.toList && !keywords.contains name

/-- A name for a local variable: a keyword gets an underscore. -/
def localName (name : String) : String :=
  if keywords.contains name then name ++ "_" else name

/-- Three decimal digits, so that a digit that follows is not taken along. -/
def decimalEscape (code : Nat) : List Char :=
  let digit (n : Nat) := Char.ofNat (48 + n % 10)
  ['\\', digit (code / 100), digit (code / 10), digit code]

def stringChar (c : Char) : List Char :=
  if c == '\\' then ['\\', '\\']
  else if c == '"' then ['\\', '"']
  else if c == '\n' then ['\\', 'n']
  else if c == '\r' then ['\\', 'r']
  else if c == '\t' then ['\\', 't']
  else if c.toNat < 32 || c.toNat == 127 then decimalEscape c.toNat
  else [c]

def stringText (text : List Char) : List Char :=
  '"' :: (text.flatMap stringChar ++ ['"'])

def string (text : String) : String := String.ofList (stringText text.toList)

def field (table key : String) : String :=
  if isIdentifier key then table ++ "." ++ key
  else table ++ "[" ++ string key ++ "]"

def tableKey (key : String) : String :=
  if isIdentifier key then key else "[" ++ string key ++ "]"

/-- Up to this magnitude a Lua number holds every integer. -/
def exactLimit : Int := Nat.pow 2 53

/-- An integer beyond the exact ones is a boxed 64 bit literal. -/
def integer (value : Int) : Except Overlong String :=
  (decimal value).map fun digits =>
    if -exactLimit ≤ value && value ≤ exactLimit then digits
    else if 0 < value then digits ++ "ULL"
    else digits ++ "LL"

def float (value : Binary64) : String :=
  match value with
  | .infinite false => "math.huge"
  | .infinite true => "-math.huge"
  | .nan => "(0/0)"
  | .finite _ _ _ => value.text

/-- Why a number is not written: it is a text that should be one and is none, or it
has too many digits. -/
inductive NumberError where
  | notNumber (text : String)
  | overlong (error : Overlong)
  deriving DecidableEq, Repr

def NumberError.message : NumberError → String
  | .notNumber text => "could not convert string to float: " ++ quoted text
  | .overlong error => error.message

def unlessOverlong (text : Except Overlong α) : Except NumberError α :=
  text.mapError .overlong

def number : Scalar → Except NumberError String
  | .bool value => .ok (if value then "true" else "false")
  | .int value => unlessOverlong (integer value)
  | .float value => .ok (float value)
  | .text text =>
      match ofText? text.toList with
      | some value => .ok (float value)
      | none => .error (.notNumber text)

/-- A constant whose kind is `string` is written as a string, whatever its value. -/
def value (rawType : String) (scalar : Scalar) : Except NumberError String :=
  if rawType == "string" then (unlessOverlong scalar.plain).map string else number scalar

end LuaBinder.LuaModule
