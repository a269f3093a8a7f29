import LuaBinder.Json.Basic
import LuaBinder.Number.Limit
import LuaBinder.Number.Reading
import LuaBinder.Text.Surrogate

namespace LuaBinder.Json

open Number Text

/-! Reading JSON text. A fault names its cause and the place where reading stopped. -/

inductive Cause where
  | valueExpected
  | nameExpected
  | colonExpected
  | commaExpected
  | unterminatedText
  | controlCharacter
  | badEscape
  | badCodePoint
  | extraData
  | byteOrderMark
  deriving DecidableEq, Repr

/-- What is left of the text where the fault lies. -/
structure Fault where
  cause : Cause
  rest : List Char
  deriving Repr

/-- Values that hold others. -/
inductive Container where
  | array
  | object
  deriving DecidableEq, Repr

def Container.name : Container → String
  | .array => "array"
  | .object => "object"

inductive ReadError where
  | malformed (cause : Cause) (position : Nat) (line : Nat) (column : Nat)
  | tooManyDigits (count : Nat)
  | tooDeep (container : Container)
  deriving DecidableEq, Repr

def Cause.message : Cause → String
  | .valueExpected => "Expecting value"
  | .nameExpected => "Expecting property name enclosed in double quotes"
  | .colonExpected => "Expecting ':' delimiter"
  | .commaExpected => "Expecting ',' delimiter"
  | .unterminatedText => "Unterminated string starting at"
  | .controlCharacter => "Invalid control character at"
  | .badEscape => "Invalid \\escape"
  | .badCodePoint => "Invalid \\uXXXX escape"
  | .extraData => "Extra data"
  | .byteOrderMark => "Unexpected UTF-8 BOM (decode using utf-8-sig)"

def ReadError.message : ReadError → String
  | .malformed cause position line column =>
      cause.message ++ ": line " ++ toString line ++ " column " ++ toString column ++
        " (char " ++ toString position ++ ")"
  | .tooManyDigits count => Overlong.message (.read count)
  | .tooDeep container =>
      "maximum recursion depth exceeded while decoding a JSON " ++ container.name ++
        " from a unicode string"

/-- An integer with too many digits stops the reading at once, whatever follows, and so
does a container within too many others. -/
inductive Stop where
  | fault (fault : Fault)
  | tooManyDigits (count : Nat)
  | tooDeep (container : Container)

def stopAt (cause : Cause) (rest : List Char) : Except Stop (α × List Char) :=
  .error (.fault ⟨cause, rest⟩)

def isSpace (c : Char) : Bool := c == ' ' || c == '\t' || c == '\n' || c == '\r'

def skipSpace (text : List Char) : List Char := text.dropWhile isSpace

def escaped? : Char → Option Char
  | '\x22' => some '\x22'
  | '\\' => some '\\'
  | '/' => some '/'
  | 'b' => some '\x08'
  | 'f' => some '\x0c'
  | 'n' => some '\n'
  | 'r' => some '\r'
  | 't' => some '\t'
  | _ => none

def hexFour? (a b c d : Char) : Option Nat := do
  some (ofDigits 16 [← hexValue? a, ← hexValue? b, ← hexValue? c, ← hexValue? d])

/-- The rest of a text after its opening quote; `opening` starts at that quote, `done`
is what was read, last character first. -/
def readText (opening : List Char) (done : List Char) : List Char → Except Stop (String × List Char)
  | [] => stopAt .unterminatedText opening
  | '\x22' :: rest => .ok (String.ofList done.reverse, rest)
  | ['\\'] => stopAt .unterminatedText opening
  | '\\' :: 'u' :: a :: b :: c :: d :: next :: rest =>
      match hexFour? a b c d with
      | none => stopAt .badCodePoint ('u' :: a :: b :: c :: d :: next :: rest)
      | some unit =>
          match next, rest with
          | '\\', 'u' :: e :: f :: g :: h :: last :: after =>
              if isHighSurrogate unit then
                match hexFour? e f g h with
                | none => stopAt .badCodePoint ('u' :: e :: f :: g :: h :: last :: after)
                | some second =>
                    if isLowSurrogate second then
                      readText opening (joinSurrogates unit second :: done) (last :: after)
                    else
                      readText opening (unitChar unit :: done)
                        ('\\' :: 'u' :: e :: f :: g :: h :: last :: after)
              else
                readText opening (unitChar unit :: done)
                  ('\\' :: 'u' :: e :: f :: g :: h :: last :: after)
          | next, rest => readText opening (unitChar unit :: done) (next :: rest)
  | '\\' :: 'u' :: rest => stopAt .badCodePoint ('u' :: rest)
  | '\\' :: c :: rest =>
      match escaped? c with
      | some char => readText opening (char :: done) rest
      | none => stopAt .badEscape ('\\' :: c :: rest)
  | c :: rest =>
      if c.toNat < 32 then stopAt .controlCharacter (c :: rest)
      else readText opening (c :: done) rest
  termination_by text => text.length

def takeAsciiDigits (text : List Char) : List Char × List Char :=
  (text.takeWhile isAsciiDigit, text.dropWhile isAsciiDigit)

/-- A fraction needs a digit after its point. -/
def takeFraction : List Char → List Char × List Char
  | '.' :: d :: rest =>
      if isAsciiDigit d then ('.' :: (takeAsciiDigits (d :: rest)).1, (takeAsciiDigits (d :: rest)).2)
      else ([], '.' :: d :: rest)
  | text => ([], text)

/-- An exponent needs a digit after its mark and sign. -/
def takePower (text : List Char) : List Char × List Char :=
  match text with
  | mark :: rest =>
      if mark == 'e' || mark == 'E' then
        let (sign, unsigned) :=
          match rest with
          | c :: after => if isSign c then ([c], after) else ([], rest)
          | [] => ([], [])
        let (digits, after) := takeAsciiDigits unsigned
        if digits.isEmpty then ([], text) else (mark :: (sign ++ digits), after)
      else ([], text)
  | [] => ([], [])

/-- A first digit zero stands alone. -/
def takeWhole : List Char → List Char × List Char
  | '0' :: rest => (['0'], rest)
  | text => takeAsciiDigits text

def asciiDigitValues (digits : List Char) : List Nat := digits.map fun c => c.toNat - 48

def readNumber (start : List Char) : Except Stop (Json × List Char) :=
  let (negative, unsigned) :=
    match start with
    | '-' :: rest => (true, rest)
    | text => (false, text)
  let (whole, afterWhole) := takeWhole unsigned
  if whole.isEmpty then stopAt .valueExpected start
  else
    let (fraction, afterFraction) := takeFraction afterWhole
    let (power, rest) := takePower afterFraction
    if fraction.isEmpty && power.isEmpty then
      if digitLimit < whole.length then .error (.tooManyDigits whole.length)
      else
        let value : Int := ofDigits 10 (asciiDigitValues whole)
        .ok (.int (if negative then -value else value), rest)
    else
      match takeDecimalNumber? negative (whole ++ fraction ++ power) with
      | some (value, _) => .ok (.float value, rest)
      | none => stopAt .valueExpected start

def stripLead? (lead text : List Char) : Option (List Char) :=
  if lead.isPrefixOf text then some (text.drop lead.length) else none

def constants : List (List Char × Json) :=
  [("null".toList, .null), ("true".toList, .bool true), ("false".toList, .bool false),
    ("NaN".toList, .float .nan), ("Infinity".toList, .float (.infinite false)),
    ("-Infinity".toList, .float (.infinite true))]

def readConstant? (text : List Char) : Option (Json × List Char) :=
  constants.findSome? fun constant =>
    (stripLead? constant.1 text).map fun rest => (constant.2, rest)

/-- The items of an array from the first one on; `item` reads one of them. -/
def readItems (item : List Char → Except Stop (Json × List Char)) :
    Nat → List Json → List Char → Except Stop (Json × List Char)
  | 0, _, text => stopAt .valueExpected text
  | fuel + 1, done, text => do
      let (value, rest) ← item text
      match skipSpace rest with
      | ']' :: after => .ok (.array (value :: done).reverse, after)
      | ',' :: after => readItems item fuel (value :: done) (skipSpace after)
      | other => stopAt .commaExpected other

/-- The fields of an object from the first key on. -/
def readFields (item : List Char → Except Stop (Json × List Char)) :
    Nat → List (String × Json) → List Char → Except Stop (Json × List Char)
  | 0, _, text => stopAt .nameExpected text
  | fuel + 1, done, text =>
      match text with
      | '\x22' :: inner => do
          let (key, afterKey) ← readText text [] inner
          match skipSpace afterKey with
          | ':' :: afterColon =>
              let (value, rest) ← item (skipSpace afterColon)
              let fields := setField key value done
              match skipSpace rest with
              | '\x7d' :: after => .ok (.object fields, after)
              | ',' :: after => readFields item fuel fields (skipSpace after)
              | other => stopAt .commaExpected other
          | other => stopAt .colonExpected other
      | other => stopAt .nameExpected other

def readObject (item : List Char → Except Stop (Json × List Char)) (inside : List Char) :
    Except Stop (Json × List Char) :=
  match skipSpace inside with
  | '\x7d' :: after => .ok (.object [], after)
  | first => readFields item (first.length + 1) [] first

def readArray (item : List Char → Except Stop (Json × List Char)) (inside : List Char) :
    Except Stop (Json × List Char) :=
  match skipSpace inside with
  | ']' :: after => .ok (.array [], after)
  | first => readItems item (first.length + 1) [] first

/-- A value that holds no others. -/
def readSimple (text : List Char) : Except Stop (Json × List Char) :=
  match text with
  | '\x22' :: rest => (readText text [] rest).map fun read => (.string read.1, read.2)
  | _ =>
      match readConstant? text with
      | some read => .ok read
      | none => readNumber text

/-- The most containers around a value. -/
def depthLimit : Nat := 990

/-- One value within which there may be so many levels of containers. -/
def readValue : Nat → List Char → Except Stop (Json × List Char)
  | 0, '\x7b' :: _ => .error (.tooDeep .object)
  | 0, '[' :: _ => .error (.tooDeep .array)
  | levels + 1, '\x7b' :: rest => readObject (readValue levels) rest
  | levels + 1, '[' :: rest => readArray (readValue levels) rest
  | _, text => readSimple text

/-- A whole text: one value with blanks around it. -/
def readDocument (text : List Char) : Except Stop Json :=
  match text with
  | first :: rest =>
      if first.toNat == 0xFEFF then .error (.fault ⟨.byteOrderMark, first :: rest⟩)
      else document text
  | [] => document text
where
  document (text : List Char) : Except Stop Json := do
    let (value, rest) ← readValue depthLimit (skipSpace text)
    match skipSpace rest with
    | [] => .ok value
    | other => .error (.fault ⟨.extraData, other⟩)

/-- Characters since the last line feed before the fault, counted from one. -/
def columnOf (before : List Char) : Nat :=
  (before.reverse.takeWhile (· != '\n')).length + 1

def Fault.locate (text : List Char) (fault : Fault) : ReadError :=
  let position := text.length - fault.rest.length
  let before := text.take position
  .malformed fault.cause position (before.count '\n' + 1) (columnOf before)

def parse (text : String) : Except ReadError Json :=
  match readDocument text.toList with
  | .ok value => .ok value
  | .error (.fault fault) => .error (fault.locate text.toList)
  | .error (.tooManyDigits count) => .error (.tooManyDigits count)
  | .error (.tooDeep container) => .error (.tooDeep container)

end LuaBinder.Json
