import LuaBinder.Text.Letter
import LuaBinder.Text.Table.CharacterNames.Aliases
import LuaBinder.Text.Table.CharacterNames.Alphabets
import LuaBinder.Text.Table.CharacterNames.Ancient
import LuaBinder.Text.Table.CharacterNames.Cuneiform
import LuaBinder.Text.Table.CharacterNames.EastAsian
import LuaBinder.Text.Table.CharacterNames.Forms
import LuaBinder.Text.Table.CharacterNames.Hieroglyphs
import LuaBinder.Text.Table.CharacterNames.Ideographs
import LuaBinder.Text.Table.CharacterNames.Notation
import LuaBinder.Text.Table.CharacterNames.Pictographs
import LuaBinder.Text.Table.CharacterNames.Scripts
import LuaBinder.Text.Table.CharacterNames.Symbols

namespace LuaBinder.Text

/-! Characters by their names. Syllables and unified ideographs have names by rule, in
capital letters; all other names are listed, and their letters may be of either case. -/

/-- A listed name: its code point and its words. -/
abbrev NameEntry := Nat × List String

def hexNumber (digits : List Char) : Nat :=
  digits.foldl (fun value c => value * 16 + (hexValue? c).getD 0) 0

def nameEntry (before : NameEntry) (text : String) : NameEntry :=
  let (code, words) :=
    match text.splitOn ":" with
    | [code, words] => (hexNumber code.toList, words)
    | _ => (before.1 + 1, text)
  match words.toList with
  | [] => (code, [])
  | shared :: [] => (code, before.2.take ((hexValue? shared).getD 0))
  | shared :: rest =>
      (code, before.2.take ((hexValue? shared).getD 0) ++ (String.ofList rest).splitOn " ")

def findEntry? (words : List String) : NameEntry → List String → Option Nat
  | _, [] => none
  | before, text :: rest =>
      let entry := nameEntry before text
      if entry.2 == words then some entry.1 else findEntry? words entry rest

def nameTables : List String :=
  [Table.alphabetsNames, Table.aliasNames, Table.symbolsNames, Table.scriptsNames,
    Table.eastAsianNames, Table.formsNames, Table.pictographsNames, Table.notationNames,
    Table.ancientNames, Table.cuneiformNames, Table.hieroglyphsNames, Table.ideographsNames]

def listedCharacter? (name : List Char) : Option Nat :=
  let words := (String.ofList (name.map Char.toUpper)).splitOn " "
  nameTables.findSome? fun table =>
    findEntry? words (0, []) ((table.splitOn "\n").flatMap (·.splitOn ";"))

/-! Syllables: a leading consonant, a vowel and a trailing consonant. -/

def leadingConsonants : List String :=
  ["G", "GG", "N", "D", "DD", "R", "M", "B", "BB", "S", "SS", "", "J", "JJ", "C", "K", "T", "P",
    "H"]

def vowels : List String :=
  ["A", "AE", "YA", "YAE", "EO", "E", "YEO", "YE", "O", "WA", "WAE", "OE", "YO", "U", "WEO", "WE",
    "WI", "YU", "EU", "YI", "I"]

def trailingConsonants : List String :=
  ["", "G", "GG", "GS", "N", "NJ", "NH", "D", "L", "LG", "LM", "LB", "LS", "LT", "LP", "LH", "M",
    "B", "BS", "S", "SS", "NG", "J", "C", "K", "T", "P", "H"]

/-- The text after a prefix. -/
def afterStart? : List Char → List Char → Option (List Char)
  | [], text => some text
  | _, [] => none
  | c :: start, d :: text => if c == d then afterStart? start text else none

/-- The number of the longest sound that the text starts with, and the rest. -/
def takeSound? (sounds : List String) (text : List Char) : Option (Nat × List Char) :=
  sounds.zipIdx.foldl
    (fun best sound =>
      match afterStart? sound.1.toList text with
      | none => best
      | some rest =>
          if best.all fun found => rest.length < found.2.length then some (sound.2, rest)
          else best)
    none

def syllable? (text : List Char) : Option Nat := do
  let (leading, rest) ← takeSound? leadingConsonants text
  let (vowel, rest) ← takeSound? vowels rest
  let (trailing, rest) ← takeSound? trailingConsonants rest
  if rest.isEmpty then
    some (0xAC00 + (leading * vowels.length + vowel) * trailingConsonants.length + trailing)
  else none

def unifiedIdeographs : List (Nat × Nat) :=
  [(0x3400, 0x4DBF), (0x4E00, 0x9FFF), (0x20000, 0x2A6DF), (0x2A700, 0x2B738),
    (0x2B740, 0x2B81D), (0x2B820, 0x2CEA1), (0x2CEB0, 0x2EBE0), (0x30000, 0x3134A)]

/-- Four or five digits in capital letters. -/
def ideograph? (digits : List Char) : Option Nat :=
  let capital (c : Char) : Bool := isAsciiDigit c || ('A' ≤ c && c ≤ 'F')
  let code := hexNumber digits
  if (digits.length == 4 || digits.length == 5) && digits.all capital &&
      unifiedIdeographs.any fun range => range.1 ≤ code && code ≤ range.2 then some code
  else none

def characterNamed? (name : List Char) : Option Nat :=
  match afterStart? "HANGUL SYLLABLE ".toList name with
  | some sounds => syllable? sounds
  | none =>
      match afterStart? "CJK UNIFIED IDEOGRAPH-".toList name with
      | some digits => ideograph? digits
      | none => listedCharacter? name

end LuaBinder.Text
