import LuaBinder.Text.Blank
import LuaBinder.Text.Letter

namespace LuaBinder.Grammar

open Text

/-! Declarations as C reads them: specifiers, and a declarator that is read from the
inside out. -/

inductive Token where
  | word (text : String)
  | mark (c : Char)
  deriving DecidableEq, Repr

/-- Letters, digits and the underscore; beyond ASCII all that is not blank. -/
def isWordChar (c : Char) : Bool :=
  isAsciiAlphanumeric c || c == '_' || (128 ≤ c.toNat && !isBlank c)

def flush (word : List Char) : List Token :=
  if word.isEmpty then [] else [.word (String.ofList word)]

def separator (c : Char) : List Token := if isBlank c then [] else [.mark c]

/-- Splits a text into words and single marks; `word` is the word read so far. -/
def lexFrom (word : List Char) : List Char → List Token
  | [] => flush word
  | c :: rest =>
      if isWordChar c then lexFrom (word ++ [c]) rest
      else flush word ++ separator c ++ lexFrom [] rest

def lex (text : List Char) : List Token := lexFrom [] text

/-- Type specifiers that are keywords; several of them make one type. -/
def basicWords : List String :=
  ["void", "char", "short", "int", "long", "float", "double", "signed", "unsigned", "_Bool"]

def tagWords : List String := ["struct", "union", "enum"]

def otherKeywords : List String :=
  ["auto", "break", "case", "continue", "default", "do", "else", "extern", "for", "goto", "if",
    "inline", "register", "restrict", "return", "sizeof", "static", "switch", "typedef",
    "volatile", "while", "_Alignas", "_Alignof", "_Atomic", "_Complex", "_Generic",
    "_Imaginary", "_Noreturn", "_Static_assert", "_Thread_local"]

def keywords : List String := "const" :: basicWords ++ tagWords ++ otherKeywords

def isIdentifierText : List Char → Bool
  | [] => false
  | c :: rest => !isAsciiDigit c && (c :: rest).all isWordChar

def isIdentifier (name : String) : Bool :=
  isIdentifierText name.toList && !keywords.contains name

/-- What the specifiers of a declaration name. -/
inductive Base where
  | basic (words : List String)
  | tagged (keyword tag : String)
  | named (name : String)
  deriving DecidableEq, Repr

/-- A type as it is read, from the outermost layer to the base. -/
inductive Shape where
  | base (const : Bool) (base : Base)
  | pointer (const : Bool) (target : Shape)
  | array (length : Option Int) (element : Shape)
  | function (params : List Shape) (variadic : Bool) (result : Shape)

/-- What a declarator says of the name in it, one step outward. -/
inductive Layer where
  | pointer (const : Bool)
  | array (length : Option Int)
  | function (params : List Shape) (variadic : Bool)

def Layer.wrap : Layer → Shape → Shape
  | .pointer const, shape => .pointer const shape
  | .array length, shape => .array length shape
  | .function params variadic, shape => .function params variadic shape

def Shape.ofLayers (layers : List Layer) (base : Shape) : Shape := layers.foldr Layer.wrap base

/-- The specifiers in front of a declarator. An identifier among them is the name of a
type, and the only one: a further one is declared. -/
def specifiers (types : String → Bool) :
    Option Base → List Token → Bool × Option Base × List Token
  | seen, .word text :: rest =>
      if text == "const" then
        let (_, base, rest) := specifiers types seen rest
        (true, base, rest)
      else if basicWords.contains text then
        match seen with
        | none => specifiers types (some (.basic [text])) rest
        | some (.basic words) => specifiers types (some (.basic (words ++ [text]))) rest
        | some base => (false, some base, .word text :: rest)
      else if tagWords.contains text then
        match seen, rest with
        | none, .word tag :: rest =>
            if isIdentifier tag then specifiers types (some (.tagged text tag)) rest
            else (false, none, .word text :: .word tag :: rest)
        | seen, rest => (false, seen, .word text :: rest)
      else if seen.isNone && types text then specifiers types (some (.named text)) rest
      else (false, seen, .word text :: rest)
  | seen, tokens => (false, seen, tokens)

/-- The qualifiers behind an asterisk. -/
def qualifiers : List Token → Bool × List Token
  | .word text :: rest =>
      if text == "const" then (true, (qualifiers rest).2) else (false, .word text :: rest)
  | tokens => (false, tokens)

/-- A decimal constant; a leading zero would make it octal. -/
def decimal? (text : List Char) : Option Nat :=
  if text.isEmpty || !text.all Char.isDigit || (text.head? == some '0' && text != ['0']) then none
  else some (Nat.ofDigitChars 10 text 0)

/-- What stands between brackets, and the bracket that closes them. -/
def arrayLength : List Token → Option (Option Int × List Token)
  | .mark ']' :: rest => some (none, rest)
  | .word text :: .mark ']' :: rest =>
      (decimal? text.toList).map fun n => (some (n : Int), rest)
  | .mark '-' :: .word text :: .mark ']' :: rest =>
      (decimal? text.toList).map fun n => (some (-(n : Int)), rest)
  | _ => none

def startsType (types : String → Bool) (text : String) : Bool :=
  text == "const" || basicWords.contains text || tagWords.contains text || types text

/-- Whether a parenthesis before any name holds a declarator. The name of a type starts a
parameter there. -/
def opensDeclarator (types : String → Bool) : List Token → Bool
  | .word text :: _ => !startsType types text
  | .mark c :: _ => c == '*' || c == '(' || c == '['
  | [] => false

def noParameters? : List Token → Option (List Token)
  | .mark ')' :: rest => some rest
  | .word "void" :: .mark ')' :: rest => some rest
  | _ => none

def ellipsis? : List Token → Option (List Token)
  | .mark '.' :: .mark '.' :: .mark '.' :: .mark ')' :: rest => some rest
  | _ => none

mutual

/-- A declarator: the name, if there is one, what is said of it, and the rest. -/
def declarator (types : String → Bool) :
    Nat → List Token → Option (Option String × List Layer × List Token)
  | 0, _ => none
  | _ + 1, [] => some (none, [], [])
  | fuel + 1, .word text :: rest =>
      if isIdentifier text then suffixes types fuel (some text) [] rest else none
  | fuel + 1, .mark c :: rest =>
      if c == '*' then do
        let (name, layers, after) ← declarator types fuel (qualifiers rest).2
        return (name, layers ++ [.pointer (qualifiers rest).1], after)
      else if c == '(' && opensDeclarator types rest then do
        let (name, layers, after) ← declarator types fuel rest
        if after.head? = some (.mark ')') then suffixes types fuel name layers after.tail
        else none
      else suffixes types fuel none [] (.mark c :: rest)

/-- The lengths and parameters behind a name or a parenthesis. -/
def suffixes (types : String → Bool) : Nat → Option String → List Layer → List Token →
    Option (Option String × List Layer × List Token)
  | 0, _, _, _ => none
  | _ + 1, name, layers, [] => some (name, layers, [])
  | _ + 1, name, layers, .word text :: rest => some (name, layers, .word text :: rest)
  | fuel + 1, name, layers, .mark c :: rest =>
      if c == '[' then do
        let (length, after) ← arrayLength rest
        suffixes types fuel name (layers ++ [.array length]) after
      else if c == '(' then do
        let (params, variadic, after) ← parameters types fuel rest
        suffixes types fuel name (layers ++ [.function params variadic]) after
      else some (name, layers, .mark c :: rest)

/-- What stands between the parentheses of a function. -/
def parameters (types : String → Bool) :
    Nat → List Token → Option (List Shape × Bool × List Token)
  | 0, _ => none
  | fuel + 1, tokens =>
      match noParameters? tokens with
      | some rest => some ([], false, rest)
      | none => parameterList types fuel tokens

/-- Parameters up to the parenthesis, the last of which may be an ellipsis. -/
def parameterList (types : String → Bool) :
    Nat → List Token → Option (List Shape × Bool × List Token)
  | 0, _ => none
  | fuel + 1, tokens =>
      match ellipsis? tokens with
      | some rest => some ([], true, rest)
      | none => do
          let (const, base, rest) := specifiers types none tokens
          let (_, layers, after) ← declarator types fuel rest
          let shape := Shape.ofLayers layers (.base const (← base))
          if after.head? = some (.mark ',') then do
            let (params, variadic, after) ← parameterList types fuel after.tail
            return (shape :: params, variadic, after)
          else if after.head? = some (.mark ')') then return ([shape], false, after.tail)
          else none

end

/-- A text as one declaration, the names of types being given. -/
def readDeclaration? (types : String → Bool) (text : String) :
    Option (Option String × Shape) := do
  let (const, base, rest) := specifiers types none (lex text.toList)
  let (name, layers, after) ← declarator types (3 * rest.length + 2) rest
  if after.isEmpty then return (name, Shape.ofLayers layers (.base const (← base))) else none

end LuaBinder.Grammar
