import LuaBinder.Number.Reading
import LuaBinder.Text.Quoted

namespace LuaBinder.CommandLine

open Text

/-! The arguments of the command line. -/

/-- The options. Each takes one value or none. -/
inductive Switch where
  | help | config | preset | moduleName | output | directory | define | strict | verbose
  deriving DecidableEq, Repr

namespace Switch

def all : List Switch :=
  [help, config, preset, moduleName, output, directory, define, strict, verbose]

def spellings : Switch → List String
  | help => ["-h", "--help"] | config => ["--config"] | preset => ["--preset"]
  | moduleName => ["--module"] | output => ["--output"] | directory => ["-I"]
  | define => ["-D"] | strict => ["--strict"] | verbose => ["-v", "--verbose"]

def takesValue : Switch → Bool
  | help | strict | verbose => false
  | _ => true

def name (s : Switch) : String := String.intercalate "/" s.spellings

def table : List (String × Switch) :=
  all.flatMap fun s => s.spellings.map fun spelling => (spelling, s)

def find? (spelling : String) : Option Switch := List.lookup spelling table

/-- The spellings that begin in the given way. -/
def beginning (start : String) : List (String × Switch) :=
  table.filter fun entry => start.toList.isPrefixOf entry.1.toList

end Switch

/-- What an option was given. Two hyphens in one word with the option are no text. -/
inductive OptionValue where
  | text (text : String)
  | nothing
  deriving DecidableEq, Repr

namespace OptionValue

def ofText (text : String) : OptionValue := if text == "--" then .nothing else .text text

/-- A text that is not empty. -/
def given? : OptionValue → Option String
  | .text content => if content == "" then none else some content
  | .nothing => none

/-- A value behind the letter of its option. -/
def shown : OptionValue → String
  | .text content => content
  | .nothing => "[]"

end OptionValue

structure Arguments where
  headers : List String := []
  config : Option OptionValue := none
  preset : Option OptionValue := none
  moduleName : Option OptionValue := none
  output : Option OptionValue := none
  directories : List OptionValue := []
  defines : List OptionValue := []
  strict : Bool := false
  verbose : Bool := false
  deriving DecidableEq, Repr

inductive ArgumentError where
  | ambiguous (argument : String) (spellings : List String)
  | valueExpected (s : Switch)
  | valueIgnored (s : Switch) (value : String)
  | unrecognized (arguments : List String)
  deriving DecidableEq, Repr

def ArgumentError.message : ArgumentError → String
  | .ambiguous argument spellings =>
      "ambiguous option: " ++ argument ++ " could match " ++ String.intercalate ", " spellings
  | .valueExpected s => "argument " ++ s.name ++ ": expected one argument"
  | .valueIgnored s value =>
      "argument " ++ s.name ++ ": ignored explicit argument " ++ quoted value
  | .unrecognized arguments => "unrecognized arguments: " ++ String.intercalate " " arguments

/-- Why there are no arguments to work with. -/
inductive Stop where
  | help
  | error (error : ArgumentError)
  deriving DecidableEq, Repr

/-! Words, one for each argument. -/

/-- An option as it was found. What follows it in its word, at once or after an equals
sign, is its value or holds further options. -/
structure Occurrence where
  spelling : String
  option : Switch
  attached : Option String := none
  deriving DecidableEq, Repr

inductive Word where
  | plain (text : String)
  | separator
  | option (found : Occurrence)
  | unknown (text : String)
  deriving DecidableEq, Repr

def isDigits (text : List Char) : Bool := (text.map decimalValue?).all Option.isSome

/-- Digits with at most one point, which digits follow. -/
def isUnsigned (text : List Char) : Bool :=
  let fraction := text.dropWhile (· != '.')
  if fraction.isEmpty then isDigits text && !text.isEmpty
  else isDigits (text.takeWhile (· != '.')) && isDigits fraction.tail && !fraction.tail.isEmpty

/-- A negative number is no option; a line end after it does not count. -/
def isNegativeNumber (text : List Char) : Bool :=
  match text with
  | '-' :: rest =>
      isUnsigned (if rest.getLast? == some '\n' then rest.dropLast else rest)
  | _ => false

def isShort (spelling : String) : Bool := !"--".toList.isPrefixOf spelling.toList

/-- A text before and after the first equals sign. -/
def splitEquals (text : String) : String × Option String :=
  let chars := text.toList
  let start := chars.takeWhile (· != '=')
  match chars.drop start.length with
  | _ :: value => (String.ofList start, some (String.ofList value))
  | [] => (text, none)

/-- The options that an argument may stand for if it is no full spelling: a long one cut
off, or a short one with more behind it. -/
def readings (text : String) : List Occurrence :=
  if isShort text then
    let spelling := String.ofList (text.toList.take 2)
    match Switch.find? spelling with
    | some s => [⟨spelling, s, some (String.ofList (text.toList.drop 2))⟩]
    | none => []
  else
    let (start, attached) := splitEquals text
    (Switch.beginning start).map fun entry => ⟨entry.1, entry.2, attached⟩

def unspelled (text : String) : Except ArgumentError Word :=
  match readings text with
  | [found] => .ok (.option found)
  | [] =>
      if isNegativeNumber text.toList || text.toList.contains ' ' then .ok (.plain text)
      else .ok (.unknown text)
  | several => .error (.ambiguous text (several.map (·.spelling)))

def word (text : String) : Except ArgumentError Word :=
  if text.toList.head? != some '-' then .ok (.plain text)
  else
    match Switch.find? text with
    | some s => .ok (.option ⟨text, s, none⟩)
    | none =>
        if text.length == 1 then .ok (.plain text)
        else
          let (start, attached) := splitEquals text
          match attached, Switch.find? start with
          | some value, some s => .ok (.option ⟨start, s, some value⟩)
          | _, _ => unspelled text

/-- After the separator nothing is an option. -/
def words : List String → Except ArgumentError (List Word)
  | [] => .ok []
  | text :: rest =>
      if text == "--" then .ok (.separator :: rest.map .plain)
      else do
        let first ← word text
        return first :: (← words rest)

/-! Assembling. -/

def Arguments.take (arguments : Arguments) (s : Switch) (text : String) :
    Except Stop Arguments :=
  let value := OptionValue.ofText text
  match s with
  | .help => .error .help
  | .config => .ok { arguments with config := some value }
  | .preset => .ok { arguments with preset := some value }
  | .moduleName => .ok { arguments with moduleName := some value }
  | .output => .ok { arguments with output := some value }
  | .directory => .ok { arguments with directories := arguments.directories ++ [value] }
  | .define => .ok { arguments with defines := arguments.defines ++ [value] }
  | .strict => .ok { arguments with strict := true }
  | .verbose => .ok { arguments with verbose := true }

def Arguments.takeAll (arguments : Arguments) (switches : List Switch) :
    Except Stop Arguments :=
  switches.foldlM (fun arguments s => arguments.take s "") arguments

/-- What is known in the middle of the words: the plain words that no option has come
after, the headers once they are settled, and the option that waits for a value with
those that wait with it. -/
structure Assembly where
  arguments : Arguments := {}
  pending : List Word := []
  settled : Bool := false
  extras : List String := []
  waiting : Option (List Switch × Switch) := none
  deriving Repr

namespace Assembly

def plainText : Word → String
  | .plain text => text
  | .separator => "--"
  | .unknown text => text
  | .option found => found.spelling

/-- The first words that are no options are the headers; the first separator goes. -/
def settle (state : Assembly) : Assembly :=
  if state.settled then
    { state with pending := [], extras := state.extras ++ state.pending.map plainText }
  else
    let headers := (state.pending.erase .separator).map plainText
    { state with
      pending := [], settled := true, arguments := { state.arguments with headers } }

def settlePending (state : Assembly) : Assembly :=
  if state.pending.isEmpty then state else state.settle

/-- What the switches of one word come to. -/
inductive Cluster where
  | complete (switches : List Switch) (last : Option (Switch × String))
  | waiting (switches : List Switch) (s : Switch)
  deriving Repr

/-- Switches without a value, in one word behind one hyphen. The last one may take the
rest of the word for its value. -/
def cluster (before : List Switch) (s : Switch) : List Char → Except ArgumentError Cluster
  | [] =>
      if s.takesValue then .ok (.waiting before s)
      else .ok (.complete (before ++ [s]) none)
  | c :: rest =>
      if s.takesValue then .ok (.complete before (some (s, String.ofList (c :: rest))))
      else
        match Switch.find? (String.ofList ['-', c]) with
        | some next => cluster (before ++ [s]) next rest
        | none => .error (.valueIgnored s (String.ofList (c :: rest)))

/-- Only behind a short spelling there is room for further switches. -/
def spread (found : Occurrence) : Except ArgumentError Cluster :=
  let s := found.option
  match found.attached with
  | none => cluster [] s []
  | some value =>
      if s.takesValue then .ok (.complete [] (some (s, value)))
      else if isShort found.spelling && value != "" then cluster [] s value.toList
      else .error (.valueIgnored s value)

def apply (state : Assembly) : Cluster → Except Stop Assembly
  | .waiting switches s => .ok { state with waiting := some (switches, s) }
  | .complete switches last => do
      let arguments ← state.arguments.takeAll switches
      let arguments ←
        match last with
        | some (s, value) => arguments.take s value
        | none => pure arguments
      return { state with arguments }

def step (state : Assembly) (next : Word) : Except Stop Assembly :=
  match state.waiting with
  | some (switches, s) =>
      match next with
      | .plain text => do
          let arguments ← state.arguments.takeAll switches
          return { state with arguments := ← arguments.take s text, waiting := none }
      | _ => .error (.error (.valueExpected s))
  | none =>
      match next with
      | .plain _ | .separator => .ok { state with pending := state.pending ++ [next] }
      | .unknown text =>
          let state := state.settlePending
          .ok { state with extras := state.extras ++ [text] }
      | .option found => do
          state.settlePending.apply (← (spread found).mapError .error)

def finish (state : Assembly) : Except Stop Arguments :=
  match state.waiting with
  | some (_, s) => .error (.error (.valueExpected s))
  | none =>
      let state := state.settle
      if state.extras.isEmpty then .ok state.arguments
      else .error (.error (.unrecognized state.extras))

end Assembly

/-- Every word is told apart before the first option is acted upon. -/
def Arguments.ofTexts (texts : List String) : Except Stop Arguments := do
  let found ← (words texts).mapError .error
  (← found.foldlM Assembly.step {}).finish

end LuaBinder.CommandLine
