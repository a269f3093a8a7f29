import LuaBinder.File.Glob
import LuaBinder.File.Tree
import LuaBinder.Header.Reported
import LuaBinder.Json.Parser
import LuaBinder.Policy.Basic

namespace LuaBinder.Header

/-! The declarations of the headers that a library is made of. The compiler reports all
that a header includes; a policy says which files count. -/

/-- What the compiler makes of a header. -/
inductive ParsedHeader where
  | failed (reason : String)
  | parsed (top : List Nat) (severities : List Int)
  deriving Repr

inductive Fault where
  | noHeaders
  | notFound (header : String)
  | unparsed (header reason : String)
  | fatal (header : String)
  deriving DecidableEq, Repr

def Fault.message : Fault → String
  | .noHeaders => "no headers to parse"
  | .notFound header => "header not found: " ++ header
  | .unparsed header reason => "failed to parse " ++ header ++ ": " ++ reason
  | .fatal header => "fatal errors while parsing " ++ header

/-- From this severity on nothing that the compiler reports can be used. -/
def fatalSeverity : Int := 4

/-- Without directives only the header itself counts. -/
def isWanted (directives : List String) (header file : String) : Bool :=
  if directives.isEmpty then Path.same file header
  else
    directives.any fun directive =>
      let glob := Glob.ofText directive
      glob.accepts file || glob.accepts (Path.baseName file)

abbrev ParsedHeaders := List (String × ParsedHeader)

/-! An outcome in JSON has its top-level declarations, the severities of what the compiler
found and possibly a table of its own; or it says why there is none. -/

def ParsedHeader.ofJson (table : NodeTable) (value : Json) : ParsedHeader × NodeTable :=
  match value.field? "load_error" with
  | some (.string reason) => (.failed reason, table)
  | _ =>
      let own := ((value.field? "cursors").bind Json.fields?).getD []
      let (top, table) := (table.extend own).references (Node.itemsField value "top")
      let severities := (Node.itemsField value "diagnostics").map fun s => s.int?.getD 0
      (.parsed top severities, table)

def ParsedHeaders.ofJson (table : NodeTable) :
    List (String × Json) → ParsedHeaders × NodeTable
  | [] => ([], table)
  | (header, value) :: rest =>
      let (outcome, table) := ParsedHeader.ofJson table value
      let (others, table) := ParsedHeaders.ofJson table rest
      ((header, outcome) :: others, table)

/-- A header tree in a file. -/
def ParsedHeader.ofText (table : NodeTable) (text : String) :
    ParsedHeader × NodeTable :=
  match Json.parse text with
  | .ok value => ParsedHeader.ofJson table value
  | .error error => (.failed error.message, table)

/-- The header trees among the files; a header without a file has no outcome. -/
def ParsedHeaders.ofFiles (files : FileTree) (table : NodeTable) :
    List String → ParsedHeaders × NodeTable
  | [] => ([], table)
  | header :: rest =>
      match files.read header with
      | .error _ => ParsedHeaders.ofFiles files table rest
      | .ok text =>
          let (outcome, table) := ParsedHeader.ofText table text
          let (others, table) := ParsedHeaders.ofFiles files table rest
          ((header, outcome) :: others, table)

/-- The outcome of a header, under its own path or under another one to the same file. -/
def ParsedHeaders.find? (parsed : ParsedHeaders) (header : String) : Option ParsedHeader :=
  match List.lookup header parsed with
  | some outcome => some outcome
  | none => (List.find? (fun entry => Path.same entry.1 header) parsed).map (·.2)

/-- Declarations without a file are built into the compiler. -/
def isWantedNode (nodes : Nodes) (directives : List String) (header : String)
    (number : Nat) : Bool :=
  match nodes[number]?.bind (·.file) with
  | some file => isWanted directives header file
  | none => false

/-- The headers that the compiler was given, and the declarations found in them. -/
def collectFrom (nodes : Nodes) (directives : List String) (parsed : ParsedHeaders) :
    List String → List String × Except Fault (List Nat)
  | [] => ([], .ok [])
  | header :: rest =>
      match parsed.find? header with
      | none => ([], .error (.notFound header))
      | some (.failed reason) => ([header], .error (.unparsed header reason))
      | some (.parsed top severities) =>
          if severities.any (fatalSeverity ≤ ·) then ([header], .error (.fatal header))
          else
            let found := top.filter (isWantedNode nodes directives header)
            let (calls, others) := collectFrom nodes directives parsed rest
            (header :: calls, others.map (found ++ ·))

def collect (policy : Policy) (nodes : Nodes) (parsed : ParsedHeaders)
    (headers : List String) : List String × Except Fault (List Nat) :=
  if headers.isEmpty then ([], .error .noHeaders)
  else collectFrom nodes policy.includeDirectives parsed headers

end LuaBinder.Header
