import LuaBinder.Header.Tree
import LuaBinder.Json.Basic
import LuaBinder.Number.Reading

namespace LuaBinder.Header

open Number

/-! Header trees in JSON. A node is referred to by its name in a table, or written in
place; reading numbers the named nodes first and those in place after them. -/

/-- A token with the offsets of its first character and of the end. -/
structure Token where
  spelling : String
  start : Int := 0
  stop : Int := 0
  deriving Repr

/-- A declaration as reported; kinds are told by name. -/
structure Node where
  kind : String := ""
  spelling : String := ""
  usr : String := ""
  type : TypeTree String := .absent
  result : TypeTree String := .absent
  underlying : TypeTree String := .absent
  storage : String := "NONE"
  comment : Option String := none
  location : String := ""
  file : Option String := none
  line : Int := 0
  value : Int := 0
  referenced : Option Nat := none
  arguments : List Nat := []
  children : List Nat := []
  tokens : List Token := []
  isDefinition : Bool := true
  definition : Option Nat := none
  hidesDefinition : Bool := false
  inlined : Bool := false
  functionLike : Option Bool := none
  bitfield : Bool := false
  anonymous : Bool := false
  deriving Inhabited

abbrev Nodes := Array Node

namespace Node

mutual

def depth : Json → Nat
  | .array items => depthItems items + 1
  | .object fields => depthFields fields + 1
  | _ => 1

def depthItems : List Json → Nat
  | [] => 0
  | item :: rest => max (depth item) (depthItems rest)

def depthFields : List (String × Json) → Nat
  | [] => 0
  | (_, value) :: rest => max (depth value) (depthFields rest)

end

def textField (value : Json) (key default : String) : String :=
  ((value.field? key).bind Json.string?).getD default

def boolField (value : Json) (key : String) (default : Bool) : Bool :=
  ((value.field? key).bind Json.bool?).getD default

def intField (value : Json) (key : String) (default : Int) : Int :=
  ((value.field? key).bind Json.int?).getD default

def optionalText (value : Json) (key : String) : Option String :=
  (value.field? key).bind Json.string?

def itemsField (value : Json) (key : String) : List Json :=
  ((value.field? key).bind Json.items?).getD []

/-- An integer in decimal digits with an optional sign. -/
def decimal (text : String) : Int :=
  let (negative, digits) := takeSign text.toList
  let value : Int := ofDigits 10 (takeDecimals digits).1
  if negative then -value else value

def valueOf : Json → Int
  | .int value => value
  | .string text => decimal text
  | _ => 0

def tokenOf : Json → Token
  | .string spelling => { spelling }
  | .array [.string spelling, .int start, .int stop] => { spelling, start, stop }
  | _ => { spelling := "" }

/-- The nodes read so far. -/
abbrev Build := StateM Nodes

/-- The numbers of the named nodes. -/
abbrev Names := List (String × Nat)

def place (node : Node) : Build Nat := do
  let nodes ← get
  set (nodes.push node)
  return nodes.size

def plainType (kind : String) : TypeTree String :=
  .known ⟨kind, "", false, -1, false, none⟩ .absent .absent .absent .absent .absent .nil

mutual

/-- A reference to a node; a node in place is read and numbered. -/
def readReference (names : Names) : Nat → Json → Build (Option Nat)
  | _, .string name => return List.lookup name names
  | fuel + 1, .object fields => do
      return some (← place (← readNode names fuel (.object fields)))
  | _, _ => return none

def readType (names : Names) : Nat → Json → Build (TypeTree String)
  | _, .string kind => return plainType kind
  | fuel + 1, .object fields => do
      let value := Json.object fields
      let part (key : String) := readType names fuel ((value.field? key).getD .null)
      let declaration ← readReference names fuel ((value.field? "decl").getD .null)
      let facts : TypeFacts String :=
        { kind := textField value "kind" "", spelling := textField value "spelling" ""
          const := boolField value "const" false, count := intField value "count" (-1)
          variadic := boolField value "variadic" false, declaration }
      let pointee ← part "pointee"
      let element ← part "element"
      let named ← part "named"
      let result ← part "result"
      let canonical ← part "canonical"
      let arguments ← (itemsField value "args").mapM (readType names fuel)
      return .known facts pointee element named result canonical (.ofList arguments)
  | _, _ => return .absent

def readNode (names : Names) : Nat → Json → Build Node
  | 0, _ => return {}
  | fuel + 1, value => do
      let typePart (key : String) := readType names fuel ((value.field? key).getD .null)
      let nodePart (key : String) := readReference names fuel ((value.field? key).getD .null)
      let nodeParts (key : String) := do
        return (← (itemsField value key).mapM (readReference names fuel)).filterMap id
      let type ← typePart "type"
      let result ← typePart "result"
      let underlying ← typePart "underlying"
      let referenced ← nodePart "referenced"
      let definition ← nodePart "definition"
      let arguments ← nodeParts "args"
      let children ← nodeParts "children"
      return {
        kind := textField value "kind" "", spelling := textField value "spelling" ""
        usr := textField value "usr" "", type, result, underlying
        storage := textField value "storage" "NONE"
        comment := optionalText value "comment"
        location := textField value "location" ""
        file := optionalText value "file", line := intField value "line" 0
        value := ((value.field? "value").map valueOf).getD 0
        referenced, arguments, children
        tokens := (itemsField value "tokens").map tokenOf
        isDefinition := boolField value "is_definition" true, definition
        hidesDefinition := boolField value "hide_definition" false
        inlined := boolField value "inlined" false
        functionLike := (value.field? "function_like").bind Json.bool?
        bitfield := boolField value "bitfield" false
        anonymous := boolField value "anonymous" false }

end

/-- Each layer of a value takes at most two steps of reading. -/
def fuelFor (value : Json) : Nat := 2 * depth value + 2

def readNamed (names : Names) (table : List (String × Json)) : Build Unit := do
  let first := (← get).size
  modify fun nodes => nodes ++ Array.replicate table.length ({} : Node)
  let named ← table.mapM fun entry => readNode names (fuelFor entry.2) entry.2
  modify fun nodes =>
    named.zipIdx.foldl (fun done entry => done.setIfInBounds (first + entry.2) entry.1) nodes

end Node

/-- The named nodes come before the nodes in place of the same table. -/
structure NodeTable where
  names : Node.Names := []
  nodes : Nodes := #[]

namespace NodeTable

/-- Reads a table of named nodes; a name hides the same one read before. -/
def extend (table : NodeTable) (fields : List (String × Json)) : NodeTable :=
  let first := table.nodes.size
  let found := fields.zipIdx.map fun entry => (entry.1.1, first + entry.2)
  let names := found ++ table.names
  ⟨names, ((Node.readNamed names fields).run table.nodes).2⟩

def ofFields (fields : List (String × Json)) : NodeTable := ({} : NodeTable).extend fields

def reference (table : NodeTable) (value : Json) : Option Nat × NodeTable :=
  let (found, nodes) :=
    (Node.readReference table.names (Node.fuelFor value) value).run table.nodes
  (found, { table with nodes })

/-- The nodes that a list of references stands for; an empty reference is left out. -/
def references (table : NodeTable) : List Json → List Nat × NodeTable
  | [] => ([], table)
  | value :: rest =>
      let (first, table) := table.reference value
      let (others, table) := table.references rest
      (first.toList ++ others, table)

def type (table : NodeTable) (value : Json) : TypeTree String × NodeTable :=
  let (found, nodes) :=
    (Node.readType table.names (Node.fuelFor value) value).run table.nodes
  (found, { table with nodes })

end NodeTable

end LuaBinder.Header
