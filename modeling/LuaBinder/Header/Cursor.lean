import LuaBinder.Header.Comment
import LuaBinder.Header.Kind
import LuaBinder.Header.Node

namespace LuaBinder.Header

/-! The declarations of a header. -/

abbrev NativeType := TypeTree TypeKind

def NativeType.kind (type : NativeType) : TypeKind := (type.facts?.map (·.kind)).getD .other

structure Cursor where
  kind : CursorKind := .other
  spelling : String := ""
  usr : String := ""
  type : NativeType := .absent
  result : NativeType := .absent
  underlying : NativeType := .absent
  storage : Storage := .none
  comment : Option String := none
  location : String := ""
  value : Int := 0
  referenced : Option Nat := none
  arguments : List Nat := []
  children : List Nat := []
  tokens : List String := []
  isDefinition : Bool := true
  definition : Option Nat := none
  inlined : Bool := false
  functionLike : Bool := false
  bitfield : Bool := false
  anonymous : Bool := false
  deriving Inhabited

namespace Cursor

/-- A declaration in messages. -/
def describe (c : Cursor) : String :=
  let name := if c.spelling == "" then "<anonymous>" else c.spelling
  let text := c.kind.name ++ " " ++ name
  if c.location == "" then text else text ++ " at " ++ c.location

/-- The documentation of a declaration; empty without a comment. -/
def doc (c : Cursor) : String := (c.comment.map Comment.text).getD ""

end Cursor

/-- A forest of declarations, each referred to by its number. -/
structure Forest where
  cursors : Array Cursor := #[]
  deriving Inhabited

namespace Forest

def cursor (forest : Forest) (number : Nat) : Cursor := forest.cursors[number]?.getD {}

def size (forest : Forest) : Nat := forest.cursors.size

end Forest

/-! A forest from nodes that name the kinds above. -/

def readFacts (facts : TypeFacts String) : TypeFacts TypeKind :=
  { facts with kind := TypeKind.ofName facts.kind }

/-- A definition is its own definition unless that is hidden. -/
def definitionOf (number : Nat) (node : Node) : Option Nat :=
  if node.isDefinition && !node.hidesDefinition then some number else node.definition

def Cursor.ofNode (number : Nat) (node : Node) : Cursor :=
  { kind := CursorKind.ofName node.kind, spelling := node.spelling, usr := node.usr
    type := node.type.map readFacts, result := node.result.map readFacts
    underlying := node.underlying.map readFacts
    storage := Storage.ofName node.storage, comment := node.comment
    location := node.location, value := node.value, referenced := node.referenced
    arguments := node.arguments, children := node.children
    tokens := node.tokens.map (·.spelling), isDefinition := node.isDefinition
    definition := definitionOf number node, inlined := node.inlined
    functionLike := node.functionLike.getD false, bitfield := node.bitfield
    anonymous := node.anonymous }

def Forest.ofNodes (nodes : Nodes) : Forest :=
  ⟨nodes.mapIdx Cursor.ofNode⟩

end LuaBinder.Header
