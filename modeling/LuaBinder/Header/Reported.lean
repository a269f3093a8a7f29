import LuaBinder.Header.Cursor

namespace LuaBinder.Header

open Text

/-! Declarations in the terms of the compiler: its kinds have names of their own, and
some facts have to be told from others. -/

def CursorKind.reportedName : CursorKind → String
  | .function => "FUNCTION_DECL" | .struct => "STRUCT_DECL" | .union => "UNION_DECL"
  | .enumeration => "ENUM_DECL" | .enumConstant => "ENUM_CONSTANT_DECL"
  | .typedef => "TYPEDEF_DECL" | .global => "VAR_DECL" | .field => "FIELD_DECL"
  | .parameter => "PARM_DECL" | .macroDefinition => "MACRO_DEFINITION"
  | .interface => "OBJC_INTERFACE_DECL" | .superclass => "OBJC_SUPER_CLASS_REF"
  | .instanceMethod => "OBJC_INSTANCE_METHOD_DECL"
  | .classMethod => "OBJC_CLASS_METHOD_DECL" | .other => ""

def CursorKind.ofReported (name : String) : CursorKind :=
  (CursorKind.all.find? (·.reportedName == name)).getD .other

def TypeKind.reportedNames : TypeKind → List String
  | .void => ["VOID"] | .bool => ["BOOL"] | .charS => ["CHAR_S"] | .charU => ["CHAR_U"]
  | .schar => ["SCHAR"] | .uchar => ["UCHAR"] | .wchar => ["WCHAR"]
  | .char16 => ["CHAR16"] | .char32 => ["CHAR32"] | .short => ["SHORT"]
  | .ushort => ["USHORT"] | .int => ["INT"] | .uint => ["UINT"] | .long => ["LONG"]
  | .ulong => ["ULONG"] | .longlong => ["LONGLONG"] | .ulonglong => ["ULONGLONG"]
  | .int128 => ["INT128"] | .uint128 => ["UINT128"] | .half => ["HALF", "FLOAT16"]
  | .float => ["FLOAT"] | .double => ["DOUBLE"] | .longDouble => ["LONGDOUBLE", "FLOAT128"]
  | .pointer => ["POINTER"] | .blockPointer => ["BLOCKPOINTER"]
  | .constantArray => ["CONSTANTARRAY"] | .incompleteArray => ["INCOMPLETEARRAY"]
  | .variableArray => ["VARIABLEARRAY"] | .record => ["RECORD"]
  | .enumeration => ["ENUM"] | .typedef => ["TYPEDEF"] | .elaborated => ["ELABORATED"]
  | .functionPrototype => ["FUNCTIONPROTO"]
  | .functionNoPrototype => ["FUNCTIONNOPROTO"] | .vector => ["VECTOR", "EXTVECTOR"]
  | .complex => ["COMPLEX"] | .atomic => ["ATOMIC"] | .objcId => ["OBJCID"]
  | .objcSelector => ["OBJCSEL"] | .objcClass => ["OBJCCLASS"]
  | .interface => ["OBJCINTERFACE"] | .objectPointer => ["OBJCOBJECTPOINTER"]
  | .unexposed => ["UNEXPOSED"] | .other => []

def TypeKind.ofReported (name : String) : TypeKind :=
  (TypeKind.all.find? fun kind => kind.reportedNames.contains name).getD .other

namespace Node

def reportedKind (node : Node) : CursorKind := .ofReported node.kind

def holdsText (part text : String) : Bool :=
  let whole := text.toList
  (List.range (whole.length + 1)).any fun start => part.toList.isPrefixOf (whole.drop start)

/-- Anonymous declarations can have a spelling that is made up, and a USR that tells. -/
def isAnonymous (node : Node) : Bool :=
  match node.reportedKind with
  | .field =>
      node.spelling == "" || holdsText "(anonymous at" node.spelling ||
        holdsText "(unnamed" node.spelling
  | .enumeration => node.anonymous || ["@EA@", "@Ea@"].any (holdsText · node.usr)
  | .struct | .union =>
      node.anonymous || ["@SA@", "@Sa@", "@UA@", "@Ua@"].any (holdsText · node.usr)
  | _ => false

def inlineWords : List String := ["inline", "__inline", "__inline__", "__forceinline"]

/-- The word for inline functions stands before the name. -/
def saysInline (node : Node) : Bool :=
  ((node.tokens.map (·.spelling)).takeWhile (· != node.spelling)).any inlineWords.contains

/-- The parenthesis of a macro with parameters follows its name at once. -/
def opensParameters (node : Node) : Bool :=
  match node.tokens with
  | name :: second :: _ => second.spelling == "(" && second.start == name.stop
  | _ => false

def reportedLocation (node : Node) : String :=
  match node.file with
  | some file => file ++ ":" ++ toString node.line
  | none => ""

end Node

/-- Only a function with a prototype is variadic, and a declaration that was not found
is none. -/
def reportedFacts (nodes : Nodes) (facts : TypeFacts String) : TypeFacts TypeKind :=
  let isFound (number : Nat) : Bool :=
    (nodes[number]?.map (·.kind)).getD "" != "NO_DECL_FOUND"
  let kind := TypeKind.ofReported facts.kind
  { facts with
    kind
    variadic := facts.variadic && kind == .functionPrototype
    declaration := facts.declaration.filter isFound }

/-- With `asksInline` the compiler itself tells which functions are inline. -/
def Cursor.ofReported (nodes : Nodes) (asksInline : Bool) (number : Nat) (node : Node) :
    Cursor :=
  let type (tree : TypeTree String) : NativeType := tree.map (reportedFacts nodes)
  { kind := node.reportedKind
    spelling := if node.isAnonymous then "" else node.spelling
    usr := node.usr, type := type node.type, result := type node.result
    underlying := type node.underlying, storage := Storage.ofName node.storage
    comment := node.comment, location := node.reportedLocation, value := node.value
    referenced := node.referenced, arguments := node.arguments, children := node.children
    tokens := node.tokens.map (·.spelling), isDefinition := node.isDefinition
    definition := definitionOf number node
    inlined := if asksInline then node.inlined else node.saysInline
    functionLike := node.functionLike.getD node.opensParameters
    bitfield := node.bitfield, anonymous := node.isAnonymous }

def Forest.ofReported (nodes : Nodes) (asksInline : Bool) : Forest :=
  ⟨nodes.mapIdx (Cursor.ofReported nodes asksInline)⟩

end LuaBinder.Header
