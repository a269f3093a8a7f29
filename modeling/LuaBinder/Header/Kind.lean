import LuaBinder.CType.Primitive

namespace LuaBinder.Header

/-! The kinds of declarations, types and linkage that headers hold. -/

inductive CursorKind where
  | function | struct | union | enumeration | enumConstant | typedef | global | field
  | parameter | macroDefinition | interface | superclass | instanceMethod | classMethod
  | other
  deriving DecidableEq, Repr, Inhabited

namespace CursorKind

def all : List CursorKind :=
  [function, struct, union, enumeration, enumConstant, typedef, global, field,
    parameter, macroDefinition, interface, superclass, instanceMethod, classMethod, other]

def name : CursorKind → String
  | function => "FUNCTION" | struct => "STRUCT" | union => "UNION" | enumeration => "ENUM"
  | enumConstant => "ENUM_CONSTANT" | typedef => "TYPEDEF" | global => "VAR"
  | field => "FIELD" | parameter => "PARAM" | macroDefinition => "MACRO_DEFINITION"
  | interface => "OBJC_INTERFACE" | superclass => "OBJC_SUPERCLASS_REF"
  | instanceMethod => "OBJC_INSTANCE_METHOD" | classMethod => "OBJC_CLASS_METHOD"
  | other => "OTHER"

def ofName (text : String) : CursorKind := (all.find? (·.name == text)).getD other

def isRecord : CursorKind → Bool
  | struct | union => true
  | _ => false

def isMethod : CursorKind → Bool
  | instanceMethod | classMethod => true
  | _ => false

end CursorKind

inductive Storage where
  | none | external | static | other
  deriving DecidableEq, Repr, Inhabited

namespace Storage

def all : List Storage := [none, external, static, other]

def name : Storage → String
  | none => "NONE" | external => "EXTERN" | static => "STATIC" | other => "OTHER"

def ofName (text : String) : Storage := (all.find? (·.name == text)).getD other

end Storage

inductive TypeKind where
  | void | bool | charS | charU | schar | uchar | wchar | char16 | char32
  | short | ushort | int | uint | long | ulong | longlong | ulonglong
  | int128 | uint128 | half | float | double | longDouble
  | pointer | blockPointer | constantArray | incompleteArray | variableArray
  | record | enumeration | typedef | elaborated | functionPrototype | functionNoPrototype
  | vector | complex | atomic | objcId | objcSelector | objcClass | interface
  | objectPointer | unexposed | other
  deriving DecidableEq, Repr, Inhabited

namespace TypeKind

def all : List TypeKind :=
  [void, bool, charS, charU, schar, uchar, wchar, char16, char32,
    short, ushort, int, uint, long, ulong, longlong, ulonglong,
    int128, uint128, half, float, double, longDouble,
    pointer, blockPointer, constantArray, incompleteArray, variableArray,
    record, enumeration, typedef, elaborated, functionPrototype, functionNoPrototype,
    vector, complex, atomic, objcId, objcSelector, objcClass, interface,
    objectPointer, unexposed, other]

def name : TypeKind → String
  | void => "VOID" | bool => "BOOL" | charS => "CHAR_S" | charU => "CHAR_U"
  | schar => "SCHAR" | uchar => "UCHAR" | wchar => "WCHAR"
  | char16 => "CHAR16" | char32 => "CHAR32" | short => "SHORT" | ushort => "USHORT"
  | int => "INT" | uint => "UINT" | long => "LONG" | ulong => "ULONG"
  | longlong => "LONGLONG" | ulonglong => "ULONGLONG"
  | int128 => "INT128" | uint128 => "UINT128" | half => "HALF"
  | float => "FLOAT" | double => "DOUBLE" | longDouble => "LONG_DOUBLE"
  | pointer => "POINTER" | blockPointer => "BLOCK_POINTER"
  | constantArray => "CONSTANT_ARRAY" | incompleteArray => "INCOMPLETE_ARRAY"
  | variableArray => "VARIABLE_ARRAY" | record => "RECORD" | enumeration => "ENUM"
  | typedef => "TYPEDEF" | elaborated => "ELABORATED"
  | functionPrototype => "FUNCTION_PROTO" | functionNoPrototype => "FUNCTION_NO_PROTO"
  | vector => "VECTOR" | complex => "COMPLEX" | atomic => "ATOMIC"
  | objcId => "OBJC_ID" | objcSelector => "OBJC_SEL" | objcClass => "OBJC_CLASS"
  | interface => "OBJC_INTERFACE" | objectPointer => "OBJC_OBJECT_POINTER"
  | unexposed => "UNEXPOSED" | other => "OTHER"

def ofName (text : String) : TypeKind := (all.find? (·.name == text)).getD other

/-- The primitive type that a kind stands for. -/
def primitive? : TypeKind → Option Primitive
  | void => some .void
  | bool => some .bool
  | charS | charU => some .char
  | schar => some .schar
  | uchar => some .uchar
  | wchar => some .wchar
  | char16 => some .uint16
  | char32 => some .uint32
  | short => some .short
  | ushort => some .ushort
  | int => some .int
  | uint => some .uint
  | long => some .long
  | ulong => some .ulong
  | longlong => some .longlong
  | ulonglong => some .ulonglong
  | float => some .float
  | double => some .double
  | objcId => some .objcId
  | objcSelector => some .objcSelector
  | objcClass => some .objcClass
  | _ => none

/-- Kinds without a binding, with what they are called. -/
def unsupported? : TypeKind → Option String
  | int128 | uint128 => some "128-bit integer"
  | longDouble => some "long double"
  | half => some "half-precision float"
  | vector => some "vector type"
  | complex => some "complex type"
  | atomic => some "atomic type"
  | variableArray => some "variable length array"
  | blockPointer => some "block pointer"
  | _ => none

end TypeKind

end LuaBinder.Header
