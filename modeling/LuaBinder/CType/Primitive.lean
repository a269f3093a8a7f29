namespace LuaBinder

/-! The primitive types: a stable name for each, and how C spells it. -/

inductive Primitive where
  | void | bool | char | int8 | uint8 | short | ushort | int | uint | long | ulong
  | longlong | ulonglong | schar | uchar | wchar | float | double
  | int16 | uint16 | int32 | uint32 | int64 | uint64
  | intptr | uintptr | size | ssize | ptrdiff
  | objcId | objcSelector | objcClass
  deriving DecidableEq, Repr, Inhabited

namespace Primitive

def all : List Primitive :=
  [void, bool, char, int8, uint8, short, ushort, int, uint, long, ulong,
    longlong, ulonglong, schar, uchar, wchar, float, double,
    int16, uint16, int32, uint32, int64, uint64,
    intptr, uintptr, size, ssize, ptrdiff,
    objcId, objcSelector, objcClass]

def name : Primitive → String
  | void => "void" | bool => "bool" | char => "char" | int8 => "int8" | uint8 => "uint8"
  | short => "short" | ushort => "ushort" | int => "int" | uint => "uint"
  | long => "long" | ulong => "ulong" | longlong => "longlong" | ulonglong => "ulonglong"
  | schar => "schar" | uchar => "uchar" | wchar => "wchar"
  | float => "float" | double => "double"
  | int16 => "int16" | uint16 => "uint16" | int32 => "int32" | uint32 => "uint32"
  | int64 => "int64" | uint64 => "uint64" | intptr => "intptr" | uintptr => "uintptr"
  | size => "size" | ssize => "ssize" | ptrdiff => "ptrdiff"
  | objcId => "id" | objcSelector => "SEL" | objcClass => "Class"

def spelling : Primitive → String
  | void => "void" | bool => "bool" | char => "char" | int8 => "int8_t" | uint8 => "uint8_t"
  | short => "short" | ushort => "unsigned short" | int => "int" | uint => "unsigned int"
  | long => "long" | ulong => "unsigned long"
  | longlong => "long long" | ulonglong => "unsigned long long"
  | schar => "signed char" | uchar => "unsigned char" | wchar => "wchar_t"
  | float => "float" | double => "double"
  | int16 => "int16_t" | uint16 => "uint16_t" | int32 => "int32_t" | uint32 => "uint32_t"
  | int64 => "int64_t" | uint64 => "uint64_t" | intptr => "intptr_t" | uintptr => "uintptr_t"
  | size => "size_t" | ssize => "ssize_t" | ptrdiff => "ptrdiff_t"
  | objcId => "id" | objcSelector => "SEL" | objcClass => "Class"

def ofName? (text : String) : Option Primitive := all.find? (·.name == text)

/-- Typedefs of the system headers that stand for a primitive type. -/
def wellKnownTypedefs : List (String × Primitive) :=
  [("int8_t", int8), ("uint8_t", uint8), ("int16_t", int16), ("uint16_t", uint16),
    ("int32_t", int32), ("uint32_t", uint32), ("int64_t", int64), ("uint64_t", uint64),
    ("intptr_t", intptr), ("uintptr_t", uintptr), ("size_t", size), ("ssize_t", ssize),
    ("ptrdiff_t", ptrdiff), ("wchar_t", wchar), ("bool", bool), ("instancetype", objcId)]

def wellKnown? (typedefName : String) : Option Primitive :=
  (wellKnownTypedefs.find? (·.1 == typedefName)).map (·.2)

/-- The C spellings that configuration may use besides the well-known typedefs. -/
def keywordSpellings : List (String × Primitive) :=
  [("void", void), ("bool", bool), ("_Bool", bool), ("char", char),
    ("signed char", schar), ("unsigned char", uchar),
    ("short", short), ("short int", short),
    ("unsigned short", ushort), ("unsigned short int", ushort),
    ("int", int), ("signed", int), ("signed int", int),
    ("unsigned", uint), ("unsigned int", uint),
    ("long", long), ("long int", long),
    ("unsigned long", ulong), ("unsigned long int", ulong),
    ("long long", longlong), ("long long int", longlong),
    ("unsigned long long", ulonglong), ("unsigned long long int", ulonglong),
    ("float", float), ("double", double)]

def ofSpelling? (text : String) : Option Primitive :=
  ((keywordSpellings ++ wellKnownTypedefs).find? (·.1 == text)).map (·.2)

end Primitive

end LuaBinder
