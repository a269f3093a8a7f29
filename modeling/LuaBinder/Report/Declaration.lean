import LuaBinder.Declaration.Store
import LuaBinder.Diagnostic
import LuaBinder.Json.Basic

namespace LuaBinder.Report

/-! Types, declarations and diagnostics in JSON. -/

def texts (items : List String) : Json := .array (items.map .string)

def each (items : List α) (report : α → Json) : Json := .array (items.map report)

def optionalText (value : Option String) : Json := (value.map Json.string).getD .null

mutual

/-- What a type refers to is named by its USR. -/
def type (usr : String → String) : CType → Json
  | .primitive primitive => .string primitive.name
  | .pointer target const => .object [("ptr", type usr target), ("const", .bool const)]
  | .array element length =>
      .object [("array", type usr element), ("length", (length.map Json.int).getD .null)]
  | .compound key => .object [("compound", .string (usr key))]
  | .typedef key => .object [("typedef", .string (usr key))]
  | .function result params variadic =>
      .object [("fn", type usr result), ("params", .array (typeParams usr params)),
        ("variadic", .bool variadic)]
  | .unsupported reason => .object [("unimplemented", .string reason)]

def typeParams (usr : String → String) : Params → List Json
  | .nil => []
  | .cons name first rest =>
      .array [.string name, .string "", type usr first] :: typeParams usr rest

end

def usrOf (store : Store) (key : String) : String :=
  ((store.lookup? key).map (·.usr)).getD key

def storedType (store : Store) : CType → Json := type (usrOf store)

def parameters (store : Store) (params : List Parameter) : Json :=
  each params fun p =>
    .array [.string p.name, .string p.nativeName, storedType store p.type]

def native (native : Native) : Json :=
  .array [native.library, optionalText native.convention]

def function (store : Store) (f : Function) : List (String × Json) :=
  [("ret", storedType store f.result), ("params", parameters store f.params),
    ("va", parameters store f.extra), ("all", texts (f.allParams.map (·.name))),
    ("postfix", .string f.suffix), ("specialization", .bool f.isSpecialization),
    ("variadic", .bool f.variadic), ("address", .bool f.exposesAddress),
    ("typedefs", .bool f.exposesType), ("leaf", .bool f.leaf), ("native", native f.native)]

def member (store : Store) (m : Member) : Json :=
  .array [.string m.name, .string m.nativeName, storedType store m.type, .string m.doc]

/-- Integers are reported in decimal digits, within their limit. -/
def constant (c : EnumConstant) : Except Number.Overlong Json := do
  return texts [c.name, c.nativeName, ← Number.decimal c.value, c.doc]

def method (store : Store) (m : Method) : Json :=
  .array [.string m.name, .string m.selector, .bool m.ofClass, storedType store m.result,
    parameters store m.params, .string m.doc]

def body (store : Store) : Body → Except Number.Overlong (List (String × Json))
  | .function f => .ok (function store f)
  | .record _ _ members => .ok [("members", each members (member store))]
  | .enumeration _ constants => do
      return [("constants", .array (← constants.mapM constant))]
  | .interface _ superclass methods =>
      .ok [("superclass", optionalText (superclass.map (usrOf store))),
        ("methods", each methods (method store))]
  | .typedef underlying =>
      .ok [("underlying", (underlying.map (storedType store)).getD .null)]
  | .global type const address =>
      .ok [("type", storedType store type), ("const", .bool const),
        ("address", .bool address)]
  | .constant rawType value => do
      return [("raw_type", .string rawType), ("value", .string (← value.plain))]

def compound (d : Declaration) : List (String × Json) :=
  if d.isCompound then
    [("incomplete", .bool d.isIncomplete), ("c", .string d.spelling)]
  else []

def declaration (store : Store) (d : Declaration) : Except Number.Overlong Json := do
  return .object <|
    [("kind", .string d.kind.name), ("usr", .string d.usr),
      ("original", .string d.nativeName), ("name", .string d.name),
      ("doc", .string d.doc)] ++ compound d ++ (← body store d.body)

/-- The kind, the USR and the name of a declaration that is there. -/
def brief (store : Store) (key : String) : Json :=
  match store.lookup? key with
  | some d => texts [d.kind.name, d.usr, d.name]
  | none => .null

def diagnostic (d : Diagnostic) : Json :=
  texts [d.name, d.usr, d.reason.name, d.category.name, d.message, d.text]

end LuaBinder.Report
