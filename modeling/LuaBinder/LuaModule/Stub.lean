import LuaBinder.LuaModule.Text

namespace LuaBinder.LuaModule

open Text

/-! The type definitions of a module for editors. -/

/-- Values of 64 bits come back boxed. -/
def wideInteger : String := "integer|ffi.cdata*"

def primitiveLuaType : Primitive → String
  | .bool => "boolean"
  | .float | .double => "number"
  | .longlong | .ulonglong | .long | .ulong | .int64 | .uint64
  | .intptr | .uintptr | .size | .ssize | .ptrdiff => wideInteger
  | .objcId | .objcSelector | .objcClass => "ffi.cdata*"
  | _ => "integer"

def compoundLuaType (moduleName : String) : Option Declaration → String
  | some d =>
      match d.body with
      | .enumeration _ _ => "integer"
      | .record _ _ _ => moduleName ++ "." ++ d.name
      | _ => "ffi.cdata*"
  | none => "ffi.cdata*"

/-- A type as seen from Lua. -/
def luaTypeWithin (store : Store) (moduleName : String) : Nat → CType → String
  | 0, _ => "any"
  | fuel + 1, .typedef key =>
      match store.underlying? key with
      | some type => luaTypeWithin store moduleName fuel type
      | none => "any"
  | _, .primitive primitive => primitiveLuaType primitive
  | _, .pointer (.primitive .char) _ => "string|ffi.cdata*"
  | _, .pointer (.function _ _ _) _ => "function|ffi.cdata*"
  | _, .pointer _ _ => "ffi.cdata*"
  | _, .compound key => compoundLuaType moduleName (store.lookup? key)
  | _, .function _ _ _ => "function"
  | _, .array _ _ => "ffi.cdata*"
  | _, .unsupported _ => "any"

def luaType (store : Store) (moduleName : String) (type : CType) : String :=
  luaTypeWithin store moduleName (store.size + 2) type

/-- What the definitions are written for. -/
structure StubContext where
  store : Store
  moduleName : String
  comments : Bool

namespace StubContext

def typeText (c : StubContext) (type : CType) : String := luaType c.store c.moduleName type

def doc (c : StubContext) (text : String) : List String :=
  if c.comments && text != "" then (splitLines text).map (Code.commentLine "---") else []

def functionStub (key : String) (params : List String) : String :=
  let head := "(" ++ commas params ++ ") end"
  if isIdentifier key then "function " ++ field "M" key ++ head
  else assign key ("function" ++ head)

def recordLines (c : StubContext) (d : Declaration) (members : List Member) : List String :=
  c.doc d.doc ++
    ("---@class " ++ c.moduleName ++ "." ++ d.name ++ ": ffi.cdata*") ::
      (members.map fun m => "---@field " ++ m.name ++ " " ++ c.typeText m.type)

def aliasLine (c : StubContext) (d : Declaration) (underlying : Option CType) : String :=
  let type := (underlying.map c.typeText).getD "any"
  "---@alias " ++ c.moduleName ++ "." ++ d.name ++ " " ++ type

/-- Records, each followed by an empty line. -/
def records (c : StubContext) (bindings : List Binding) : List String :=
  bindings.flatMap fun binding =>
    match binding.2.body with
    | .record _ _ members => c.recordLines binding.2 members ++ [""]
    | _ => []

def recordNames (bindings : List Binding) : List String :=
  (bindings.filter (·.2.isRecord)).map (·.2.name)

/-- A typedef named like a record has no alias. -/
def aliases (c : StubContext) (bindings : List Binding) : List String :=
  bindings.flatMap fun binding =>
    match binding.2.body with
    | .typedef underlying =>
        if (recordNames bindings).contains binding.2.name then []
        else [c.aliasLine binding.2 underlying, ""]
    | _ => []

def nilLine (key : String) : String := assign key "nil"

def constantType (rawType : String) : Except Fault String :=
  match rawType with
  | "int" => .ok "integer"
  | "double" => .ok "number"
  | "string" => .ok "string"
  | _ => .error (.unknownConstant rawType)

def functionLines (c : StubContext) (d : Declaration) (f : Function) : List String :=
  let names := f.allParams.map fun p => localName p.name
  let params := f.allParams.map fun p =>
    "---@param " ++ localName p.name ++ " " ++ c.typeText p.type
  let result :=
    if f.result == .void then [] else ["---@return " ++ c.typeText f.result]
  c.doc d.doc ++ params ++ result ++ [functionStub d.name names]

def globalLines (c : StubContext) (d : Declaration) (type : CType) (const : Bool) :
    List String :=
  let text := c.typeText type
  c.doc d.doc ++ ["---@return " ++ text, functionStub ("get_" ++ d.name) []] ++
    if const then []
    else ["---@param value " ++ text, functionStub ("set_" ++ d.name) ["value"]]

def enumLines (c : StubContext) (d : Declaration) (constants : List EnumConstant) :
    Except Fault (List String) := do
  let lines ← constants.mapM enumLine
  return c.doc d.doc ++
    ["---@enum " ++ c.moduleName ++ "." ++ d.name, assign d.name "\x7b"] ++
    lines.map ("    " ++ ·) ++ ["\x7d"]

def classLine : String :=
  "---@type \x7b name: string, superclass: string?, " ++
    "instance_methods: table<string, string>, class_methods: table<string, string> \x7d"

/-- What is said of one member of the module. -/
def memberLines (c : StubContext) (d : Declaration) : Except Fault (List String) :=
  match d.body with
  | .enumeration _ constants => c.enumLines d constants
  | .constant rawType _ => do
      let type ← constantType rawType
      return c.doc d.doc ++ ["---@type " ++ type, nilLine d.name]
  | .record _ _ _ | .typedef _ => .ok ["---@type ffi.ctype*", nilLine d.name]
  | .function f => .ok (c.functionLines d f)
  | .global type const _ => .ok (c.globalLines d type const)
  | .interface _ _ _ => .ok (c.doc d.doc ++ [classLine, nilLine d.name])

/-- The sections in the order of the definitions. -/
def order : List Section := [.enums, .constants, .types, .functions, .globals, .classes]

def sectionLines (c : StubContext) (layout : Layout) (s : Section) :
    Except Fault (List String) := do
  let parts ← (layout.within s).mapM fun binding => c.memberLines binding.2
  return parts.flatMap (· ++ [""])

def lines (c : StubContext) (bindings : List Binding) : Except Fault (List String) := do
  let layout := Layout.of bindings
  let sections ← order.mapM (c.sectionLines layout)
  return ["---@meta", "-- LuaCATS type definitions for " ++ c.moduleName,
      "-- Auto-generated, do not edit", ""] ++
    c.records bindings ++ c.aliases bindings ++
    ["---@class " ++ c.moduleName, "---@field addresses table<string, ffi.cdata*>",
      "---@field types table<string, ffi.ctype*>", "local M = \x7b\x7d", ""] ++
    sections.flatten ++ ["return M"]

end StubContext

def stubText (store : Store) (policy : Policy) (bindings : List Binding) :
    Except Fault String := do
  let lines ← StubContext.lines ⟨store, policy.moduleName, policy.comments⟩ bindings
  return String.intercalate "\n" lines ++ "\n"

end LuaBinder.LuaModule
