import LuaBinder.LuaModule.Cdef

namespace LuaBinder.LuaModule

/-! The text of a module: the C declarations, and a table that exposes them. -/

/-- A heading and its lines; nothing at all without lines. -/
def titled (title : String) (bindings : List Binding) (lines : Code) : Code :=
  if bindings.isEmpty then [] else Code.blank ++ Code.line ("-- " ++ title) ++ lines

def assign (key text : String) : String := field "M" key ++ " = " ++ text

def commas (texts : List String) : String := String.intercalate ", " texts

/-- A function that casts its further arguments to the configured types. -/
def wrapper (store : Store) (d : Declaration) (f : Function) (symbol : String) : Code :=
  let fixed := f.params.map fun p => localName p.name
  let extra := f.extra.map fun p => localName p.name
  let casts := f.extra.map fun p =>
    "ffi.cast(" ++ string (store.declare p.type "") ++ ", " ++ localName p.name ++ ")"
  Code.block (assign d.name ("function(" ++ commas (fixed ++ extra) ++ ")")) "end"
    (Code.line ("return " ++ symbol ++ "(" ++ commas (fixed ++ casts) ++ ")"))

def functionCode (store : Store) (d : Declaration) (f : Function) : Code :=
  let symbol := field "C" d.nativeName
  let doc := if d.doc == "" then [] else Code.comment "--" d.doc
  doc ++
    if f.extra.isEmpty then Code.line (assign d.name symbol)
    else wrapper store d f symbol

def enumLine (c : EnumConstant) : Except Fault String := do
  return tableKey c.name ++ " = " ++ (← orFault (unlessOverlong (integer c.value))) ++ ","

def enumCode (d : Declaration) (constants : List EnumConstant) : Except Fault Code := do
  return Code.block (assign d.name "\x7b") "\x7d" (Code.ofLines (← constants.mapM enumLine))

def typeSpelling (d : Declaration) : String :=
  if d.isTypedef then d.nativeName else d.spelling

def globalCode (d : Declaration) (const : Bool) : Code :=
  let symbol := field "C" d.nativeName
  Code.block (assign ("get_" ++ d.name) "function()") "end" (Code.line ("return " ++ symbol)) ++
    if const then []
    else Code.block (assign ("set_" ++ d.name) "function(value)") "end"
      (Code.line (symbol ++ " = value"))

def methodTable (title : String) (methods : List Method) : Code :=
  Code.block (title ++ " = \x7b") "\x7d," <| Code.ofLines <| methods.map fun m =>
    tableKey m.name ++ " = " ++ string m.selector ++ ","

def classCode (store : Store) (d : Declaration) (superclass : Option String)
    (methods : List Method) : Code :=
  let parent :=
    match superclass with
    | none => []
    | some key =>
        let name := ((store.lookup? key).map (·.nativeName)).getD ""
        Code.line ("superclass = " ++ string name ++ ",")
  Code.block (assign d.name "\x7b") "\x7d" <|
    Code.line ("name = " ++ string d.nativeName ++ ",") ++ parent ++
      methodTable "instance_methods" (methods.filter (!·.ofClass)) ++
      methodTable "class_methods" (methods.filter (·.ofClass))

/-- What a module's table holds for one declaration. -/
def memberCode (store : Store) (d : Declaration) : Except Fault Code :=
  match d.body with
  | .function f => .ok (functionCode store d f)
  | .enumeration _ constants => enumCode d constants
  | .constant rawType scalar => do
      return Code.line (assign d.name (← orFault (value rawType scalar)))
  | .record _ _ _ | .typedef _ =>
      .ok (Code.line (assign d.name ("ffi.typeof(" ++ string (typeSpelling d) ++ ")")))
  | .global _ const _ => .ok (globalCode d const)
  | .interface _ superclass methods => .ok (classCode store d superclass methods)

def Section.title : Section → String
  | .functions => "Functions"
  | .enums => "Enums"
  | .constants => "Constants"
  | .types => "Types"
  | .globals => "Globals"
  | .classes => "Objective-C classes"

def sectionCode (store : Store) (layout : Layout) (s : Section) : Except Fault Code := do
  let bindings := layout.within s
  let lines ← bindings.mapM fun binding => memberCode store binding.2
  return titled s.title bindings lines.flatten

def exposesAddress (d : Declaration) : Bool :=
  match d.body with
  | .function f => f.exposesAddress
  | .global _ _ exposes => exposes
  | _ => false

def addressSymbol (d : Declaration) : String :=
  if d.kind == .function then d.nativeName else addressAlias d

/-- Each native symbol once. -/
def addressLines : List String → List Binding → List String
  | _, [] => []
  | seen, binding :: rest =>
      let d := binding.2
      if seen.contains d.nativeName then addressLines seen rest
      else
        (field "M.addresses" d.nativeName ++ " = ffi.cast('void *', " ++
          field "C" (addressSymbol d) ++ ")") :: addressLines (d.nativeName :: seen) rest

def addressCode (bindings : List Binding) : Code :=
  let exposed := bindings.filter fun binding => exposesAddress binding.2
  titled "Symbol addresses" exposed (Code.ofLines (addressLines [] exposed))

def functionTypeLine (store : Store) (d : Declaration) (f : Function) : String :=
  let params := Params.ofList (f.allParams.map fun p => (p.name, p.type))
  let pointer := CType.pointer (.function f.result params false) false
  field "M.types" d.name ++ " = ffi.typeof(" ++ string (store.declare pointer "") ++ ")"

def functionTypeCode (store : Store) (bindings : List Binding) : Code :=
  let exposed := bindings.filter fun binding =>
    (binding.2.function?.map (·.exposesType)).getD false
  titled "Function pointer types" exposed <| Code.ofLines <| exposed.filterMap fun binding =>
    binding.2.function?.map (functionTypeLine store binding.2)

def libraryPart : Json → Except Fault (List Char)
  | .string text =>
      match text.toList with
      | [c] => .ok (stringChar c)
      | _ => .error (.libraryPart (.string text))
  | value => .error (.libraryPart value)

/-- The library as a Lua string; a list or a mapping is taken as its characters. -/
def libraryText : Json → Except Fault String
  | .string text => .ok (string text)
  | .array items => do
      let parts ← items.mapM libraryPart
      return String.ofList ('"' :: (parts.flatten ++ ['"']))
  | .object fields => do
      let parts ← fields.mapM fun entry => libraryPart (.string entry.1)
      return String.ofList ('"' :: (parts.flatten ++ ['"']))
  | value => .error (.libraryNotText value)

def libraryLine (native : Native) : Except Fault String :=
  if native.library.holds then do
    return "local C = ffi.load(" ++ (← libraryText native.library) ++ ")"
  else .ok "local C = ffi.C"

def moduleCode (store : Store) (native : Native) (bindings : List Binding) :
    Except Fault Code := do
  let declarations ← cdef store bindings
  let library ← libraryLine native
  let layout := Layout.of bindings
  let sections ← Section.all.mapM (sectionCode store layout)
  return Code.ofLines
      ["-- machine generated, do not edit", "local ffi = require('ffi')", "",
        "ffi.cdef[=["] ++
    declarations ++
    Code.ofLines
      ["]=]", "", library, "", "local M = \x7b\x7d", "M.addresses = \x7b\x7d",
        "M.types = \x7b\x7d"] ++
    sections.flatten ++ addressCode bindings ++ functionTypeCode store bindings ++
    Code.ofLines ["", "return M"]

/-- Names are given only to a module with its declarations and its library. -/
def reachesLayout (store : Store) (native : Native) (bindings : List Binding) : Bool :=
  (cdef store bindings).isOk && (libraryLine native).isOk

def moduleText (store : Store) (native : Native) (bindings : List Binding) :
    Except Fault String :=
  (moduleCode store native bindings).map Code.render

end LuaBinder.LuaModule
