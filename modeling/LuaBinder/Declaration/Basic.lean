import LuaBinder.CType.Basic
import LuaBinder.Declaration.Scalar
import LuaBinder.Policy.Basic

namespace LuaBinder

open Text

/-! Declarations as they are bound. -/

structure Parameter where
  name : String
  type : CType
  nativeName : String := ""
  deriving DecidableEq, Repr

/-- A function with a fixed number of parameters. `extra` parameters are passed where
the native function takes any arguments. -/
structure Function where
  result : CType := .void
  params : List Parameter := []
  extra : List Parameter := []
  suffix : String := ""
  variadic : Bool := false
  exposesAddress : Bool := false
  exposesType : Bool := false
  leaf : Bool := false
  native : Native := {}
  deriving Repr

structure Member where
  name : String
  type : CType
  nativeName : String := ""
  doc : String := ""
  deriving DecidableEq, Repr

inductive RecordKind where
  | struct
  | union
  deriving DecidableEq, Repr

structure EnumConstant where
  nativeName : String
  name : String
  value : Int
  doc : String := ""
  deriving DecidableEq, Repr

structure Method where
  selector : String
  name : String
  result : CType := .void
  params : List Parameter := []
  ofClass : Bool := false
  doc : String := ""
  deriving DecidableEq, Repr

/-- What is declared. Incomplete compounds have no known layout; a typedef has no
underlying type while that type is being resolved. -/
inductive Body where
  | function (function : Function)
  | record (kind : RecordKind) (incomplete : Bool) (members : List Member)
  | enumeration (incomplete : Bool) (constants : List EnumConstant)
  | interface (incomplete : Bool) (superclass : Option String) (methods : List Method)
  | typedef (underlying : Option CType)
  | global (type : CType) (const : Bool) (exposesAddress : Bool)
  | constant (rawType : String) (value : Scalar)
  deriving Repr

/-- A declaration with its name in the headers and its name in the module. -/
structure Declaration where
  usr : String
  nativeName : String
  name : String
  doc : String := ""
  body : Body
  deriving Repr

namespace Function

def allParams (f : Function) : List Parameter := f.params ++ f.extra

def isSpecialization (f : Function) : Bool := f.suffix != ""

end Function

def RecordKind.keyword : RecordKind → String
  | .struct => "struct"
  | .union => "union"

/-- The kinds of declarations. -/
inductive DeclarationKind where
  | function | struct | union | enumeration | interface | typedef | global | constant
  deriving DecidableEq, Repr

def DeclarationKind.name : DeclarationKind → String
  | .function => "Func"
  | .struct => "Struct"
  | .union => "Union"
  | .enumeration => "EnumClass"
  | .interface => "ObjCInterface"
  | .typedef => "Typedef"
  | .global => "Global"
  | .constant => "Constant"

def RecordKind.declarationKind : RecordKind → DeclarationKind
  | .struct => .struct
  | .union => .union

namespace Body

def kind : Body → DeclarationKind
  | .function _ => .function
  | .record kind _ _ => kind.declarationKind
  | .enumeration _ _ => .enumeration
  | .interface _ _ _ => .interface
  | .typedef _ => .typedef
  | .global _ _ _ => .global
  | .constant _ _ => .constant

/-- Structs, unions, enumerations and interfaces. -/
def isCompound : Body → Bool
  | .record _ _ _ => true
  | .enumeration _ _ => true
  | .interface _ _ _ => true
  | _ => false

def isIncomplete : Body → Bool
  | .record _ incomplete _ => incomplete
  | .enumeration incomplete _ => incomplete
  | .interface incomplete _ _ => incomplete
  | _ => false

/-- What stands before the name of a compound. -/
def keyword : Body → String
  | .record kind _ _ => kind.keyword
  | .enumeration _ _ => "enum"
  | _ => ""

end Body

namespace Declaration

def kind (d : Declaration) : DeclarationKind := d.body.kind

def isCompound (d : Declaration) : Bool := d.body.isCompound

def isIncomplete (d : Declaration) : Bool := d.body.isIncomplete

/-- The C spelling of a compound. An interface is spelled by its name alone. -/
def spelling (d : Declaration) : String :=
  match d.body with
  | .interface _ _ _ => d.nativeName
  | body => String.ofList (trim (body.keyword ++ " " ++ d.nativeName).toList)

/-- A declaration in messages, around the text of its value if it is a constant. -/
def labelled (d : Declaration) (valueText : String) : String :=
  d.kind.name ++ "(" ++ d.name ++ valueText ++ ")"

def shown (d : Declaration) : Except Number.Overlong String :=
  match d.body with
  | .constant _ value => value.shown.map fun text => d.labelled ("=" ++ text)
  | _ => .ok (d.labelled "")

def logged (d : Declaration) : String :=
  match d.body with
  | .constant _ value => d.labelled ("=" ++ value.logged)
  | _ => d.labelled ""

def function? (d : Declaration) : Option Function :=
  match d.body with
  | .function f => some f
  | _ => none

def underlying? (d : Declaration) : Option CType :=
  match d.body with
  | .typedef underlying => underlying
  | _ => none

def isRecord (d : Declaration) : Bool :=
  match d.body with
  | .record _ _ _ => true
  | _ => false

def isTypedef (d : Declaration) : Bool := d.kind == .typedef

end Declaration

end LuaBinder
