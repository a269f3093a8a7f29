import LuaBinder.Text.Quoted

namespace LuaBinder

/-! Why a declaration was dropped, or a piece of configuration was of no use. -/

inductive Category where
  | unsupportedConstruct
  | configurationMismatch
  deriving DecidableEq, Repr

inductive Reason where
  | inlineFunction
  | incompleteByValue
  | unimplementedType
  | unsupportedMember
  | variadicMismatch
  deriving DecidableEq, Repr

namespace Category

def name : Category → String
  | .unsupportedConstruct => "unsupported-construct"
  | .configurationMismatch => "configuration-mismatch"

def ofName? (text : String) : Option Category :=
  [unsupportedConstruct, configurationMismatch].find? (·.name == text)

end Category

namespace Reason

def name : Reason → String
  | .inlineFunction => "inline-function"
  | .incompleteByValue => "incomplete-by-value"
  | .unimplementedType => "unimplemented-type"
  | .unsupportedMember => "unsupported-member"
  | .variadicMismatch => "variadic-config-mismatch"

def all : List Reason :=
  [inlineFunction, incompleteByValue, unimplementedType, unsupportedMember, variadicMismatch]

def ofName? (text : String) : Option Reason := all.find? (·.name == text)

def category : Reason → Category
  | .variadicMismatch => .configurationMismatch
  | _ => .unsupportedConstruct

end Reason

/-- A text that names no reason or no category. -/
structure UnknownName where
  text : String
  sort : String
  deriving DecidableEq, Repr

def UnknownName.message (error : UnknownName) : String :=
  Text.quoted error.text ++ " is not a valid " ++ error.sort

def Reason.read (text : String) : Except UnknownName Reason :=
  match Reason.ofName? text with
  | some reason => .ok reason
  | none => .error ⟨text, "Reason"⟩

def Category.read (text : String) : Except UnknownName Category :=
  match Category.ofName? text with
  | some category => .ok category
  | none => .error ⟨text, "Category"⟩

structure Diagnostic where
  name : String
  usr : String
  reason : Reason
  message : String := ""
  deriving DecidableEq, Repr

namespace Diagnostic

def category (d : Diagnostic) : Category := d.reason.category

def text (d : Diagnostic) : String :=
  d.name ++ ": " ++ d.reason.name ++
    (if d.message == "" then "" else " (" ++ d.message ++ ")")

def byReason (reason : Reason) (diagnostics : List Diagnostic) : List Diagnostic :=
  diagnostics.filter (·.reason == reason)

def byCategory (category : Category) (diagnostics : List Diagnostic) : List Diagnostic :=
  diagnostics.filter (·.category == category)

end Diagnostic

end LuaBinder
