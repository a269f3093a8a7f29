import LuaBinder.CType.Reading
import LuaBinder.File.Tree
import LuaBinder.Json.Parser
import LuaBinder.Pattern.Template

namespace LuaBinder

open Text

/-! What can be wrong with a policy, and with a renaming rule when it is used. -/

namespace Policy

inductive Fault where
  | notMapping
  | unknownTopKeys (keys : List String)
  | mappingExpected (place : String)
  | unknownKeys (place : String) (keys : List String)
  | textsExpected (place : String)
  | textExpected (place : String)
  | mappingsExpected (place : String)
  | badComments
  | badCompilerOptions
  | badHeaders
  | listExpected (place : String)
  | signatureExpected (place : String)
  | badNative
  | badConvention (value : Json)
  | badPattern (place : String) (fault : Pattern.Fault)
  | badType (error : TypeTextError)
  | unreadable (path reason : String)
  deriving Repr

def Fault.message : Fault → String
  | .notMapping => "configuration must be a mapping"
  | .unknownTopKeys keys => "unknown configuration keys " ++ quotedList keys
  | .mappingExpected place => place ++ ": expected a mapping"
  | .unknownKeys place keys => place ++ ": unknown keys " ++ quotedList keys
  | .textsExpected place => place ++ ": expected a list of strings"
  | .textExpected place => place ++ ": expected a string"
  | .mappingsExpected place => place ++ ": expected a mapping of mappings"
  | .badComments => "comments: expected true or false"
  | .badCompilerOptions => "compiler-opts: expected a string or list of strings"
  | .badHeaders =>
      "headers: entry-points and include-directives must be lists of strings"
  | .listExpected place => place ++ ": expected a list"
  | .signatureExpected place =>
      place ++ ": expected \x7b\"types\": [...], \"postfix\": \"...\"\x7d"
  | .badNative => "native: expected a mapping with library and/or convention"
  | .badConvention value =>
      "native.convention: unsupported calling convention " ++ value.shown
  | .badPattern place fault => place ++ ": invalid pattern: " ++ fault.message
  | .badType error => error.message
  | .unreadable path reason => "cannot read " ++ path ++ ": " ++ reason

/-- A policy is not accepted for a fault of its own; or reading it breaks off at a
pattern, a value or a path that cannot be handled at all. -/
inductive Error where
  | fault (fault : Fault)
  | pattern (error : Pattern.PatternError)
  | json (error : Json.ReadError)
  | path (error : FileError)
  deriving Repr

def Error.message : Error → String
  | .fault found => found.message
  | .pattern error => error.message
  | .path error => error.message
  | .json error => error.message

end Policy

/-- Why a selection has no answer for a name: a replacement cannot be read, or it is
no text at all, or a match cannot be told. -/
inductive SelectionError where
  | template (error : Pattern.TemplateError)
  | notText (replacement : Json)
  | match (fault : Pattern.MatchFault)
  deriving Repr

def SelectionError.message : SelectionError → String
  | .template error => error.message
  | .notText replacement =>
      match replacement with
      | .array _ | .object _ => "unhashable type: " ++ quoted replacement.typeName
      | _ =>
          "decoding to str: need a bytes-like object, " ++ replacement.typeName ++ " found"
  | .match fault => fault.message

end LuaBinder
