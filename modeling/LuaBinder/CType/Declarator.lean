import LuaBinder.CType.Basic
import LuaBinder.Text.Blank

namespace LuaBinder

open Text

/-! C declarators: a type written around the name that it declares. -/

/-- How declarations are spelled in C. -/
structure Spelling where
  compound : String → String
  typedef : String → String

/-- A type name, a blank and the declarator; without a declarator no blank. -/
def nameThen (type name : String) : String := trimRight (type ++ " " ++ name)

/-- What stands between the parentheses of a function declarator. -/
def parameterList (params : List String) (variadic : Bool) : String :=
  let listed := String.intercalate ", " params
  if variadic then (if listed == "" then "..." else listed ++ ", ...")
  else if listed == "" then "void"
  else listed

mutual

/-- The declarator grows outward from the name: a pointer to an array or to a
function needs parentheses, any other pointer does not. -/
def CType.declare (spelling : Spelling) : CType → String → String
  | .primitive primitive, name => nameThen primitive.spelling name
  | .pointer (.array element length) _, name =>
      (CType.array element length).declare spelling ("(*" ++ name ++ ")")
  | .pointer (.function result params variadic) _, name =>
      (CType.function result params variadic).declare spelling ("(*" ++ name ++ ")")
  | .pointer target const, name =>
      let text := target.declare spelling ("*" ++ name)
      if const then "const " ++ text else text
  | .array element length, name =>
      let size := match length with
        | none => ""
        | some n => toString n
      element.declare spelling (name ++ "[" ++ size ++ "]")
  | .compound key, name => nameThen (spelling.compound key) name
  | .typedef key, name => nameThen (spelling.typedef key) name
  | .function result params variadic, name =>
      let inner := parameterList (params.declareAll spelling) variadic
      result.declare spelling (name ++ "(" ++ inner ++ ")")
  | .unsupported reason, name =>
      nameThen ("/* unimplemented: " ++ reason ++ " */ void") name

/-- Parameters are declared without their names. -/
def Params.declareAll (spelling : Spelling) : Params → List String
  | .nil => []
  | .cons _ type rest => type.declare spelling "" :: rest.declareAll spelling

end

/-- A spelling for types that refer to no declaration. -/
def Spelling.plain : Spelling := ⟨id, id⟩

end LuaBinder
