import LuaBinder.Json.Basic
import LuaBinder.LuaModule.Literal

namespace LuaBinder.LuaModule

open Text

/-! Why a module cannot be written. -/

inductive Fault where
  | number (error : NumberError)
  | untypedBase
  | untypedDeclarator
  | unknownConstant (rawType : String)
  | libraryNotText (value : Json)
  | libraryPart (value : Json)
  deriving Repr

def orFault (text : Except NumberError α) : Except Fault α := text.mapError .number

def Fault.message : Fault → String
  | .number error => error.message
  | .untypedBase => "'NoneType' object has no attribute 'base_type'"
  | .untypedDeclarator => "'NoneType' object has no attribute 'c_type'"
  | .unknownConstant rawType => quoted rawType
  | .libraryNotText value => quoted value.typeName ++ " object is not iterable"
  | .libraryPart (.string text) =>
      "ord() expected a character, but string of length " ++ toString text.length ++ " found"
  | .libraryPart value =>
      "ord() expected string of length 1, but " ++ value.typeName ++ " found"

end LuaBinder.LuaModule
