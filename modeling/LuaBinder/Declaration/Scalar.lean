import LuaBinder.Number.Format
import LuaBinder.Number.Limit
import LuaBinder.Text.Quoted

namespace LuaBinder

open Number Text

/-! The value of a constant. -/

inductive Scalar where
  | int (value : Int)
  | float (value : Binary64)
  | bool (value : Bool)
  | text (value : String)
  deriving Repr, Inhabited

namespace Scalar

/-- A value by itself. -/
def plain : Scalar → Except Overlong String
  | .int value => decimal value
  | .float value => .ok value.text
  | .bool value => .ok (if value then "True" else "False")
  | .text value => .ok value

/-- A value as messages show it: a text is quoted. -/
def shown : Scalar → Except Overlong String
  | .text value => .ok (quoted value)
  | scalar => scalar.plain

/-- A value in the log, where the reason stands for what cannot be written. -/
def logged (value : Scalar) : String :=
  match value.shown with
  | .ok written => written
  | .error error => error.message

end Scalar

end LuaBinder
