import LuaBinder.CType.Primitive

namespace LuaBinder

/-! C types as trees. A compound or a typedef is referred to by the key of its
declaration. -/

mutual

inductive CType where
  | primitive (primitive : Primitive)
  | pointer (target : CType) (const : Bool)
  | array (element : CType) (length : Option Int)
  | compound (key : String)
  | typedef (key : String)
  | function (result : CType) (params : Params) (variadic : Bool)
  | unsupported (reason : String)

/-- The parameters of a function type, in order. -/
inductive Params where
  | nil
  | cons (name : String) (type : CType) (rest : Params)

end

deriving instance DecidableEq, Repr, Inhabited for CType, Params

namespace Params

def ofList : List (String × CType) → Params
  | [] => .nil
  | (name, type) :: rest => .cons name type (ofList rest)

def toList : Params → List (String × CType)
  | .nil => []
  | .cons name type rest => (name, type) :: rest.toList

@[simp] theorem toList_ofList (params : List (String × CType)) :
    (ofList params).toList = params := by
  induction params with
  | nil => rfl
  | cons head tail induction => simp [ofList, toList, induction]

@[simp] theorem ofList_toList : (params : Params) → ofList params.toList = params
  | .nil => rfl
  | .cons name type rest => by simp [ofList, toList, ofList_toList rest]

end Params

namespace CType

def void : CType := .primitive .void

def char : CType := .primitive .char

def isFunction : CType → Bool
  | .function _ _ _ => true
  | _ => false

def isUnsupported : CType → Bool
  | .unsupported _ => true
  | _ => false

/-- The type below all pointers, arrays and typedefs; `unfold` gives the base of a
typedef that has one. -/
def baseWith (unfold : String → Option CType) : CType → CType
  | .pointer target _ => target.baseWith unfold
  | .array element _ => element.baseWith unfold
  | .typedef key => (unfold key).getD (.typedef key)
  | type => type

end CType

mutual

/-- The declarations that a type mentions anywhere, from left to right. -/
def CType.mentions : CType → List String
  | .compound key => [key]
  | .typedef key => [key]
  | .pointer target _ => target.mentions
  | .array element _ => element.mentions
  | .function result params _ => result.mentions ++ params.mentions
  | _ => []

def Params.mentions : Params → List String
  | .nil => []
  | .cons _ type rest => type.mentions ++ rest.mentions

end

end LuaBinder
