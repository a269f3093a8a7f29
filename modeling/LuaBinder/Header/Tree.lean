namespace LuaBinder.Header

/-! Types as a compiler reports them. A type carries the types it is built from as
far as they are given; declarations are referred to by number. -/

structure TypeFacts (κ : Type) where
  kind : κ
  spelling : String
  const : Bool
  count : Int
  variadic : Bool
  declaration : Option Nat
  deriving Repr

mutual

inductive TypeTree (κ : Type) where
  | absent
  | known (facts : TypeFacts κ) (pointee element named result canonical : TypeTree κ)
      (arguments : TypeTrees κ)

inductive TypeTrees (κ : Type) where
  | nil
  | cons (first : TypeTree κ) (rest : TypeTrees κ)

end

deriving instance Inhabited for TypeTree, TypeTrees

def TypeTrees.ofList : List (TypeTree κ) → TypeTrees κ
  | [] => .nil
  | first :: rest => .cons first (ofList rest)

def TypeTrees.toList : TypeTrees κ → List (TypeTree κ)
  | .nil => []
  | .cons first rest => first :: rest.toList

namespace TypeTree

def facts? : TypeTree κ → Option (TypeFacts κ)
  | .absent => none
  | .known facts _ _ _ _ _ _ => some facts

def pointee : TypeTree κ → TypeTree κ
  | .absent => .absent
  | .known _ pointee _ _ _ _ _ => pointee

def element : TypeTree κ → TypeTree κ
  | .absent => .absent
  | .known _ _ element _ _ _ _ => element

def named : TypeTree κ → TypeTree κ
  | .absent => .absent
  | .known _ _ _ named _ _ _ => named

def result : TypeTree κ → TypeTree κ
  | .absent => .absent
  | .known _ _ _ _ result _ _ => result

/-- A type without another canonical form is its own. -/
def canonical : TypeTree κ → TypeTree κ
  | .absent => .absent
  | .known facts pointee element named result .absent arguments =>
      .known facts pointee element named result .absent arguments
  | .known _ _ _ _ _ canonical _ => canonical

def arguments : TypeTree κ → List (TypeTree κ)
  | .absent => []
  | .known _ _ _ _ _ _ arguments => arguments.toList

def spelling (type : TypeTree κ) : String := (type.facts?.map (·.spelling)).getD ""

def isConst (type : TypeTree κ) : Bool := (type.facts?.map (·.const)).getD false

def count (type : TypeTree κ) : Int := (type.facts?.map (·.count)).getD (-1)

def isVariadic (type : TypeTree κ) : Bool := (type.facts?.map (·.variadic)).getD false

def declaration? (type : TypeTree κ) : Option Nat := type.facts?.bind (·.declaration)

end TypeTree

mutual

def TypeTree.map (f : TypeFacts κ → TypeFacts ι) : TypeTree κ → TypeTree ι
  | .absent => .absent
  | .known facts pointee element named result canonical arguments =>
      .known (f facts) (pointee.map f) (element.map f) (named.map f) (result.map f)
        (canonical.map f) (arguments.map f)

def TypeTrees.map (f : TypeFacts κ → TypeFacts ι) : TypeTrees κ → TypeTrees ι
  | .nil => .nil
  | .cons first rest => .cons (first.map f) (rest.map f)

end

end LuaBinder.Header
