import LuaBinder.CType.Basic

namespace LuaBinder

/-! Call signatures of variadic functions. Each configured signature becomes a
binding of its own with a fixed number of parameters. -/

structure CallSignature where
  suffix : String
  types : List CType
  deriving DecidableEq, Repr

namespace CallSignature

/-- Only the fixed parameters. -/
def fixedOnly : CallSignature := ⟨"", []⟩

end CallSignature

/-- The signatures of a function, by its name and in the order they were declared. -/
abbrev SignatureTable := List (String × List CallSignature)

namespace SignatureTable

def lookup (table : SignatureTable) (name : String) : List CallSignature :=
  ((table.find? (·.1 == name)).map (·.2)).getD []

/-- The signatures to bind; the flag tells that there are some but the function takes
no further arguments. -/
def specialize (table : SignatureTable) (name : String) (variadic : Bool) :
    List CallSignature × Bool :=
  match table.lookup name with
  | [] => ([.fixedOnly], false)
  | signatures => if variadic then (signatures, false) else ([.fixedOnly], true)

def declare (table : SignatureTable) (name : String) : SignatureTable :=
  if table.any (·.1 == name) then table else table ++ [(name, [])]

def add (table : SignatureTable) (name : String) (signature : CallSignature) :
    SignatureTable :=
  table.map fun entry =>
    if entry.1 == name then (entry.1, entry.2 ++ [signature]) else entry

end SignatureTable

end LuaBinder
