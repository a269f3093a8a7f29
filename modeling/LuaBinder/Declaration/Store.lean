import LuaBinder.CType.Declarator
import LuaBinder.Declaration.Basic

namespace LuaBinder

open Text

/-! Published declarations, each under one key, in the order of publication. -/

structure Store where
  entries : List (String × Declaration) := []
  deriving Repr

/-- A key that is published already. -/
structure DuplicateKey where
  key : String
  deriving DecidableEq, Repr

def DuplicateKey.message (error : DuplicateKey) : String :=
  "declaration already published under USR " ++ quoted error.key

namespace Store

def lookup? (store : Store) (key : String) : Option Declaration :=
  (store.entries.find? (·.1 == key)).map (·.2)

def contains (store : Store) (key : String) : Bool := store.entries.any (·.1 == key)

def keys (store : Store) : List String := store.entries.map (·.1)

def size (store : Store) : Nat := store.entries.length

def insert (store : Store) (key : String) (declaration : Declaration) :
    Except DuplicateKey Store :=
  if store.contains key then .error ⟨key⟩
  else .ok ⟨store.entries ++ [(key, declaration)]⟩

/-- Changes one declaration in its place. -/
def modify (store : Store) (key : String) (change : Declaration → Declaration) : Store :=
  ⟨store.entries.map fun entry =>
    if entry.1 == key then (entry.1, change entry.2) else entry⟩

/-! What a type stands for depends on the declarations that it refers to. Typedefs are
followed at most once for each declaration. -/

def underlying? (store : Store) (key : String) : Option CType :=
  match store.lookup? key with
  | some declaration => declaration.underlying?
  | none => none

def baseWithin (store : Store) : Nat → CType → CType
  | 0, type => type
  | fuel + 1, type =>
      type.baseWith fun key => (store.underlying? key).map (store.baseWithin fuel)

/-- The type below all pointers, arrays and typedefs. -/
def base (store : Store) (type : CType) : CType := store.baseWithin (store.size + 1) type

/-- A type without a binding, possibly below other layers. -/
def isUnsupported (store : Store) (type : CType) : Bool := (store.base type).isUnsupported

/-- The type below all typedefs. -/
def targetWithin (store : Store) : Nat → CType → CType
  | fuel + 1, .typedef key =>
      match store.underlying? key with
      | some type => store.targetWithin fuel type
      | none => .typedef key
  | _, type => type

def target (store : Store) (type : CType) : CType := store.targetWithin (store.size + 1) type

/-- A compound without a known layout, used by value. -/
def isIncomplete (store : Store) (type : CType) : Bool :=
  match store.target type with
  | .compound key => ((store.lookup? key).map Declaration.isIncomplete).getD false
  | _ => false

/-- Array layers taken off; `unfold` continues below a typedef. -/
def heldWith (unfold : String → Option String) : CType → Option String
  | .array element _ => heldWith unfold element
  | .typedef key => unfold key
  | .compound key => some key
  | _ => none

def heldWithin (store : Store) : Nat → CType → Option String
  | 0, _ => none
  | fuel + 1, type =>
      heldWith (fun key => (store.underlying? key).bind (store.heldWithin fuel)) type

/-- The compound whose layout is part of the type's own, through arrays and typedefs. -/
def held? (store : Store) (type : CType) : Option String :=
  store.heldWithin (store.size + 1) type

def spelling (store : Store) : Spelling where
  compound key := ((store.lookup? key).map Declaration.spelling).getD ""
  typedef key := ((store.lookup? key).map (·.nativeName)).getD ""

def declare (store : Store) (type : CType) (name : String) : String :=
  type.declare store.spelling name

def boolText (value : Bool) : String := if value then "True" else "False"

mutual

/-- A type in messages. -/
def shownType (store : Store) : CType → String
  | .primitive primitive => "PrimitiveType(" ++ primitive.name ++ ")"
  | .pointer target const =>
      "PointerType(child=" ++ store.shownType target ++ ", const_pointee=" ++
        boolText const ++ ")"
  | .array element length =>
      let size := match length with
        | some n => toString n
        | none => "None"
      "ArrayType(child=" ++ store.shownType element ++ ", length=" ++ size ++ ")"
  | .compound key =>
      let text := match store.lookup? key with
        | some d => if d.nativeName == "" then d.usr else d.nativeName
        | none => key
      "CompoundType(" ++ text ++ ")"
  | .typedef key =>
      "TypedefType(" ++ ((store.lookup? key).map (·.nativeName)).getD "" ++ ")"
  | .function result params variadic =>
      "FunctionType(return_type=" ++ store.shownType result ++ ", parameters=[" ++
        String.intercalate ", " (store.shownParams params) ++ "], is_variadic=" ++
        boolText variadic ++ ")"
  | .unsupported reason => "UnimplementedType(reason=" ++ quoted reason ++ ")"

def shownParams (store : Store) : Params → List String
  | .nil => []
  | .cons name type rest =>
      ("Parameter(name=" ++ quoted name ++ ", type=" ++ store.shownType type ++
        ", original_name='')") :: store.shownParams rest

end

end Store

end LuaBinder
