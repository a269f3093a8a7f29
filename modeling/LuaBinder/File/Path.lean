namespace LuaBinder.Path

/-! Paths: names between slashes. -/

/-- The names between the slashes, empty ones included. -/
def namesFrom (name : List Char) : List Char → List (List Char)
  | [] => [name]
  | c :: rest => if c == '/' then name :: namesFrom [] rest else namesFrom (name ++ [c]) rest

def names (path : String) : List String :=
  (namesFrom [] path.toList).map String.ofList

def isAbsolute (path : String) : Bool := path.toList.head? == some '/'

/-- A path below a directory; an absolute path stands by itself. -/
def join (directory path : String) : String :=
  if isAbsolute path then path
  else if directory == "" || directory.toList.getLast? == some '/' then directory ++ path
  else directory ++ "/" ++ path

/-- Everything up to the last slash, and the name after it. -/
def splitLast (path : List Char) : List Char × List Char :=
  ((path.reverse.dropWhile (· != '/')).reverse,
    (path.reverse.takeWhile (· != '/')).reverse)

def dropSlashes (path : List Char) : List Char := (path.reverse.dropWhile (· == '/')).reverse

/-- The directory and the last name; the slashes between them are dropped unless the
directory is the root. -/
def split (path : List Char) : List Char × List Char :=
  let (directory, name) := splitLast path
  (if (dropSlashes directory).isEmpty then directory else dropSlashes directory, name)

def baseName (path : String) : String := String.ofList (splitLast path.toList).2

/-- One step of a normal form, innermost name first. A name is taken back by two dots
after it; above the root there is nothing. -/
def pushName (absolute : Bool) (above : List String) (name : String) : List String :=
  if name == "" || name == "." then above
  else if name == ".." then
    match above with
    | [] => if absolute then [] else [name]
    | top :: rest => if top == ".." then name :: above else rest
  else name :: above

/-- The path without empty steps. Two slashes in front differ from one. -/
structure Normal where
  slashes : Nat
  names : List String
  deriving DecidableEq, Repr

def leadingSlashes (path : List Char) : Nat :=
  match (path.takeWhile (· == '/')).length with
  | 0 => 0
  | 2 => 2
  | _ => 1

def normal (path : String) : Normal :=
  ⟨leadingSlashes path.toList,
    ((names path).foldl (pushName (isAbsolute path)) []).reverse⟩

/-- Two paths from one directory that lead to the same place. -/
def same (first second : String) : Bool := normal first == normal second

end LuaBinder.Path
