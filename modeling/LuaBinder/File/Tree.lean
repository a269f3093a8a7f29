import LuaBinder.File.Path
import LuaBinder.Text.Quoted

namespace LuaBinder

open Text

/-! Files and directories below a working directory. -/

inductive FileFault where
  | notFound
  | alreadyThere
  | notDirectory
  | isDirectory
  | nameTooLong
  | nullCharacter
  deriving DecidableEq, Repr

def FileFault.text : FileFault → String
  | .notFound => "[Errno 2] No such file or directory"
  | .alreadyThere => "[Errno 17] File exists"
  | .notDirectory => "[Errno 20] Not a directory"
  | .isDirectory => "[Errno 21] Is a directory"
  | .nameTooLong => "[Errno 36] File name too long"
  | .nullCharacter => "embedded null byte"

/-- Why a path cannot be used. -/
structure FileError where
  fault : FileFault
  path : String
  deriving DecidableEq, Repr

/-- A path with a null character is not repeated. -/
def FileError.message (error : FileError) : String :=
  if error.fault == .nullCharacter then error.fault.text
  else error.fault.text ++ ": " ++ quoted error.path

inductive FileEntry where
  | directory
  | file (text : String)
  deriving DecidableEq, Repr

/-- The names from the working directory to an entry. The directories above it are
reached by two dots, and the root by a slash. -/
abbrev Place := List String

namespace Place

def isAbove (place : Place) : Bool := place == ["/"] || place.all (· == "..")

def parent (place : Place) : Place :=
  if place == ["/"] then place
  else if place.isAbove then place ++ [".."]
  else place.dropLast

def step (place : Place) (name : String) : Place :=
  if name == "" || name == "." then place
  else if name == ".." then place.parent
  else place ++ [name]

def path : Place → String
  | "/" :: names => "/" ++ String.intercalate "/" names
  | names => String.intercalate "/" names

end Place

/-- The most bytes of one name. -/
def nameLimit : Nat := 255

/-- The most bytes of a path. -/
def pathLimit : Nat := 4095

/-- Some texts are no path, whatever files there are. -/
def checkPath (path : String) : Except FileFault Unit :=
  if path.toList.contains (Char.ofNat 0) then .error .nullCharacter
  else if path == "" then .error .notFound
  else if pathLimit < path.utf8ByteSize then .error .nameTooLong
  else .ok ()

structure FileTree where
  entries : List (Place × FileEntry) := []
  deriving Repr

namespace FileTree

def entry? (tree : FileTree) (place : Place) : Option FileEntry :=
  if place.isAbove then some .directory
  else (tree.entries.find? (·.1 == place)).map (·.2)

def set (tree : FileTree) (place : Place) (entry : FileEntry) : FileTree :=
  ⟨tree.entries.filter (·.1 != place) ++ [(place, entry)]⟩

/-- Every name but the last has to be the name of a directory. -/
def walk (tree : FileTree) (place : Place) : List String → Except FileFault Place
  | [] => .ok place
  | name :: rest =>
      match tree.entry? place with
      | none => .error .notFound
      | some (.file _) => .error .notDirectory
      | some .directory =>
          if nameLimit < name.utf8ByteSize then .error .nameTooLong
          else tree.walk (place.step name) rest

def reach (tree : FileTree) (path : String) : Except FileFault Place :=
  tree.walk (if Path.isAbsolute path then ["/"] else []) (Path.names path)

def place? (tree : FileTree) (path : String) : Except FileFault Place := do
  checkPath path
  tree.reach path

def find? (tree : FileTree) (path : String) : Option FileEntry :=
  match tree.place? path with
  | .ok place => tree.entry? place
  | .error _ => none

def read (tree : FileTree) (path : String) : Except FileError String := do
  let place ← (tree.place? path).mapError (⟨·, path⟩)
  match tree.entry? place with
  | none => .error ⟨.notFound, path⟩
  | some .directory => .error ⟨.isDirectory, path⟩
  | some (.file text) => .ok text

def write (tree : FileTree) (path text : String) : Except FileError FileTree := do
  let place ← (tree.place? path).mapError (⟨·, path⟩)
  match tree.entry? place with
  | some .directory => .error ⟨.isDirectory, path⟩
  | _ => .ok (tree.set place (.file text))

def makeDirectory (tree : FileTree) (path : String) : Except FileError FileTree := do
  (checkPath path).mapError (⟨·, path⟩)
  let name := String.ofList (Path.dropSlashes path.toList)
  let place ← (tree.reach (if name == "" then path else name)).mapError (⟨·, path⟩)
  match tree.entry? place with
  | some _ => .error ⟨.alreadyThere, path⟩
  | none => .ok (tree.set place .directory)

/-- The directory above the last name of a path, with that name. -/
def above (path : String) : String × String :=
  let (directory, name) := Path.split path.toList
  let (directory, name) := if name.isEmpty then Path.split directory else (directory, name)
  (String.ofList directory, String.ofList name)

/-- A directory that may be there already. -/
def ensureDirectory (tree : FileTree) (path : String) : FileTree × Option FileError :=
  match tree.makeDirectory path with
  | .ok tree => (tree, none)
  | .error error =>
      if tree.find? path == some .directory then (tree, none) else (tree, some error)

/-- Makes a directory and those above it. What was made stays if a later one cannot be
made. -/
def ensureWithin : Nat → FileTree → String → FileTree × Option FileError
  | 0, tree, path => tree.ensureDirectory path
  | fuel + 1, tree, path =>
      let (directory, name) := above path
      if directory != "" && name != "" && (tree.find? directory).isNone then
        match ensureWithin fuel tree directory with
        | (tree, some error) =>
            if error.fault == .alreadyThere then tree.ensureDirectory path
            else (tree, some error)
        | (tree, none) => if name == "." then (tree, none) else tree.ensureDirectory path
      else tree.ensureDirectory path

def ensureDirectories (tree : FileTree) (path : String) : FileTree × Option FileError :=
  ensureWithin path.length tree path

/-- The files with their paths from the working directory. -/
def files (tree : FileTree) : List (String × String) :=
  tree.entries.filterMap fun entry =>
    match entry.2 with
    | .file text => some (entry.1.path, text)
    | .directory => none

/-- A tree that holds a file and the directories above it. -/
def withFile (tree : FileTree) (path text : String) : FileTree :=
  let (tree, _) := tree.ensureDirectories (above path).1
  match tree.write path text with
  | .ok tree => tree
  | .error _ => tree

end FileTree

end LuaBinder
