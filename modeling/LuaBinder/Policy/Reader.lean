import LuaBinder.File.Tree
import LuaBinder.Policy.Basic
import LuaBinder.Text.Lines
import LuaBinder.Text.Order

namespace LuaBinder

/-! Policies as JSON mappings with hyphenated keys. Everything that a mapping may not
hold is a fault; a key that is absent leaves the default. -/

namespace Policy

def fail (fault : Fault) : Except Error α := .error (.fault fault)

def check (ok : Bool) (fault : Fault) : Except Error Unit :=
  if ok then .ok () else fail fault

def unknownKeys (known : List String) (fields : List (String × Json)) : List String :=
  Text.sortTexts ((fields.map (·.1)).filter fun key => !known.contains key)

def getField (fields : List (String × Json)) (key : String) : Option Json :=
  (fields.find? (·.1 == key)).map (·.2)

def dropFields (keys : List String) (fields : List (String × Json)) :
    List (String × Json) :=
  fields.filter fun field => !keys.contains field.1

/-- A list of texts, or nothing for an absent or empty value. -/
def optionalTexts (place : String) : Json → Except Error (Option (List String))
  | .null => .ok none
  | value =>
      match value.strings? with
      | some texts => .ok (some texts)
      | none => fail (.textsExpected place)

def expectText (place : String) : Json → Except Error String
  | .string text => .ok text
  | _ => fail (.textExpected place)

def selectionKeys : List String :=
  ["include", "exclude", "rename", "member-rename", "symbol-address"]

/-- The names whose address is exposed, as a list or as a mapping that includes it. -/
def addressList (fields : List (String × Json)) : Json :=
  match (getField fields "symbol-address").getD .null with
  | .object inner => (getField inner "include").getD (.array [])
  | other => other

def selectionOfFields (place : String) (fields : List (String × Json)) :
    Except Error Selection := do
  let unknown := unknownKeys selectionKeys fields
  check unknown.isEmpty (.unknownKeys place unknown)
  let listed (key : String) (value : Json) := optionalTexts (place ++ "." ++ key) value
  let included ← listed "include" ((getField fields "include").getD .null)
  let excluded ← listed "exclude" ((getField fields "exclude").getD .null)
  let addresses ← listed "symbol-address" (addressList fields)
  let memberRenames := (getField fields "member-rename").getD (.object [])
  let owners ←
    match memberRenames.fields?.bind fun entries =>
      entries.mapM fun entry => entry.2.fields?.map (entry.1, ·) with
    | some owners => pure owners
    | none => fail (.mappingsExpected (place ++ ".member-rename"))
  match (getField fields "rename").getD (.object []) with
  | .object renames =>
      SelectionText.read
        { included, excluded := excluded.getD [], renames, memberRenames := owners,
          addresses := addresses.getD [] }
  | _ => fail (.mappingExpected (place ++ ".rename"))

/-- `null` stands for the selection that includes everything. -/
def selectionOf (place : String) : Json → Except Error Selection
  | .null => .ok {}
  | .object fields => selectionOfFields place fields
  | _ => fail (.mappingExpected place)

/-- A signature is a list of types, or a mapping with the types and a suffix. -/
def signatureOf (place : String) (index : Nat) (entry : Json) :
    Except Error CallSignature := do
  let fields :=
    match entry with
    | .array _ => some [("types", entry)]
    | .object fields => some fields
    | _ => none
  match fields, fields.bind fun found => (getField found "types").bind Json.strings? with
  | some fields, some texts =>
      let suffix := (getField fields "postfix").getD (.string ("_" ++ toString (index + 1)))
      let suffix ← expectText (place ++ ".postfix") suffix
      match texts.mapM CType.ofText with
      | .ok types => return ⟨suffix, types⟩
      | .error error => fail (.badType error)
  | _, _ => fail (.signatureExpected place)

def signaturesPlace : String := "functions.variadic-arguments"

def signaturesFrom (place : String) : Nat → List Json → Except Error (List CallSignature)
  | _, [] => .ok []
  | index, entry :: rest => do
      let first ← signatureOf (place ++ "[" ++ toString index ++ "]") index entry
      return first :: (← signaturesFrom place (index + 1) rest)

def signatureTableOf : Json → Except Error SignatureTable
  | .object fields =>
      fields.mapM fun (name, entries) => do
        let place := signaturesPlace ++ "." ++ name
        match entries with
        | .array items => return (name, ← signaturesFrom place 0 items)
        | _ => fail (.listExpected place)
  | _ => fail (.mappingExpected signaturesPlace)

def topFields : List String :=
  ["module", "output", "headers", "compiler-opts", "comments", "functions", "native"] ++
    SelectionKind.plain.map (·.name)

def compilerOptionsOf (value : Json) : Except Error (List String) :=
  match value with
  | .string text => .ok (Text.splitWords text)
  | other =>
      match other.strings? with
      | some texts => .ok texts
      | none => fail .badCompilerOptions

/-- Entry points and include directives. -/
def headersOf : Json → Except Error (List String × List String)
  | .object fields =>
      let listed (key : String) := ((getField fields key).getD (.array [])).strings?
      match listed "entry-points", listed "include-directives" with
      | some entryPoints, some directives => .ok (entryPoints, directives)
      | _, _ => fail .badHeaders
  | _ => fail (.mappingExpected "headers")

def conventions : List String := ["cdecl", "stdcall", "fastcall"]

def nativeOf : Json → Except Error Native
  | .object fields => do
      check (unknownKeys ["library", "convention"] fields).isEmpty .badNative
      let library := (getField fields "library").getD .null
      match (getField fields "convention").getD .null with
      | .null => return ⟨library, none⟩
      | .string name =>
          if conventions.contains name then return ⟨library, some name⟩
          else fail (.badConvention (.string name))
      | other => fail (.badConvention other)
  | _ => fail .badNative

/-- The function selection, which also holds the selections of leaf functions and of
exposed function types, and the call signatures. -/
def withFunctions (policy : Policy) (value : Json) : Except Error Policy := do
  match if value.holds then value else .object [] with
  | .object fields =>
      let optional (key : String) (default : Selection) : Except Error Selection :=
        match (getField fields key).getD .null with
        | .null => .ok default
        | value => selectionOf ("functions." ++ key) value
      let own := dropFields ["leaf", "expose-typedefs", "variadic-arguments"] fields
      let functions ← selectionOf "functions" (.object own)
      let leafFunctions ← optional "leaf" policy.leafFunctions
      let functionTypes ← optional "expose-typedefs" policy.functionTypes
      let signatures ←
        signatureTableOf ((getField fields "variadic-arguments").getD (.object []))
      return { policy with functions, leafFunctions, functionTypes, signatures }
  | _ => fail (.mappingExpected "functions")

def withSelections (fields : List (String × Json)) (policy : Policy) :
    Except Error Policy :=
  SelectionKind.plain.foldlM
    (fun policy kind =>
      match getField fields kind.name with
      | some value => do return policy.withSelection (← selectionOf kind.name value) kind
      | none => .ok policy)
    policy

def optionalText (fields : List (String × Json)) (key default : String) :
    Except Error String :=
  match getField fields key with
  | some value => expectText key value
  | none => .ok default

def ofFields (fields : List (String × Json)) : Except Error Policy := do
  let unknown := unknownKeys topFields fields
  check unknown.isEmpty (.unknownTopKeys unknown)
  let policy : Policy := {}
  let moduleName ← optionalText fields "module" policy.moduleName
  let output ← optionalText fields "output" policy.output
  let comments ←
    match getField fields "comments" with
    | none => pure policy.comments
    | some (.bool value) => pure value
    | some _ => fail .badComments
  let compilerOptions ←
    match getField fields "compiler-opts" with
    | none => pure policy.compilerOptions
    | some value => compilerOptionsOf value
  let (entryPoints, includeDirectives) ←
    headersOf ((getField fields "headers").getD (.object []))
  let policy :=
    { policy with
      moduleName, output, comments, compilerOptions, entryPoints, includeDirectives }
  let policy ← policy.withFunctions ((getField fields "functions").getD .null)
  let policy ← policy.withSelections fields
  let native ← nativeOf ((getField fields "native").getD (.object []))
  return { policy with native }

def ofJson : Json → Except Error Policy
  | .object fields => ofFields fields
  | _ => fail .notMapping

/-- A policy file; both forms of a carriage return end a line in it. -/
def ofText (path text : String) : Except Error Policy :=
  match Json.parse (String.ofList (Text.readNewlines text.toList)) with
  | .ok value => ofJson value
  | .error (.malformed cause position line column) =>
      fail (.unreadable path (Json.ReadError.malformed cause position line column).message)
  | .error error => .error (.json error)

/-- A policy file, or why it cannot be read. -/
def ofFile (path : String) : Except FileError String → Except Error Policy
  | .ok text => ofText path text
  | .error error =>
      if error.fault == .nullCharacter then .error (.path error)
      else fail (.unreadable path error.message)

end Policy

end LuaBinder
