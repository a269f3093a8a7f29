import LuaBinder.LuaModule.Layout
import LuaBinder.Session.Visit

namespace LuaBinder.Session

open Header

/-! A run over the top-level declarations of a header. -/

/-- The typedefs at the top name the anonymous compounds they stand for. -/
def typedefNames (forest : Forest) (top : List Nat) : List (String × String) :=
  top.foldl
    (fun names number =>
      let c := forest.cursor number
      if c.kind != .typedef then names
      else
        match anonymousTag? forest c.underlying with
        | none => names
        | some tag =>
            let usr := (forest.cursor tag).usr
            if names.any (·.1 == usr) then names else names ++ [(usr, c.spelling)])
    []

/-- The word for a nameless compound in its generated name. -/
def kindWord (d : Declaration) : String :=
  match d.kind with
  | .enumeration => "Enum"
  | kind => kind.name

/-- Nameless compounds get names that count them by kind, in order of publication. -/
def nameAll (counts : List (String × Nat)) :
    List (String × Declaration) → List (String × Declaration)
  | [] => []
  | (key, d) :: rest =>
      if d.isCompound && d.nativeName == "" then
        let word := kindWord d
        let count := (((counts.find? (·.1 == word)).map (·.2)).getD 0) + 1
        let name := "Unnamed" ++ word ++ toString count
        (key, { d with nativeName := name, name }) ::
          nameAll ((word, count) :: counts) rest
      else (key, d) :: nameAll counts rest

def nameAnonymous : Step Unit :=
  modify fun s => { s with store := ⟨nameAll [] s.store.entries⟩ }

/-- A typedef without a bound type is published but not emitted. -/
def isEmitted (store : Store) (d : Declaration) : Bool :=
  match d.body with
  | .typedef (some type) => !store.isUnsupported type
  | .typedef none => false
  | _ => true

def emitted (store : Store) : List String :=
  (store.entries.filter fun entry => isEmitted store entry.2).map (·.1)

def visitAll : List Nat → Step Unit
  | [] => return ()
  | number :: rest => do
      let _ ← visit number
      visitAll rest

/-- Visits everything at the top and gives the USRs of what is emitted. -/
def runAll (top : List Nat) : Step (List String) := do
  let forest ← read
  modify fun s => { s with typedefNamed := typedefNames forest top }
  visitAll top
  let count := (← get).context.length
  if count != 0 then throw (.context (.leftOpen count))
  nameAnonymous
  let bindings := emitted (← getStore)
  debug "parser" ("Parsed " ++ toString bindings.length ++ " declarations, " ++
    toString (← get).diagnostics.length ++ " diagnostics")
  return bindings

/-- Published declarations by their USRs. -/
def bindingsOf (store : Store) (usrs : List String) : List LuaModule.Binding :=
  usrs.filterMap fun usr => (store.lookup? usr).map (usr, ·)

/-- What the layout of a module tells about names that were taken. -/
def layoutLog (bindings : List LuaModule.Binding) : List LogRecord :=
  (LuaModule.Layout.of bindings).refused.map fun c =>
    ⟨.debug, "ffi_gen.luajit",
      "Lua name " ++ c.binding.2.name ++ " already taken, not exposing " ++
        c.binding.2.logged⟩

end LuaBinder.Session
