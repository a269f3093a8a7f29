import LuaBinder.Declaration.Basic

namespace LuaBinder.LuaModule

/-! The names of a Lua module. A name belongs to the first declaration that asks for
it; the sections ask one after the other. -/

/-- A declaration with the key that it is published under. -/
abbrev Binding := String × Declaration

inductive Section where
  | functions
  | enums
  | constants
  | types
  | globals
  | classes
  deriving DecidableEq, Repr

namespace Section

def all : List Section := [functions, enums, constants, types, globals, classes]

def name : Section → String
  | functions => "functions"
  | enums => "enums"
  | constants => "constants"
  | types => "types"
  | globals => "globals"
  | classes => "classes"

/-- An enumeration without known constants has no table. -/
def admits (s : Section) (d : Declaration) : Bool :=
  match s, d.body with
  | functions, .function _ => true
  | enums, .enumeration incomplete _ => !incomplete
  | constants, .constant _ _ => true
  | types, .record _ _ _ => true
  | types, .typedef _ => true
  | globals, .global _ _ _ => true
  | classes, .interface _ _ _ => true
  | _, _ => false

/-- The names that a declaration needs, its own name first. -/
def needs (s : Section) (d : Declaration) : List String :=
  match s with
  | globals => [d.name, "get_" ++ d.name, "set_" ++ d.name]
  | _ => [d.name]

end Section

/-- A declaration that asks for names in a section. -/
structure Candidate where
  place : Section
  binding : Binding
  deriving Repr

namespace Candidate

def names (c : Candidate) : List String := c.place.needs c.binding.2

end Candidate

def candidates (bindings : List Binding) : List Candidate :=
  Section.all.flatMap fun s =>
    (bindings.filter fun binding => s.admits binding.2).map fun binding => ⟨s, binding⟩

/-- Which candidates got their names and which did not, each in order. -/
structure Layout where
  exposed : List Candidate := []
  refused : List Candidate := []
  deriving Repr

namespace Layout

def taken (layout : Layout) : List String := layout.exposed.flatMap Candidate.names

def grant (layout : Layout) (c : Candidate) : Layout :=
  if c.names.any layout.taken.contains then
    { layout with refused := layout.refused ++ [c] }
  else { layout with exposed := layout.exposed ++ [c] }

def of (bindings : List Binding) : Layout := (candidates bindings).foldl grant {}

def within (layout : Layout) (s : Section) : List Binding :=
  (layout.exposed.filter (·.place == s)).map (·.binding)

end Layout

end LuaBinder.LuaModule
