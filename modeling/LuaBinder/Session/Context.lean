import LuaBinder.Text.Quoted

namespace LuaBinder.Session

open Text

/-! What is known of the declarations being visited. A visit that leads to another
one pushes a frame of its own and leaves the frames below alone. -/

/-- A frame is told from the others by its number. -/
structure Frame where
  number : Nat
  name : String
  declarations : List String := []
  incompleteParameter : Bool := false
  unsupportedParameter : Bool := false
  deriving DecidableEq, Repr

/-- The innermost frame comes first. -/
abbrev Context := List Frame

inductive ContextError where
  | noFrame
  | outOfOrder (name : String)
  | leftOpen (count : Nat)
  deriving DecidableEq, Repr

def ContextError.message : ContextError → String
  | .noFrame => "no declaration is being parsed"
  | .outOfOrder name => "parse context for " ++ quoted name ++ " popped out of order"
  | .leftOpen count => toString count ++ " parse context(s) left open after the run"

namespace Context

def top (context : Context) : Except ContextError Frame :=
  match context with
  | [] => .error .noFrame
  | frame :: _ => .ok frame

def push (context : Context) (frame : Frame) : Context := frame :: context

/-- Only the innermost frame can be popped. -/
def pop (context : Context) (number : Nat) (name : String) :
    Except ContextError (Frame × Context) :=
  match context with
  | frame :: rest =>
      if frame.number == number then .ok (frame, rest) else .error (.outOfOrder name)
  | [] => .error (.outOfOrder name)

/-- Changes a frame wherever it stands. -/
def modify (context : Context) (number : Nat) (change : Frame → Frame) : Context :=
  context.map fun frame => if frame.number == number then change frame else frame

def declare (context : Context) (name : String) : Except ContextError Context := do
  let frame ← context.top
  return context.modify frame.number fun f =>
    { f with declarations := f.declarations ++ [name] }

end Context

end LuaBinder.Session
