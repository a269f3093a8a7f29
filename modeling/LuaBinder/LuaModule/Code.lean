import LuaBinder.Text.Blank
import LuaBinder.Text.Lines

namespace LuaBinder.LuaModule

open Text

/-! Lines of code. Each line has a depth of indentation; an empty line is not
indented. -/

structure Line where
  depth : Nat
  text : String
  deriving DecidableEq, Repr

abbrev Code := List Line

def Line.render (line : Line) : String :=
  if line.text == "" then ""
  else String.ofList (List.replicate (4 * line.depth) ' ') ++ line.text

namespace Code

def line (text : String) : Code := [⟨0, text⟩]

def blank : Code := line ""

def ofLines (texts : List String) : Code := texts.flatMap line

def nest (depth : Nat) (code : Code) : Code :=
  code.map fun line => { line with depth := depth + line.depth }

/-- A comment marks each of its lines. -/
def commentLine (marker part : String) : String := trimRight (marker ++ " " ++ part)

def comment (marker text : String) : Code :=
  ofLines ((splitLines text).map (commentLine marker))

def block (header footer : String) (body : Code) : Code :=
  line header ++ nest 1 body ++ line footer

def render (code : Code) : String :=
  String.intercalate "\n" (code.map Line.render) ++ "\n"

end Code

/-- A text under construction, with the depth at which it goes on. -/
structure Writer where
  code : Code := []
  depth : Nat := 0
  deriving Repr

namespace Writer

def write (writer : Writer) (code : Code) : Writer :=
  { writer with code := writer.code ++ Code.nest writer.depth code }

def line (writer : Writer) (text : String) : Writer := writer.write (Code.line text)

def comment (writer : Writer) (marker text : String) : Writer :=
  writer.write (Code.comment marker text)

def indent (writer : Writer) : Writer := { writer with depth := writer.depth + 1 }

/-- The outermost depth stays. -/
def dedent (writer : Writer) : Writer := { writer with depth := writer.depth - 1 }

def block (writer : Writer) (header footer : String) (body : Writer → Writer) : Writer :=
  ((body (writer.line header).indent).dedent).line footer

def render (writer : Writer) : String := writer.code.render

end Writer

end LuaBinder.LuaModule
