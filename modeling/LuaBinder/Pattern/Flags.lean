import LuaBinder.Pattern.Folding

namespace LuaBinder.Pattern

/-! The flags that a pattern sets for itself. -/

structure Flags where
  ignoreCase : Bool := false
  locale : Bool := false
  multiline : Bool := false
  dotAll : Bool := false
  verbose : Bool := false
  ascii : Bool := false
  template : Bool := false
  unicode : Bool := false
  deriving DecidableEq, Repr

namespace Flags

def ofLetter? : Char → Option Flags
  | 'i' => some { ignoreCase := true }
  | 'L' => some { locale := true }
  | 'm' => some { multiline := true }
  | 's' => some { dotAll := true }
  | 'x' => some { verbose := true }
  | 'a' => some { ascii := true }
  | 't' => some { template := true }
  | 'u' => some { unicode := true }
  | _ => none

def union (a b : Flags) : Flags :=
  ⟨a.ignoreCase || b.ignoreCase, a.locale || b.locale, a.multiline || b.multiline,
    a.dotAll || b.dotAll, a.verbose || b.verbose, a.ascii || b.ascii,
    a.template || b.template, a.unicode || b.unicode⟩

def without (a b : Flags) : Flags :=
  ⟨a.ignoreCase && !b.ignoreCase, a.locale && !b.locale, a.multiline && !b.multiline,
    a.dotAll && !b.dotAll, a.verbose && !b.verbose, a.ascii && !b.ascii,
    a.template && !b.template, a.unicode && !b.unicode⟩

def none : Flags := {}

def isNone (a : Flags) : Bool := a == none

/-- The flags that choose a kind of text exclude each other. -/
def setsKind (a : Flags) : Bool := a.ascii || a.locale || a.unicode

def kind (a : Flags) : Flags :=
  { ascii := a.ascii, locale := a.locale, unicode := a.unicode }

/-- The flags inside a group that adds and removes some. -/
def inside (outer added removed : Flags) : Flags :=
  let base := if added.setsKind then outer.without outer.kind else outer
  (base.union added).without removed

def folding (a : Flags) : Folding :=
  if a.ignoreCase then (if a.ascii then .ascii else .full) else .exact

end Flags

end LuaBinder.Pattern
