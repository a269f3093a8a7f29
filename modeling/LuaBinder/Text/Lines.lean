namespace LuaBinder.Text

/-! Lines of a text. A line ends at a line feed, a carriage return, both in that
order, or one of eight other separators; no line follows the last separator. -/

def isLineEnd (c : Char) : Bool :=
  (10 ≤ c.toNat && c.toNat ≤ 13) || (28 ≤ c.toNat && c.toNat ≤ 30) ||
  c.toNat == 0x85 || c.toNat == 0x2028 || c.toNat == 0x2029

/-- `line` holds the characters of the current line read so far. -/
def linesFrom (line : List Char) : List Char → List (List Char)
  | [] => if line.isEmpty then [] else [line]
  | '\r' :: '\n' :: rest => line :: linesFrom [] rest
  | c :: rest =>
      if isLineEnd c then line :: linesFrom [] rest else linesFrom (line ++ [c]) rest

def lines (text : List Char) : List (List Char) := linesFrom [] text

def splitLines (text : String) : List String := (lines text.toList).map String.ofList

/-- Line ends of a text file: both carriage return forms read as a line feed. -/
def readNewlines : List Char → List Char
  | [] => []
  | '\r' :: '\n' :: rest => '\n' :: readNewlines rest
  | '\r' :: rest => '\n' :: readNewlines rest
  | c :: rest => c :: readNewlines rest

end LuaBinder.Text
