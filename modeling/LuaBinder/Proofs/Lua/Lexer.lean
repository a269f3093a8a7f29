import LuaBinder.Proofs.LuaModule.Fields
import LuaBinder.Proofs.CType.Tokens
import Mathlib.Data.Bool.AllAny

namespace LuaBinder.Lua

open Text LuaModule

/-! Lua source is bytes. -/

/-- A text in UTF-8. -/
def bytes (text : String) : List UInt8 := text.toUTF8.data.toList

theorem bytes_eq (text : String) : bytes text = text.toList.flatMap String.utf8EncodeChar := by
  have encoded := @String.toByteArray_ofList text.toList
  rw [String.ofList_toList] at encoded
  rw [bytes, String.toUTF8, encoded, List.utf8Encode, List.toList_data_toByteArray]

@[simp] theorem bytes_append (front back : String) :
    bytes (front ++ back) = bytes front ++ bytes back := by
  simp [bytes_eq]

theorem bytes_injective {text other : String} (same : bytes text = bytes other) : text = other :=
  String.toByteArray_inj.mp (ByteArray.ext (Array.toList_inj.mp same))

theorem ofUInt8_toUInt8 {c : Char} (ascii : c.toNat < 128) : Char.ofUInt8 c.toUInt8 = c := by
  apply Char.toNat_inj.mp
  change c.toNat % 256 = c.toNat
  omega

theorem toNat_ofUInt8 (b : UInt8) : (Char.ofUInt8 b).toNat = b.toNat := rfl

theorem encode_ascii {c : Char} (ascii : c.toNat < 128) :
    String.utf8EncodeChar c = [c.toUInt8] := by
  have small : c.val.toNat ≤ 127 := Nat.le_of_lt_succ ascii
  simp only [String.utf8EncodeChar, small, if_true]
  rfl

/-- All bytes of a character beyond ASCII are beyond it. -/
theorem encode_other {c : Char} (other : 128 ≤ c.toNat) :
    ∀ b ∈ String.utf8EncodeChar c, 128 ≤ b.toNat := by
  have large : ¬c.val.toNat ≤ 127 := by
    have : c.toNat = c.val.toNat := rfl
    omega
  simp only [String.utf8EncodeChar, large, if_false]
  split_ifs <;> simp <;> omega

/-! The tokens of Lua, as its LuaJIT dialect has them. -/

inductive Token where
  | name (text : List UInt8)
  | keyword (text : List UInt8)
  | number (text : List UInt8)
  | string (value : List UInt8)
  | mark (text : String)
  deriving DecidableEq, Repr

/-- The words that are no names. -/
def reserved : List String :=
  ["and", "break", "do", "else", "elseif", "end", "false", "for", "function", "goto", "if",
    "in", "local", "nil", "not", "or", "repeat", "return", "then", "true", "until", "while"]

def word (text : List UInt8) : Token :=
  if (reserved.map bytes).contains text then .keyword text else .name text

/-- A byte of a name: every one beyond ASCII is. -/
def isNameByte (b : UInt8) : Bool := 128 ≤ b.toNat || isNameChar (Char.ofUInt8 b)

theorem isNameByte_mark {b : UInt8} :
    ∀ c ∈ ['.', '=', ':', '-'], Char.ofUInt8 b = c → isNameByte b = false := by
  rintro c listed same
  have plain : ∀ c ∈ ['.', '=', ':', '-'], c.toNat < 128 ∧ isNameChar c = false :=
    List.all_iff_forall_prop.mp (by decide)
  have small : b.toNat < 128 := by
    rw [← toNat_ofUInt8, same]
    exact (plain c listed).1
  simp [isNameByte, same, (plain c listed).2, small]

def isSpace (c : Char) : Bool := c == ' ' || (9 ≤ c.toNat && c.toNat ≤ 13)

def isLineBreak (c : Char) : Bool := c == '\n' || c == '\r'

/-- Where a quoted string is read. A line break behind a backslash is one with its other half. -/
inductive Escape where
  | plain
  | begun
  | decimal (digits value : Nat)
  | hexadecimal (first : Option Nat)
  | unicode
  | codePoint (value : Option Nat)
  | blanks
  | lineBreak (first : Char)
  deriving DecidableEq, Repr

/-- Where a long bracket is read: `closing` is a bracket with equality signs behind it. -/
inductive Progress where
  | opened
  | plain
  | lineBreak (first : Char)
  | closing (count : Nat)
  deriving DecidableEq, Repr

/-- What the lexer has read of a token. A `remark` is two dashes, which a long bracket makes a
long comment. -/
inductive State where
  | between
  | name (read : List UInt8)
  | number (read : List UInt8)
  | mark (read : String)
  | bracket (level : Nat)
  | string (quote : Char) (read : List UInt8) (escape : Escape)
  | remark
  | remarkBracket (level : Nat)
  | comment
  | long (remark : Bool) (level : Nat) (read : List UInt8) (progress : Progress)
  deriving DecidableEq, Repr

/-- Marks that may be the start of a longer one, or of a comment or a number. -/
def openMarks : List Char := ['-', '.', '=', '<', '>', '~', ':']

def longMarks : List String := ["...", "==", "<=", ">=", "~=", "::"]

/-- The first byte of a token, or one between tokens. -/
def start (b : UInt8) : List Token × State :=
  let c := Char.ofUInt8 b
  if isAsciiDigit c then ([], .number [b])
  else if isNameByte b then ([], .name [b])
  else if isSpace c then ([], .between)
  else if c == '"' || c == '\'' then ([], .string c [] .plain)
  else if c == '[' then ([], .bracket 0)
  else if openMarks.contains c then ([], .mark (String.singleton c))
  else ([.mark (String.singleton c)], .between)

/-- A token ends where the next one starts. -/
def after (token : Token) (next : List Token × State) : List Token × State :=
  (token :: next.1, next.2)

def readMark (read : String) (b : UInt8) : List Token × State :=
  let c := Char.ofUInt8 b
  if read == "-" && c == '-' then ([], .remark)
  else if read == "." && c == '.' then ([], .mark "..")
  else if read == "." && isAsciiDigit c then ([], .number ['.'.toUInt8, b])
  else if longMarks.contains (read.push c) then ([.mark (read.push c)], .between)
  else after (.mark read) (start b)

/-- Is the exponent of a number marked by `p`? -/
def isHexadecimal (read : List Char) : Bool :=
  match if read.head? == some '.' then read.tail else read with
  | '0' :: x :: _ => x.toLower == 'x'
  | _ => false

/-- A number goes on over letters and points, and over a sign behind its exponent mark. -/
def numberGoesOn (read : List UInt8) (b : UInt8) : Bool :=
  let text := read.map Char.ofUInt8
  let exponent := if isHexadecimal text then 'p' else 'e'
  let c := Char.ofUInt8 b
  isNameByte b || c == '.' ||
    ((c == '+' || c == '-') && text.getLast?.map Char.toLower == some exponent)

def readPlain (quote : Char) (read : List UInt8) (b : UInt8) : Option (List Token × State) :=
  let c := Char.ofUInt8 b
  if c == quote then some ([.string read], .between)
  else if c == '\\' then some ([], .string quote read .begun)
  else if isLineBreak c then none
  else some ([], .string quote (read ++ [b]) .plain)

def readEscape (c : Char) (read : List UInt8) : Option (List UInt8 × Escape) :=
  match escaped? c with
  | some plain => some (read ++ [plain.toUInt8], .plain)
  | none =>
      if c == 'x' then some (read, .hexadecimal none)
      else if c == 'u' then some (read, .unicode)
      else if c == 'z' then some (read, .blanks)
      else if isLineBreak c then some (read ++ ['\n'.toUInt8], .lineBreak c)
      else if isAsciiDigit c then some (read, .decimal 1 (digitValue c))
      else none

/-- One more byte of a quoted string. A decimal escape has three digits at most, and stands for
one byte. -/
def readString (quote : Char) (read : List UInt8) (escape : Escape) (b : UInt8) :
    Option (List Token × State) :=
  let c := Char.ofUInt8 b
  match escape with
  | .plain => readPlain quote read b
  | .begun =>
      (readEscape c read).map fun (read, escape) => ([], .string quote read escape)
  | .decimal digits value =>
      if isAsciiDigit c then
        let longer := 10 * value + digitValue c
        if digits < 2 then some ([], .string quote read (.decimal (digits + 1) longer))
        else if longer ≤ 255 then some ([], .string quote (read ++ [UInt8.ofNat longer]) .plain)
        else none
      else readPlain quote (read ++ [UInt8.ofNat value]) b
  | .hexadecimal first =>
      (hexValue? c).map fun digit =>
        match first with
        | none => ([], .string quote read (.hexadecimal (some digit)))
        | some high => ([], .string quote (read ++ [UInt8.ofNat (16 * high + digit)]) .plain)
  | .unicode => if c == '{' then some ([], .string quote read (.codePoint none)) else none
  | .codePoint value =>
      match value, c with
      | some value, '}' =>
          if value.isValidChar then
            some ([], .string quote (read ++ String.utf8EncodeChar (Char.ofNat value)) .plain)
          else none
      | _, _ =>
          (hexValue? c).bind fun digit =>
            let longer := 16 * value.getD 0 + digit
            if longer < 0x110000 then some ([], .string quote read (.codePoint (some longer)))
            else none
  | .blanks =>
      if isSpace c then some ([], .string quote read .blanks) else readPlain quote read b
  | .lineBreak first =>
      if isLineBreak c && c != first then some ([], .string quote read .plain)
      else readPlain quote read b

def readComment (b : UInt8) : List Token × State :=
  if isLineBreak (Char.ofUInt8 b) then ([], .between) else ([], .comment)

def readLongPlain (remark : Bool) (level : Nat) (read : List UInt8) (b : UInt8) :
    List Token × State :=
  let c := Char.ofUInt8 b
  if c == ']' then ([], .long remark level read (.closing 0))
  else if isLineBreak c then ([], .long remark level (read ++ ['\n'.toUInt8]) (.lineBreak c))
  else ([], .long remark level (read ++ [b]) .plain)

/-- One more byte of a long bracket. A line break at its very start is left out. -/
def readLong (remark : Bool) (level : Nat) (read : List UInt8) (progress : Progress) (b : UInt8) :
    List Token × State :=
  let c := Char.ofUInt8 b
  match progress with
  | .opened =>
      if isLineBreak c then ([], .long remark level read (.lineBreak c))
      else readLongPlain remark level read b
  | .plain => readLongPlain remark level read b
  | .lineBreak first =>
      if isLineBreak c && c != first then ([], .long remark level read .plain)
      else readLongPlain remark level read b
  | .closing count =>
      if c == '=' then ([], .long remark level read (.closing (count + 1)))
      else if c == ']' && count == level then (if remark then [] else [.string read], .between)
      else
        readLongPlain remark level
          (read ++ ']'.toUInt8 :: List.replicate count '='.toUInt8) b

/-- One byte: the tokens that are complete with it, and what is read of the next one. -/
def step (state : State) (b : UInt8) : Option (List Token × State) :=
  let c := Char.ofUInt8 b
  match state with
  | .between => some (start b)
  | .name read =>
      some (if isNameByte b then ([], .name (read ++ [b])) else after (word read) (start b))
  | .number read =>
      some (if numberGoesOn read b then ([], .number (read ++ [b]))
        else after (.number read) (start b))
  | .mark read => some (readMark read b)
  | .bracket level =>
      if c == '=' then some ([], .bracket (level + 1))
      else if c == '[' then some ([], .long false level [] .opened)
      else if level == 0 then some (after (.mark "[") (start b))
      else none
  | .string quote read escape => readString quote read escape b
  | .remark => some (if c == '[' then ([], .remarkBracket 0) else readComment b)
  | .remarkBracket level =>
      some (if c == '=' then ([], .remarkBracket (level + 1))
        else if c == '[' then ([], .long true level [] .opened)
        else readComment b)
  | .comment => some (readComment b)
  | .long remark level read progress => some (readLong remark level read progress b)

/-- The end of the source: no string, long comment or long bracket may be open. -/
def finish : State → Option (List Token)
  | .between | .remark | .remarkBracket _ | .comment => some []
  | .name read => some [word read]
  | .number read => some [.number read]
  | .mark read => some [.mark read]
  | .bracket level => if level == 0 then some [.mark "["] else none
  | .string _ _ _ | .long _ _ _ _ => none

def tokensFrom (state : State) : List UInt8 → Option (List Token)
  | [] => finish state
  | b :: rest =>
      (step state b).bind fun (read, next) => (tokensFrom next rest).map (read ++ ·)

/-- The tokens of a source, unless it is malformed. -/
def tokens (source : List UInt8) : Option (List Token) := tokensFrom .between source

example : tokens (bytes "x = a[[=[b]] .. 'c\\065' -- d") = some [.name (bytes "x"), .mark "=",
    .name (bytes "a"), .string (bytes "=[b"), .mark "..", .string (bytes "cA")] := by
  decide

/-! A part of a source is read by itself: what is read of it does not depend on the rest. -/

/-- Whatever follows, `text` takes the lexer from one state to the other and is these tokens. -/
def Passes (state : State) (text : List UInt8) (read : List Token) (next : State) : Prop :=
  ∀ rest, tokensFrom state (text ++ rest) = (tokensFrom next rest).map (read ++ ·)

theorem Passes.nil (state : State) : Passes state [] [] state := by
  intro rest
  simp

theorem Passes.step {state next : State} {b : UInt8} {read : List Token}
    (stepped : Lua.step state b = some (read, next)) : Passes state [b] read next := by
  intro rest
  rw [List.singleton_append, tokensFrom, stepped, Option.bind_some]

theorem Passes.append {first middle last : State} {front back : List UInt8}
    {read more : List Token} (head : Passes first front read middle)
    (tail : Passes middle back more last) : Passes first (front ++ back) (read ++ more) last := by
  intro rest
  rw [List.append_assoc, head, tail, Option.map_map]
  congr 1
  funext after
  simp

theorem Passes.cons {first middle last : State} {b : UInt8} {back : List UInt8}
    {read more : List Token} (head : Lua.step first b = some (read, middle))
    (tail : Passes middle back more last) : Passes first (b :: back) (read ++ more) last :=
  (Passes.step head).append tail

/-- A byte that ends a token is read as it is between tokens. -/
theorem tokensFrom_ending {state : State} {token : Token} {b : UInt8}
    (ends : step state b = some (after token (start b))) (rest : List UInt8) :
    tokensFrom state (b :: rest) = (tokens (b :: rest)).map (token :: ·) := by
  have between : step .between b = some (start b) := rfl
  rw [tokensFrom, ends, tokens, tokensFrom, between]
  simp [after, Function.comp_def]

theorem Passes.ending {state next : State} {token : Token} {b : UInt8} {text : List UInt8}
    {read : List Token} (ends : Lua.step state b = some (after token (start b)))
    (tail : Passes .between (b :: text) read next) :
    Passes state (b :: text) (token :: read) next := by
  intro rest
  rw [List.cons_append, tokensFrom_ending ends, ← List.cons_append, tokens, tail, Option.map_map]
  rfl

theorem longMarks_push {c : Char} (other : c ∉ ['.', '=', ':']) (read : String) :
    longMarks.contains (read.push c) = false := by
  rw [List.contains_eq_mem, decide_eq_false_iff_not]
  intro listed
  have last : ∀ mark ∈ longMarks, mark.toList.getLast? ∈ ['.', '=', ':'].map some := by decide
  have ends : (read.push c).toList.getLast? = some c := by simp
  obtain ⟨d, within, same⟩ := List.mem_map.mp (ends ▸ last _ listed)
  exact other (Option.some.inj same ▸ within)

/-- A dash or a point ends before a name; before a number only a dash does. -/
theorem step_mark {mark : String} {b : UInt8} (name : isNameByte b = true)
    (short : mark = "-" ∨ mark = "." ∧ isAsciiDigit (Char.ofUInt8 b) = false) :
    step (.mark mark) b = some (after (.mark mark) (start b)) := by
  have other : Char.ofUInt8 b ∉ ['.', '=', ':', '-'] := fun listed =>
    Bool.false_ne_true ((isNameByte_mark _ listed rfl).symm.trans name)
  simp only [List.mem_cons, List.not_mem_nil, or_false, not_or] at other
  obtain ⟨point, equals, colon, dash⟩ := other
  have longer := longMarks_push (c := Char.ofUInt8 b) (by simp [point, equals, colon]) mark
  simp only [List.contains_eq_mem, decide_eq_false_iff_not] at longer
  rcases short with rfl | ⟨rfl, notDigit⟩
  · simp [step, readMark, dash, longer]
  · simp [step, readMark, point, notDigit, longer]

/-- No name goes on here. -/
def NameEnds (rest : List UInt8) : Prop := ∀ b, rest.head? = some b → isNameByte b = false

/-- These are the tokens of `text` wherever no name goes on behind it: it is no comment and no
part of a token. -/
def Reads (text : List UInt8) (read : List Token) : Prop :=
  ∀ rest, NameEnds rest → tokens (text ++ rest) = (tokens rest).map (read ++ ·)

theorem Passes.reads {text : List UInt8} {read : List Token}
    (passes : Passes .between text read .between) : Reads text read :=
  fun rest _ => passes rest

theorem Reads.append {front back : List UInt8} {read more : List Token} (head : Reads front read)
    (tail : Reads back more) (ends : ∀ rest, NameEnds (back ++ rest)) :
    Reads (front ++ back) (read ++ more) := by
  intro rest stops
  rw [List.append_assoc, head _ (ends rest), tail rest stops, Option.map_map]
  congr 1
  funext after
  simp

/-- A name ends where nothing continues it. -/
theorem tokensFrom_name (read : List UInt8) {rest : List UInt8} (ends : NameEnds rest) :
    tokensFrom (.name read) rest = (tokens rest).map (word read :: ·) := by
  cases rest with
  | nil => rfl
  | cons b rest => exact tokensFrom_ending (by simp [step, ends b rfl]) rest

theorem Passes.reads_name {text read : List UInt8}
    {front : List Token} (passes : Passes .between text front (.name read)) :
    Reads text (front ++ [word read]) := by
  intro rest ends
  rw [tokens, passes, tokensFrom_name read ends, Option.map_map]
  congr 1
  funext after
  simp

/-- A state that takes a kind of bytes into what it has read takes a text of them. -/
theorem Passes.grow (build : List UInt8 → State) {takes : UInt8 → Prop}
    (grows : ∀ read b, takes b → Lua.step (build read) b = some ([], build (read ++ [b])))
    (read : List UInt8) {text : List UInt8} (taken : ∀ b ∈ text, takes b) :
    Passes (build read) text [] (build (read ++ text)) := by
  induction text generalizing read with
  | nil => simpa using Passes.nil (build read)
  | cons b text induction =>
      obtain ⟨first, others⟩ := List.forall_mem_cons.mp taken
      simpa using Passes.cons (grows read b first) (induction (read ++ [b]) others)

theorem Passes.name (read : List UInt8) {text : List UInt8}
    (letters : ∀ b ∈ text, isNameByte b = true) :
    Passes (.name read) text [] (.name (read ++ text)) :=
  Passes.grow .name (fun _ _ letter => by simp [Lua.step, letter]) read letters

theorem Passes.number (read : List UInt8) {text : List UInt8}
    (letters : ∀ b ∈ text, isNameByte b = true) :
    Passes (.number read) text [] (.number (read ++ text)) :=
  Passes.grow .number (fun _ _ letter => by simp [Lua.step, numberGoesOn, letter]) read letters

end LuaBinder.Lua
