import LuaBinder.LuaModule.Stub
import Mathlib.Tactic.SplitIfs

namespace LuaBinder.LuaModule

open Text

/-! Lua read back: strings, and the fields of tables. -/

/-- What stands behind `front`. -/
def after? : List Char → List Char → Option (List Char)
  | [], text => some text
  | _ :: _, [] => none
  | c :: front, d :: text => if c == d then after? front text else none

/-- Where a string is read: an escape has begun, or some of its digits are known. -/
inductive Scan where
  | plain
  | escape
  | code (digits value : Nat)

/-- What is read once it is clear that no digit follows. An escape has three at most. -/
def Scan.settle (read : List Char) (c : Char) : Scan → Scan × List Char
  | .code digits value =>
      if isAsciiDigit c && digits < 3 then (.code digits value, read)
      else (.plain, read ++ [Char.ofNat value])
  | scan => (scan, read)

def digitValue (c : Char) : Nat := c.toNat - 48

/-- Escapes of one character behind the backslash. -/
def escapes : List (Char × Char) :=
  [('a', '\x07'), ('b', '\x08'), ('t', '\t'), ('n', '\n'), ('v', '\x0b'), ('f', '\x0c'),
    ('r', '\r'), ('\\', '\\'), ('"', '"'), ('\'', '\'')]

def escaped? (c : Char) : Option Char := (escapes.find? (·.1 == c)).map (·.2)

/-- A string up to its quote, and the rest; `read` is what is read so far. -/
def scanString : Scan → List Char → List Char → Option (List Char × List Char)
  | _, _, [] => none
  | scan, read, c :: rest =>
      match scan.settle read c with
      | (.code digits value, read) =>
          scanString (.code (digits + 1) (10 * value + digitValue c)) read rest
      | (.escape, read) =>
          match escaped? c with
          | some plain => scanString .plain (read ++ [plain]) rest
          | none =>
              if isAsciiDigit c then scanString (.code 1 (digitValue c)) read rest else none
      | (.plain, read) =>
          if c == '"' then some (read, rest)
          else if c == '\\' then scanString .escape read rest
          else if c == '\n' || c == '\r' then none
          else scanString .plain (read ++ [c]) rest

def isNameChar (c : Char) : Bool := c == '_' || isAsciiAlphanumeric c

/-- A field behind its table: a dot and a name, or a string in brackets. -/
def readKey? : List Char → Option (String × List Char)
  | '.' :: text =>
      let name := String.ofList (text.takeWhile isNameChar)
      if isIdentifier name then some (name, text.dropWhile isNameChar) else none
  | '[' :: '"' :: text =>
      match scanString .plain [] text with
      | some (key, ']' :: rest) => some (String.ofList key, rest)
      | _ => none
  | _ => none

def readField? (table : String) (text : List Char) : Option (String × List Char) :=
  (after? table.toList text).bind readKey?

theorem after?_append (front rest : List Char) : after? front (front ++ rest) = some rest := by
  induction front with
  | nil => rfl
  | cons c front induction => simp [after?, induction]

theorem after?_eq_some {front text rest : List Char} (found : after? front text = some rest) :
    text = front ++ rest := by
  induction front generalizing text with
  | nil =>
      cases found
      rfl
  | cons c front induction =>
      cases text with
      | nil => cases found
      | cons d text =>
          rw [after?] at found
          split at found
          · next same => rw [eq_of_beq same, induction found, List.cons_append]
          · cases found

/-! Strings are read as they were before they were written. -/

theorem scanString_code (value : Nat) (read : List Char) (c : Char) (rest : List Char) :
    scanString (.code 3 value) read (c :: rest) =
      scanString .plain (read ++ [Char.ofNat value]) (c :: rest) := by
  simp [scanString, Scan.settle]

theorem digit_facts : ∀ digit < 10, (Char.ofNat (48 + digit)).toNat = 48 + digit ∧
    isAsciiDigit (Char.ofNat (48 + digit)) = true ∧
    escaped? (Char.ofNat (48 + digit)) = none := by
  decide

theorem scanString_decimalEscape {code : Nat} (short : code < 1000) (read : List Char)
    (c : Char) (rest : List Char) :
    scanString .plain read (decimalEscape code ++ c :: rest) =
      scanString .plain (read ++ [Char.ofNat code]) (c :: rest) := by
  have digits (n : Nat) := digit_facts (n % 10) (Nat.mod_lt n (by decide))
  have value : 10 * (10 * (code / 100 % 10) + code / 10 % 10) + code % 10 = code := by omega
  simp only [decimalEscape, List.cons_append, List.nil_append]
  rw [← scanString_code]
  simp [scanString, Scan.settle, digits, digitValue, value]

theorem scanString_stringChar (d : Char) (read : List Char) (c : Char) (rest : List Char) :
    scanString .plain read (stringChar d ++ c :: rest) =
      scanString .plain (read ++ [d]) (c :: rest) := by
  have escape (mark plain : Char) (escaped : escaped? mark = some plain) :
      scanString .plain read (['\\', mark] ++ c :: rest) =
        scanString .plain (read ++ [plain]) (c :: rest) := by
    simp [scanString, Scan.settle, escaped]
  unfold stringChar
  split_ifs with backslash quote feed carriage tab control
  · rw [eq_of_beq backslash]
    exact escape _ _ (by decide)
  · rw [eq_of_beq quote]
    exact escape _ _ (by decide)
  · rw [eq_of_beq feed]
    exact escape _ _ (by decide)
  · rw [eq_of_beq carriage]
    exact escape _ _ (by decide)
  · rw [eq_of_beq tab]
    exact escape _ _ (by decide)
  · have short : d.toNat < 1000 := by
      simp only [Bool.or_eq_true, decide_eq_true_eq, beq_iff_eq] at control
      omega
    rw [scanString_decimalEscape short, Char.ofNat_toNat]
  · simp_all [scanString, Scan.settle]

theorem scanString_text (text read rest : List Char) :
    scanString .plain read (text.flatMap stringChar ++ '"' :: rest) = some (read ++ text, rest) := by
  induction text generalizing read with
  | nil => simp [scanString, Scan.settle]
  | cons c text induction =>
      obtain ⟨d, more, following⟩ : ∃ d more, text.flatMap stringChar ++ '"' :: rest = d :: more :=
        List.exists_cons_of_ne_nil (List.append_ne_nil_of_right_ne_nil _ (List.cons_ne_nil _ _))
      rw [List.flatMap_cons, List.append_assoc, following, scanString_stringChar, ← following,
        induction, List.append_assoc, List.singleton_append]

/-- No name goes on here. -/
def NameEnds (text : List Char) : Prop := ∀ c, text.head? = some c → isNameChar c = false

theorem isIdentifier_chars {name : String} (identifier : isIdentifier name = true) :
    ∀ c ∈ name.toList, isNameChar c = true := by
  rw [isIdentifier, Bool.and_eq_true] at identifier
  cases written : name.toList with
  | nil => simp
  | cons c rest =>
      rw [written, isIdentifierText, Bool.and_eq_true, List.all_eq_true] at identifier
      have first : isNameChar c = true := by
        rw [isNameChar, isAsciiAlphanumeric]
        rcases Bool.or_eq_true_iff.mp identifier.1.1 with under | letter
        · simp [under]
        · simp [letter]
      exact List.forall_mem_cons.mpr ⟨first, identifier.1.2⟩

theorem takeWhile_name {name : List Char} (chars : ∀ c ∈ name, isNameChar c = true)
    {rest : List Char} (ends : NameEnds rest) :
    (name ++ rest).takeWhile isNameChar = name ∧ (name ++ rest).dropWhile isNameChar = rest := by
  rw [List.takeWhile_append_of_pos chars, List.dropWhile_append_of_pos chars]
  cases rest with
  | nil => simp
  | cons c rest => simp [ends c rfl]

theorem readField?_field (table key : String) {rest : List Char} (ends : NameEnds rest) :
    readField? table ((field table key).toList ++ rest) = some (key, rest) := by
  unfold field
  split_ifs with identifier
  · have text : (table ++ "." ++ key).toList ++ rest =
        table.toList ++ '.' :: (key.toList ++ rest) := by simp
    obtain ⟨taken, dropped⟩ := takeWhile_name (isIdentifier_chars identifier) ends
    rw [readField?, text, after?_append]
    simp [readKey?, taken, dropped, identifier]
  · have text : (table ++ "[" ++ string key ++ "]").toList ++ rest =
        table.toList ++ '[' :: '"' :: (key.toList.flatMap stringChar ++ '"' :: ']' :: rest) := by
      simp [string, stringText]
    rw [readField?, text, after?_append]
    simp [readKey?, scanString_text]

/-! Lines that give a value to a field of `M`. -/

/-- The field that an assignment is to, and what it is set to. -/
def assigned? (text : String) : Option (String × List Char) :=
  match readField? "M" text.toList with
  | some (key, rest) => (after? " = ".toList rest).map fun value => (key, value)
  | none => none

/-- The same where functions may be declared: `function M.f()` is `M.f = function()`. -/
def declared? (text : String) : Option (String × List Char) :=
  match after? "function ".toList text.toList with
  | some rest =>
      match readField? "M" rest with
      | some (key, '(' :: rest) => some (key, "function(".toList ++ rest)
      | _ => none
  | none => assigned? text

theorem nameEnds_assignment (text : List Char) : NameEnds (" = ".toList ++ text) := by
  rintro c ⟨⟩
  decide

theorem assigned?_assign (key text : String) :
    assigned? (assign key text) = some (key, text.toList) := by
  have written : (assign key text).toList =
      (field "M" key).toList ++ (" = ".toList ++ text.toList) := by
    rw [assign, String.toList_append, String.toList_append, List.append_assoc]
  rw [assigned?, written, readField?_field "M" key (nameEnds_assignment _)]
  simp [after?]

theorem exists_field (table key : String) :
    ∃ rest, (field table key).toList = table.toList ++ rest := by
  unfold field
  split_ifs
  · exact ⟨".".toList ++ key.toList, by simp only [String.toList_append, List.append_assoc]⟩
  · exact ⟨"[".toList ++ ((string key).toList ++ "]".toList), by
      simp only [String.toList_append, List.append_assoc]⟩

theorem head?_field (table key : String) {c : Char} {rest : List Char}
    (written : table.toList = c :: rest) (text : List Char) :
    ((field table key).toList ++ text).head? = some c := by
  obtain ⟨behind, front⟩ := exists_field table key
  rw [front, written]
  rfl

theorem head?_append {front : String} {c : Char} (head : front.toList.head? = some c)
    (text : String) : (front ++ text).toList.head? = some c := by
  rw [String.toList_append, List.head?_append, head]
  rfl

theorem after?_of_head {front text : List Char} {c : Char} (written : front.head? = some c)
    (other : text.head? ≠ some c) : after? front text = none := by
  cases front with
  | nil => cases written
  | cons d front =>
      cases written
      cases text with
      | nil => rfl
      | cons e text =>
          rw [List.head?_cons, ne_eq, Option.some.injEq] at other
          simp [after?, Ne.symm other]

theorem assigned?_of_head {text : String} (other : text.toList.head? ≠ some 'M') :
    assigned? text = none := by
  rw [assigned?, readField?, after?_of_head rfl other]
  rfl

theorem declared?_of_head {text : String} (other : text.toList.head? ≠ some 'M')
    (function : text.toList.head? ≠ some 'f') : declared? text = none := by
  rw [declared?, after?_of_head rfl function]
  exact assigned?_of_head other

/-- What is assigned in a table that `M` holds is no field of `M`. -/
theorem assigned?_inner (inner : String) {table : String} (written : field "M" inner = table)
    (key text : String) : assigned? (field table key ++ text) = none := by
  obtain ⟨c, rest, tail, other, ends⟩ : ∃ c rest, (field table key ++ text).toList =
      (field "M" inner).toList ++ c :: rest ∧ c ≠ ' ' ∧ isNameChar c = false := by
    rw [written, field]
    split_ifs
    · exact ⟨'.', key.toList ++ text.toList, by simp, by decide, by decide⟩
    · exact ⟨'[', (string key).toList ++ ']' :: text.toList, by simp, by decide, by decide⟩
  have following : NameEnds (c :: rest) := by
    rintro d ⟨⟩
    exact ends
  rw [assigned?, tail, readField?_field "M" inner following]
  simp [after?, Ne.symm other]

theorem head?_assign (key text : String) : (assign key text).toList.head? = some 'M' := by
  rw [assign, String.toList_append, String.toList_append, List.append_assoc]
  exact head?_field "M" key rfl _

theorem declared?_assign (key text : String) :
    declared? (assign key text) = some (key, text.toList) := by
  rw [declared?, after?_of_head rfl (by rw [head?_assign]; decide)]
  exact assigned?_assign key text

theorem declared?_functionStub (key : String) (params : List String) :
    declared? (StubContext.functionStub key params) =
      some (key, ("function(" ++ commas params ++ ") end").toList) := by
  unfold StubContext.functionStub
  split_ifs with identifier
  · have written : ("function " ++ field "M" key ++ ("(" ++ commas params ++ ") end")).toList =
        "function ".toList ++ ((field "M" key).toList ++
          '(' :: ((commas params).toList ++ ") end".toList)) := by simp
    have ends : NameEnds ('(' :: ((commas params).toList ++ ") end".toList)) := by
      rintro c ⟨⟩
      decide
    rw [declared?, written, after?_append]
    simp only [readField?_field "M" key ends]
    simp
  · rw [declared?_assign]
    simp

theorem trimEnd_cons {c : Char} (plain : isBlank c = false) (text : List Char) :
    trimEnd (c :: text) = c :: trimEnd text := by
  rw [trimEnd, trimEnd, dropLast, dropLast, List.reverse_cons, List.dropWhile_append]
  split_ifs with blanks
  · rw [List.isEmpty_iff] at blanks
    simp [blanks, plain]
  · simp

theorem head?_commentLine {marker : String} {c : Char} (head : marker.toList.head? = some c)
    (plain : isBlank c = false) (part : String) :
    (Code.commentLine marker part).toList.head? = some c := by
  obtain ⟨rest, written⟩ := List.head?_eq_some_iff.mp head
  rw [Code.commentLine, trimRight, String.toList_ofList, String.toList_append,
    String.toList_append, written, List.cons_append, List.cons_append, trimEnd_cons plain]
  rfl

namespace Code

/-- The fields of `M` that lines at the outermost depth assign. -/
def fields (code : Code) : List String :=
  code.filterMap fun line =>
    if line.depth = 0 then (assigned? line.text).map Prod.fst else none

@[simp] theorem fields_append (front back : Code) :
    fields (front ++ back) = fields front ++ fields back := List.filterMap_append

@[simp] theorem fields_line (text : String) :
    fields (line text) = ((assigned? text).map Prod.fst).toList := by
  simp only [fields, line, List.filterMap_cons, List.filterMap_nil, if_true]
  cases (assigned? text).map Prod.fst <;> rfl

theorem fields_eq_nil {code : Code}
    (none_assigned : ∀ line ∈ code, line.depth = 0 → assigned? line.text = none) :
    fields code = [] := by
  refine List.filterMap_eq_nil_iff.mpr fun line member => ?_
  split_ifs with outermost
  · rw [none_assigned line member outermost, Option.map_none]
  · rfl

theorem fields_nest (depth : Nat) (code : Code) : fields (nest (depth + 1) code) = [] := by
  refine fields_eq_nil fun line member outermost => ?_
  obtain ⟨inner, -, rfl⟩ := List.mem_map.mp member
  exact absurd outermost (by simp)

theorem fields_block {header footer : String} (closed : assigned? footer = none) (body : Code) :
    fields (block header footer body) = ((assigned? header).map Prod.fst).toList := by
  simp [block, fields_nest, closed]

theorem mem_ofLines {texts : List String} {line : Line} :
    line ∈ ofLines texts ↔ ∃ text ∈ texts, line = ⟨0, text⟩ := by
  simp [ofLines, Code.line]

theorem fields_ofLines {texts : List String}
    (none_assigned : ∀ text ∈ texts, assigned? text = none) : fields (ofLines texts) = [] := by
  refine fields_eq_nil fun line member _ => ?_
  obtain ⟨text, listed, rfl⟩ := mem_ofLines.mp member
  exact none_assigned text listed

theorem fields_comment (text : String) : fields (comment "--" text) = [] := by
  refine fields_ofLines fun line member => ?_
  obtain ⟨part, -, rfl⟩ := List.mem_map.mp member
  exact assigned?_of_head (by rw [head?_commentLine rfl (by decide)]; decide)

end Code

end LuaBinder.LuaModule
