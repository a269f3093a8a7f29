import LuaBinder.Proofs.Lua.Lexer
import Mathlib.Tactic.IntervalCases

namespace LuaBinder.Lua

open Text LuaModule

/-! Strings and names as they are written are read as what they were. -/

theorem isNameByte_toUInt8 {c : Char} (name : isNameChar c = true) (ascii : c.toNat < 128) :
    isNameByte c.toUInt8 = true := by
  simp [isNameByte, ofUInt8_toUInt8 ascii, name]

/-- A byte that a quoted string takes as it is. -/
def Plain (b : UInt8) : Prop :=
  Char.ofUInt8 b ≠ '"' ∧ Char.ofUInt8 b ≠ '\\' ∧ isLineBreak (Char.ofUInt8 b) = false

theorem Passes.plain (read : List UInt8) {text : List UInt8} (plain : ∀ b ∈ text, Plain b) :
    Passes (.string '"' read .plain) text [] (.string '"' (read ++ text) .plain) := by
  refine Passes.grow (fun read => .string '"' read .plain) ?_ read plain
  rintro read b ⟨quote, backslash, line⟩
  simp [Lua.step, readString, readPlain, quote, backslash, line]

theorem plain_of_large {b : UInt8} (large : 128 ≤ b.toNat) : Plain b := by
  have other (c : Char) (ascii : c.toNat < 128) : Char.ofUInt8 b ≠ c := by
    rintro rfl
    rw [toNat_ofUInt8] at ascii
    omega
  have feed := other '\n' (by decide)
  have carriage := other '\r' (by decide)
  exact ⟨other _ (by decide), other _ (by decide), by simp [isLineBreak, feed, carriage]⟩

theorem plain_encode {c : Char} (quote : c ≠ '"') (backslash : c ≠ '\\')
    (line : isLineBreak c = false) : ∀ b ∈ String.utf8EncodeChar c, Plain b := by
  by_cases ascii : c.toNat < 128
  · simp [encode_ascii ascii, Plain, ofUInt8_toUInt8 ascii, quote, backslash, line]
  · exact fun b member => plain_of_large (encode_other (by omega) b member)

theorem step_backslash (read : List UInt8) :
    step (.string '"' read .plain) '\\'.toUInt8 = some ([], .string '"' read .begun) := rfl

theorem Passes.escape (read : List UInt8) {mark plain : Char} (ascii : mark.toNat < 128)
    (escaped : escaped? mark = some plain) :
    Passes (.string '"' read .plain) ['\\'.toUInt8, mark.toUInt8] []
      (.string '"' (read ++ [plain.toUInt8]) .plain) := by
  refine Passes.cons (step_backslash read) (Passes.step ?_)
  simp [Lua.step, readString, readEscape, ofUInt8_toUInt8 ascii, escaped]

theorem decimal_facts : ∀ digit < 10, (Char.ofNat (48 + digit)).toNat < 128 ∧
    isAsciiDigit (Char.ofNat (48 + digit)) = true ∧
    digitValue (Char.ofNat (48 + digit)) = digit := by
  decide

theorem readEscape_digit {digit : Nat} (small : digit < 10) (read : List UInt8) :
    readEscape (Char.ofNat (48 + digit)) read = some (read, .decimal 1 digit) := by
  interval_cases digit <;> rfl

/-- All three digits belong to the escape, whatever stands behind them. -/
theorem Passes.decimal (read : List UInt8) {code : Nat} (short : code < 256) :
    Passes (.string '"' read .plain) ((decimalEscape code).map Char.toUInt8) []
      (.string '"' (read ++ [UInt8.ofNat code]) .plain) := by
  have digit (n : Nat) := decimal_facts (n % 10) (Nat.mod_lt n (by decide))
  have value : 10 * (10 * (code / 100 % 10) + code / 10 % 10) + code % 10 = code := by omega
  have small : code ≤ 255 := Nat.le_of_lt_succ short
  have first : Lua.step (.string '"' read .begun) (Char.ofNat (48 + code / 100 % 10)).toUInt8 =
      some ([], .string '"' read (.decimal 1 (code / 100 % 10))) := by
    have small : code / 100 % 10 < 10 := Nat.mod_lt _ (by decide)
    simp [Lua.step, readString, ofUInt8_toUInt8 (digit (code / 100)).1, readEscape_digit small]
  have second : Lua.step (.string '"' read (.decimal 1 (code / 100 % 10)))
      (Char.ofNat (48 + code / 10 % 10)).toUInt8 = some ([], .string '"' read
        (.decimal 2 (10 * (code / 100 % 10) + code / 10 % 10))) := by
    obtain ⟨ascii, isDigit, isValue⟩ := digit (code / 10)
    simp [Lua.step, readString, ofUInt8_toUInt8 ascii, isDigit, isValue]
  have third : Lua.step (.string '"' read (.decimal 2 (10 * (code / 100 % 10) + code / 10 % 10)))
      (Char.ofNat (48 + code % 10)).toUInt8 =
        some ([], .string '"' (read ++ [UInt8.ofNat code]) .plain) := by
    obtain ⟨ascii, isDigit, isValue⟩ := digit code
    simp [Lua.step, readString, ofUInt8_toUInt8 ascii, isDigit, isValue, value, small]
  exact Passes.cons (step_backslash read)
    (Passes.cons first (Passes.cons second (Passes.step third)))

/-- Characters in UTF-8. -/
def encode (text : List Char) : List UInt8 := text.flatMap String.utf8EncodeChar

theorem bytes_ofList (text : List Char) : bytes (String.ofList text) = encode text := by
  rw [bytes_eq, String.toList_ofList, encode]

theorem encode_of_ascii {text : List Char} (ascii : ∀ c ∈ text, c.toNat < 128) :
    encode text = text.map Char.toUInt8 := by
  induction text with
  | nil => rfl
  | cons c text induction =>
      obtain ⟨first, others⟩ := List.forall_mem_cons.mp ascii
      rw [encode, List.flatMap_cons, encode_ascii first, ← encode, induction others]
      rfl

theorem ascii_decimalEscape (code : Nat) : ∀ c ∈ decimalEscape code, c.toNat < 128 := by
  have digit (n : Nat) := (decimal_facts (n % 10) (Nat.mod_lt n (by decide))).1
  simp [decimalEscape, digit]

theorem Passes.stringChar (read : List UInt8) (c : Char) :
    Passes (.string '"' read .plain) (encode (LuaModule.stringChar c)) []
      (.string '"' (read ++ String.utf8EncodeChar c) .plain) := by
  have escape {mark : Char} (ascii : c.toNat < 128) (marked : mark.toNat < 128)
      (escaped : escaped? mark = some c) :
      Passes (.string '"' read .plain) (encode ['\\', mark]) []
        (.string '"' (read ++ String.utf8EncodeChar c) .plain) := by
    rw [encode_ascii ascii, encode_of_ascii (by simp [marked])]
    exact Passes.escape read marked escaped
  unfold LuaModule.stringChar
  split_ifs with backslash quote feed carriage tab control
  · cases eq_of_beq backslash
    exact escape (by decide) (by decide) (by decide)
  · cases eq_of_beq quote
    exact escape (by decide) (by decide) (by decide)
  · cases eq_of_beq feed
    exact escape (by decide) (by decide) (by decide)
  · cases eq_of_beq carriage
    exact escape (by decide) (by decide) (by decide)
  · cases eq_of_beq tab
    exact escape (by decide) (by decide) (by decide)
  · have ascii : c.toNat < 128 := by
      simp only [Bool.or_eq_true, decide_eq_true_eq, beq_iff_eq] at control
      omega
    rw [encode_ascii ascii, encode_of_ascii (ascii_decimalEscape c.toNat)]
    exact Passes.decimal read (Nat.lt_trans ascii (by decide))
  · simp only [beq_iff_eq] at backslash quote feed carriage
    have line : isLineBreak c = false := by simp [isLineBreak, feed, carriage]
    rw [encode, List.flatMap_singleton]
    exact Passes.plain read (plain_encode quote backslash line)

theorem Passes.stringText (read : List UInt8) (text : List Char) :
    Passes (.string '"' read .plain) (encode (text.flatMap LuaModule.stringChar)) []
      (.string '"' (read ++ encode text) .plain) := by
  induction text generalizing read with
  | nil => simpa [encode] using Passes.nil (.string '"' read .plain)
  | cons c text induction =>
      simpa [encode] using (Passes.stringChar read c).append (induction _)

/-- A string is one token, which stands for the bytes of its text. -/
theorem Passes.string (text : String) :
    Passes .between (bytes (string text)) [.string (bytes text)] .between := by
  have opened : Lua.step .between '"'.toUInt8 = some ([], .string '"' [] .plain) := rfl
  have closed : Lua.step (.string '"' (bytes text) .plain) '"'.toUInt8 =
      some ([.string (bytes text)], .between) := rfl
  have inner := Passes.stringText [] text.toList
  rw [List.nil_append, ← bytes_ofList text.toList, String.ofList_toList] at inner
  have quote : String.utf8EncodeChar '"' = ['"'.toUInt8] := rfl
  rw [LuaModule.string, bytes_ofList, LuaModule.stringText, encode, List.flatMap_cons,
    List.flatMap_append, ← encode, List.flatMap_singleton, quote, List.singleton_append]
  exact Passes.cons opened (inner.append (Passes.step closed))

theorem lineBreak_stringChar (c : Char) : ∀ d ∈ stringChar c, isLineBreak d = false := by
  have digit (n : Nat) : isLineBreak (Char.ofNat (48 + n % 10)) = false := by
    have facts : ∀ digit < 10, isLineBreak (Char.ofNat (48 + digit)) = false := by decide
    exact facts _ (Nat.mod_lt n (by decide))
  unfold stringChar
  split_ifs with backslash quote feed carriage tab control
  · simp [isLineBreak]
  · simp [isLineBreak]
  · simp [isLineBreak]
  · simp [isLineBreak]
  · simp [isLineBreak]
  · have backslash : isLineBreak '\\' = false := by decide
    simp [decimalEscape, digit, backslash]
  · simp only [beq_iff_eq] at feed carriage
    simp [isLineBreak, feed, carriage]

/-- A string is on one line. -/
theorem lineBreak_string (text : String) : ∀ c ∈ (string text).toList, isLineBreak c = false := by
  have inner : ∀ c ∈ text.toList.flatMap stringChar, isLineBreak c = false := by
    intro c member
    obtain ⟨d, -, written⟩ := List.mem_flatMap.mp member
    exact lineBreak_stringChar d c written
  have quote : isLineBreak '"' = false := by decide
  simpa [string, stringText, quote, or_imp, forall_and] using inner

/-! Names, and the fields of tables. -/

theorem ascii_of_isNameChar {c : Char} (name : isNameChar c = true) : c.toNat < 128 := by
  rw [isNameChar, Bool.or_eq_true, beq_iff_eq, Grammar.isAsciiAlphanumeric_iff] at name
  rcases name with rfl | lower | upper | digit
  · decide
  · omega
  · omega
  · omega

theorem bytes_of_ascii {text : String} (ascii : ∀ c ∈ text.toList, c.toNat < 128) :
    bytes text = text.toList.map Char.toUInt8 := by
  rw [bytes_eq, ← encode, encode_of_ascii ascii]

/-- A name starts with a letter or an underscore. -/
theorem not_digit_of_starts {c : Char} (starts : (c == '_' || isAsciiLetter c) = true) :
    isAsciiDigit c = false := by
  rw [Bool.eq_false_iff]
  intro digit
  simp only [isAsciiDigit, isAsciiLetter, Bool.or_eq_true, Bool.and_eq_true, beq_iff_eq,
    decide_eq_true_eq, Grammar.le_iff_toNat_le] at digit starts
  have facts : '0'.toNat = 48 ∧ '9'.toNat = 57 ∧ 'a'.toNat = 97 ∧ 'A'.toNat = 65 ∧
    '_'.toNat = 95 := by decide
  rcases starts with rfl | lower | upper <;> omega

/-- The bytes of a name: the first is no digit. -/
theorem exists_bytes_identifier {name : String} (identifier : isIdentifier name = true) :
    ∃ c text, isNameChar c = true ∧ isAsciiDigit c = false ∧ bytes name = c.toUInt8 :: text ∧
      ∀ b ∈ text, isNameByte b = true := by
  have chars := isIdentifier_chars identifier
  have written := bytes_of_ascii fun c member => ascii_of_isNameChar (chars c member)
  rw [isIdentifier, Bool.and_eq_true] at identifier
  cases letters : name.toList with
  | nil =>
      rw [letters] at identifier
      exact absurd identifier.1 (by decide)
  | cons c rest =>
      rw [letters] at identifier chars written
      rw [isIdentifierText, Bool.and_eq_true] at identifier
      obtain ⟨first, others⟩ := List.forall_mem_cons.mp chars
      refine ⟨c, rest.map Char.toUInt8, first, not_digit_of_starts identifier.1.1, written, ?_⟩
      intro b member
      obtain ⟨d, later, rfl⟩ := List.mem_map.mp member
      exact isNameByte_toUInt8 (others d later) (ascii_of_isNameChar (others d later))

theorem word_identifier {name : String} (identifier : isIdentifier name = true) :
    word (bytes name) = .name (bytes name) := by
  have other : name ∉ reserved := by
    rw [isIdentifier, Bool.and_eq_true, Bool.not_eq_true', List.contains_eq_mem,
      decide_eq_false_iff_not] at identifier
    exact identifier.2
  have none : bytes name ∉ reserved.map bytes := by
    intro member
    obtain ⟨keyword, listed, same⟩ := List.mem_map.mp member
    exact other (bytes_injective same ▸ listed)
  simp [word, none]

theorem Passes.identifier {name : String} (identifier : isIdentifier name = true) :
    Passes .between (bytes name) [] (.name (bytes name)) := by
  obtain ⟨c, text, letter, notDigit, written, others⟩ := exists_bytes_identifier identifier
  have ascii := ascii_of_isNameChar letter
  have first : Lua.step .between c.toUInt8 = some ([], .name [c.toUInt8]) := by
    simp [Lua.step, start, ofUInt8_toUInt8 ascii, notDigit, isNameByte_toUInt8 letter ascii]
  rw [written]
  exact Passes.cons first (Passes.name _ others)

theorem reads_identifier {name : String} (identifier : isIdentifier name = true) :
    Reads (bytes name) [.name (bytes name)] := by
  simpa [word_identifier identifier] using (Passes.identifier identifier).reads_name

/-- The tokens behind a table that stand for its field `key`. -/
def Index (index : List Token) (key : List UInt8) : Prop :=
  index = [.mark ".", .name key] ∨ index = [.mark "[", .string key, .mark "]"]

/-- The tokens that give the key of a field where a table is made. -/
def Key (read : List Token) (key : List UInt8) : Prop :=
  read = [.name key] ∨ read = [.mark "[", .string key, .mark "]"]

theorem Index.iff {index : List Token} {key : List UInt8} (indexes : Index index key)
    (other : List UInt8) : Index index other ↔ other = key := by
  rcases indexes with rfl | rfl <;> simp [Index, eq_comm (a := key)]

theorem Key.iff {read : List Token} {key : List UInt8} (names : Key read key)
    (other : List UInt8) : Key read other ↔ other = key := by
  rcases names with rfl | rfl <;> simp [Key, eq_comm (a := key)]

theorem Passes.bracketed (key : String) :
    Passes .between (bytes ("[" ++ LuaModule.string key ++ "]"))
      [.mark "[", .string (bytes key), .mark "]"] .between := by
  have opened : Lua.step .between '['.toUInt8 = some ([], .bracket 0) := rfl
  have quoted : Lua.step (.bracket 0) '"'.toUInt8 =
      some (after (.mark "[") (start '"'.toUInt8)) := rfl
  have closed : Lua.step .between ']'.toUInt8 = some ([.mark "]"], .between) := rfl
  obtain ⟨text, written⟩ : ∃ text, bytes (LuaModule.string key) = '"'.toUInt8 :: text := by
    rw [LuaModule.string, bytes_ofList, LuaModule.stringText]
    exact ⟨_, rfl⟩
  have inner := Passes.string key
  rw [written] at inner
  rw [bytes_append, bytes_append, written]
  exact (Passes.cons opened (Passes.ending quoted inner)).append (Passes.step closed)

theorem Passes.dotted {key : String} (identifier : isIdentifier key = true) :
    Passes .between (bytes ("." ++ key)) [.mark "."] (.name (bytes key)) := by
  have opened : Lua.step .between '.'.toUInt8 = some ([], .mark ".") := rfl
  obtain ⟨c, text, letter, notDigit, written, -⟩ := exists_bytes_identifier identifier
  have ends : Lua.step (.mark ".") c.toUInt8 = some (after (.mark ".") (start c.toUInt8)) := by
    have ascii := ascii_of_isNameChar letter
    exact step_mark (isNameByte_toUInt8 letter ascii)
      (.inr ⟨rfl, by rw [ofUInt8_toUInt8 ascii, notDigit]⟩)
  have inner := Passes.identifier identifier
  rw [written] at inner
  rw [bytes_append, written]
  exact Passes.cons opened (Passes.ending ends inner)

/-- Behind a table, wherever no name goes on, its field is read. -/
theorem reads_field {table : String} {read : List Token} (reads : Reads (bytes table) read)
    (key : String) :
    ∃ index, Index index (bytes key) ∧ Reads (bytes (field table key)) (read ++ index) := by
  unfold field
  split_ifs with identifier
  · refine ⟨_, .inl rfl, ?_⟩
    have access := (Passes.dotted identifier).reads_name
    rw [word_identifier identifier] at access
    rw [String.append_assoc, bytes_append]
    refine reads.append access ?_
    rintro rest b ⟨⟩
    rfl
  · refine ⟨_, .inr rfl, ?_⟩
    rw [String.append_assoc, String.append_assoc, bytes_append, ← String.append_assoc]
    refine reads.append (Passes.bracketed key).reads ?_
    rintro rest b ⟨⟩
    rfl

theorem reads_tableKey (key : String) :
    ∃ read, Key read (bytes key) ∧ Reads (bytes (tableKey key)) read := by
  unfold tableKey
  split_ifs with identifier
  · exact ⟨_, .inl rfl, reads_identifier identifier⟩
  · exact ⟨_, .inr rfl, (Passes.bracketed key).reads⟩

end LuaBinder.Lua
