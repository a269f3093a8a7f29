import LuaBinder.Proofs.Header.Macros

namespace LuaBinder.Header.Literal

open Text

/-! What C makes of string and character literals, and where the same is read. -/

/-- One character between the quotes of a literal, as C spells it. -/
inductive SourceChar where
  | plain (c : Char)
  | simple (mark : Char)
  | octal (digits : List Char)
  | hexadecimal (digits : List Char)
  | universal (mark : Char) (digits : List Char)

/-- The characters behind the backslash of simple escapes, with the codes they stand for. -/
def simpleEscapes : List (Char × Nat) :=
  [('\x27', 39), ('"', 34), ('?', 63), ('\\', 92), ('a', 7), ('b', 8), ('f', 12), ('n', 10),
    ('r', 13), ('t', 9), ('v', 11)]

namespace SourceChar

def spelling : SourceChar → List Char
  | .plain c => [c]
  | .simple mark => ['\\', mark]
  | .octal digits => '\\' :: digits
  | .hexadecimal digits => '\\' :: 'x' :: digits
  | .universal mark digits => '\\' :: mark :: digits

/-- The code of the character that it stands for. -/
def code : SourceChar → Nat
  | .plain c => c.toNat
  | .simple mark => (simpleEscapes.lookup mark).getD 0
  | .octal digits => positional 8 digits
  | .hexadecimal digits => positional 16 digits
  | .universal _ digits => positional 16 digits

/-- It can stand between these quotes with `rest` behind it. An octal escape has up to three
digits and a hexadecimal one any number, and neither leaves a digit that it could have. -/
def Valid (quote : Char) (rest : List Char) : SourceChar → Prop
  | .plain c => c ∉ ['\\', quote, '\n']
  | .simple mark => mark ∈ simpleEscapes.map Prod.fst
  | .octal digits => digits ≠ [] ∧ (∀ d ∈ digits, digitsBelow 8 d = true) ∧
      (digits.length = 3 ∨ digits.length < 3 ∧ ∀ d ∈ rest.head?, ¬ digitsBelow 8 d = true)
  | .hexadecimal digits => digits ≠ [] ∧ (∀ d ∈ digits, digitsBelow 16 d = true) ∧
      ∀ d ∈ rest.head?, ¬ digitsBelow 16 d = true
  | .universal mark digits => (∀ d ∈ digits, digitsBelow 16 d = true) ∧
      (mark = 'u' ∧ digits.length = 4 ∨ mark = 'U' ∧ digits.length = 8)

/-- Not an escape, or one of a single character that is in the table of escapes. -/
def IsKept : SourceChar → Prop
  | .plain _ | .simple _ => True
  | .octal digits => digits = ['0']
  | .hexadecimal _ | .universal _ _ => False

/-- What is read for it: a backslash takes a single character along. -/
def taken (c : SourceChar) : List Char :=
  match c.spelling with
  | '\\' :: mark :: digits => escaped mark :: digits
  | other => other

end SourceChar

/-- The characters of a literal of C up to its closing quote. -/
inductive Reads (quote : Char) : List Char → List SourceChar → Prop
  | closed : Reads quote [quote] []
  | next {c : SourceChar} {rest : List Char} {others : List SourceChar}
      (valid : c.Valid quote rest) (further : Reads quote rest others) :
      Reads quote (c.spelling ++ rest) (c :: others)

/-- The token is a literal of C between these quotes. -/
def IsLiteral (quote : Char) (token : String) (cs : List SourceChar) : Prop :=
  ∃ body, token.toList = quote :: body ∧ Reads quote body cs

/-! A text has one meaning in C. -/

/-- The first character of a text and what stands behind it. -/
def front? : List Char → Option (SourceChar × List Char)
  | '\\' :: mark :: rest =>
      if mark = 'x' then
        some (.hexadecimal (rest.takeWhile (digitsBelow 16)), rest.dropWhile (digitsBelow 16))
      else if mark = 'u' then some (.universal mark (rest.take 4), rest.drop 4)
      else if mark = 'U' then some (.universal mark (rest.take 8), rest.drop 8)
      else if digitsBelow 8 mark then
        let digits := ((mark :: rest).take 3).takeWhile (digitsBelow 8)
        some (.octal digits, (mark :: rest).drop digits.length)
      else some (.simple mark, rest)
  | c :: rest => some (.plain c, rest)
  | [] => none

theorem takeWhile_take {bound : Nat} {test : Char → Bool} {digits rest : List Char}
    (valid : ∀ d ∈ digits, test d = true)
    (maximal : digits.length = bound ∨ digits.length < bound ∧ ∀ d ∈ rest.head?, ¬ test d = true) :
    ((digits ++ rest).take bound).takeWhile test = digits := by
  rw [List.take_append]
  obtain rfl | ⟨less, stops⟩ := maximal
  · simpa using valid
  · obtain ⟨more, same⟩ : ∃ more, bound - digits.length = more + 1 :=
      ⟨bound - digits.length - 1, by omega⟩
    rw [List.take_of_length_le less.le, same]
    refine (takeWhile_append_head valid ?_).1
    cases rest with
    | nil => simp
    | cons c others => simpa using stops

theorem front?_of_valid {quote : Char} {rest : List Char} {c : SourceChar}
    (valid : c.Valid quote rest) : front? (c.spelling ++ rest) = some (c, rest) := by
  cases c with
  | plain d =>
      have other : d ≠ '\\' := fun same => valid (by simp [same])
      rw [SourceChar.spelling, List.singleton_append, front?]
      exact fun _ _ same _ => other same
  | simple mark =>
      have marks : ∀ mark ∈ simpleEscapes.map Prod.fst,
          mark ≠ 'x' ∧ mark ≠ 'u' ∧ mark ≠ 'U' ∧ digitsBelow 8 mark = false :=
        List.all_iff_forall_prop.mp (by decide)
      obtain ⟨noHex, noShort, noLong, noOctal⟩ := marks mark valid
      simp [SourceChar.spelling, front?, noHex, noShort, noLong, noOctal]
  | octal digits =>
      obtain ⟨given, digit, maximal⟩ := valid
      have taken := takeWhile_take digit maximal
      obtain ⟨d, others, rfl⟩ := List.exists_cons_of_ne_nil given
      have noDigits : ∀ c ∈ ['x', 'u', 'U'], digitsBelow 8 c = false :=
        List.all_iff_forall_prop.mp (by decide)
      have other : ∀ c ∈ ['x', 'u', 'U'], d ≠ c := by
        rintro c mark rfl
        exact Bool.false_ne_true ((noDigits d mark).symm.trans (digit d List.mem_cons_self))
      rw [List.cons_append] at taken
      simp only [SourceChar.spelling, List.cons_append, front?]
      rw [if_neg (other _ (by simp)), if_neg (other _ (by simp)), if_neg (other _ (by simp)),
        if_pos (digit d List.mem_cons_self), taken]
      simp
  | hexadecimal digits =>
      obtain ⟨-, digit, stops⟩ := valid
      obtain ⟨front, back⟩ := takeWhile_append_head digit stops
      simp [SourceChar.spelling, front?, front, back]
  | universal mark digits =>
      obtain ⟨-, ⟨rfl, length⟩ | ⟨rfl, length⟩⟩ := valid
      · simp [SourceChar.spelling, front?, ← length]
      · simp [SourceChar.spelling, front?, ← length]

theorem head?_spelling {quote : Char} {rest : List Char} {c : SourceChar}
    (valid : c.Valid quote rest) (mark : quote ≠ '\\') : c.spelling.head? ≠ some quote := by
  cases c with
  | plain d => exact fun same => valid (by simp [Option.some.inj same])
  | simple | octal | hexadecimal | universal => simpa [SourceChar.spelling] using mark.symm

theorem Reads.front? {quote : Char} (mark : quote ≠ '\\') {text : List Char} {c : SourceChar}
    {others : List SourceChar} (read : Reads quote text (c :: others)) :
    text ≠ [quote] ∧ ∃ rest, Literal.front? text = some (c, rest) ∧ Reads quote rest others := by
  cases read with
  | @next _ rest _ valid further =>
      refine ⟨fun same => ?_, rest, front?_of_valid valid, further⟩
      have spelled : c.spelling ≠ [] := by cases c <;> simp [SourceChar.spelling]
      obtain ⟨first, others, more⟩ := List.exists_cons_of_ne_nil spelled
      have other := head?_spelling valid mark
      rw [more, List.cons_append] at same
      rw [more, (List.cons.inj same).1] at other
      exact other rfl

/-- The spelling of a literal determines its characters. -/
theorem Reads.unique {quote : Char} (mark : quote ≠ '\\') {text : List Char}
    {cs others : List SourceChar} (read : Reads quote text cs) (again : Reads quote text others) :
    cs = others := by
  induction cs generalizing text others with
  | nil =>
      cases read
      cases others with
      | nil => rfl
      | cons => exact absurd rfl (again.front? mark).1
  | cons c rest induction =>
      obtain ⟨other, behind, front, further⟩ := read.front? mark
      cases others with
      | nil =>
          cases again
          exact absurd rfl other
      | cons =>
          obtain ⟨-, _, same, alike⟩ := again.front? mark
          cases front.symm.trans same
          rw [induction further alike]

/-! What is read for a literal. -/

theorem stringBody?_append {front : List Char} (fits : ∀ c ∈ front, (Quoted.plain c).Fits '"')
    (rest : List Char) : stringBody? (front ++ rest) = (stringBody? rest).map (front ++ ·) := by
  induction front with
  | nil => simp
  | cons c others induction =>
      obtain ⟨own, further⟩ := List.forall_mem_cons.mp fits
      rw [List.cons_append, stringBody?_plain own, induction further, Option.map_map]
      rfl

theorem digit_fits {c : Char} (digit : digitsBelow 16 c = true) : (Quoted.plain c).Fits '"' := by
  constructor <;> rintro rfl <;> exact absurd digit (by decide)

/-- An escape has a character behind its backslash, and digits behind that. -/
theorem SourceChar.Valid.cases {quote : Char} {rest : List Char} {c : SourceChar}
    (valid : c.Valid quote rest) : (∃ d, c = .plain d ∧ d ∉ ['\\', quote, '\n']) ∨
      ∃ mark digits, c.spelling = '\\' :: mark :: digits ∧ mark ≠ '\n' ∧
        ∀ d ∈ digits, digitsBelow 16 d = true := by
  cases c with
  | plain d => exact .inl ⟨d, rfl, valid⟩
  | simple mark =>
      have marks : ∀ mark ∈ simpleEscapes.map Prod.fst, mark ≠ '\n' :=
        List.all_iff_forall_prop.mp (by decide)
      exact .inr ⟨mark, [], rfl, marks mark valid, by simp⟩
  | octal digits =>
      obtain ⟨given, digit, -⟩ := valid
      obtain ⟨d, others, rfl⟩ := List.exists_cons_of_ne_nil given
      obtain ⟨own, further⟩ := List.forall_mem_cons.mp digit
      refine .inr ⟨d, others, rfl, ?_, ?_⟩
      · rintro rfl
        exact absurd own (by decide)
      · exact fun d member => digitsBelow_of_le (by decide) (further d member)
  | hexadecimal digits => exact .inr ⟨'x', digits, rfl, by decide, valid.2.1⟩
  | universal mark digits =>
      refine .inr ⟨mark, digits, rfl, ?_, valid.1⟩
      obtain ⟨-, ⟨rfl, -⟩ | ⟨rfl, -⟩⟩ := valid <;> decide

theorem SourceChar.taken_plain {d : Char} : (SourceChar.plain d).taken = [d] := by
  simp [taken, spelling]

theorem SourceChar.taken_escape {c : SourceChar} {mark : Char} {digits : List Char}
    (same : c.spelling = '\\' :: mark :: digits) : c.taken = escaped mark :: digits := by
  simp [taken, same]

theorem stringBody?_spelling {rest : List Char} {c : SourceChar} (valid : c.Valid '"' rest) :
    stringBody? (c.spelling ++ rest) = (stringBody? rest).map (c.taken ++ ·) := by
  obtain ⟨d, rfl, fits⟩ | ⟨mark, digits, same, other, digit⟩ := valid.cases
  · simp only [List.mem_cons, List.not_mem_nil, or_false, not_or] at fits
    rw [SourceChar.taken_plain]
    exact stringBody?_plain ⟨fits.1, fits.2.1⟩ rest
  · have fits : ∀ d ∈ digits, (Quoted.plain d).Fits '"' :=
      fun d member => digit_fits (digit d member)
    rw [same, SourceChar.taken_escape same, List.cons_append, List.cons_append, stringBody?,
      if_neg (by simpa using other), stringBody?_append fits, Option.map_map]
    rfl

theorem Reads.stringBody? {text : List Char} {cs : List SourceChar} (read : Reads '"' text cs) :
    Literal.stringBody? text = some (cs.flatMap SourceChar.taken) := by
  induction read with
  | closed => rfl
  | next valid _ induction => rw [stringBody?_spelling valid, induction]; rfl

theorem octalDigit_mem {d : Char} (digit : digitsBelow 8 d = true) :
    d ∈ ['0', '1', '2', '3', '4', '5', '6', '7'] := by
  obtain ⟨value, small, found⟩ := digitsBelow_iff.mp digit
  rw [hexValue?_eq] at found
  have bounds : 48 ≤ d.toNat ∧ d.toNat < 56 := by
    split_ifs at found <;> simp only [Option.some.injEq] at found <;> omega
  have codes : ∀ n < 56, 48 ≤ n → Char.ofNat n ∈ ['0', '1', '2', '3', '4', '5', '6', '7'] := by
    decide
  rw [← Char.ofNat_toNat d]
  exact codes _ bounds.2 bounds.1

/-- What is read for a character is the character exactly if it is kept. -/
theorem taken_eq_iff {quote : Char} {rest : List Char} {c : SourceChar}
    (valid : c.Valid quote rest) : c.taken.map Char.toNat = [c.code] ↔ c.IsKept := by
  cases c with
  | plain d => simp [SourceChar.taken_plain, SourceChar.code, SourceChar.IsKept]
  | simple mark =>
      have codes : ∀ mark ∈ simpleEscapes.map Prod.fst,
          (escaped mark).toNat = (simpleEscapes.lookup mark).getD 0 :=
        List.all_iff_forall_prop.mp (by decide)
      rw [@SourceChar.taken_escape (.simple mark) _ [] rfl]
      simp [SourceChar.code, SourceChar.IsKept, codes mark valid]
  | octal digits =>
      obtain ⟨given, digit, -⟩ := valid
      obtain ⟨d, others, rfl⟩ := List.exists_cons_of_ne_nil given
      rw [@SourceChar.taken_escape (.octal _) d others rfl]
      have codes : ∀ d ∈ ['0', '1', '2', '3', '4', '5', '6', '7'],
          (escaped d).toNat = positional 8 [d] ↔ d = '0' :=
        List.all_iff_forall_prop.mp (by decide)
      cases others with
      | nil => simpa [SourceChar.code, SourceChar.IsKept] using
          codes d (octalDigit_mem (digit d List.mem_cons_self))
      | cons => simp [SourceChar.IsKept]
  | hexadecimal digits =>
      rw [@SourceChar.taken_escape (.hexadecimal _) 'x' digits rfl]
      simpa [SourceChar.IsKept] using fun _ => valid.1
  | universal mark digits =>
      rw [@SourceChar.taken_escape (.universal mark _) mark digits rfl]
      have given : digits ≠ [] := by
        rintro rfl
        simpa using valid.2
      simpa [SourceChar.IsKept] using fun _ => given

theorem length_le_flatMap {α β : Type} {f : α → List β} {entries : List α}
    (given : ∀ a ∈ entries, f a ≠ []) : entries.length ≤ (entries.flatMap f).length := by
  induction entries with
  | nil => simp
  | cons a rest induction =>
      obtain ⟨own, others⟩ := List.forall_mem_cons.mp given
      have one := List.length_pos_of_ne_nil own
      have more := induction others
      rw [List.flatMap_cons, List.length_append, List.length_cons]
      omega

/-- Lists in a row are as long as they are many only if each has one entry. -/
theorem flatMap_eq_map_iff {α β : Type} {f : α → List β} {g : α → β} {entries : List α}
    (given : ∀ a ∈ entries, f a ≠ []) :
    entries.flatMap f = entries.map g ↔ ∀ a ∈ entries, f a = [g a] := by
  induction entries with
  | nil => simp
  | cons a rest induction =>
      obtain ⟨own, others⟩ := List.forall_mem_cons.mp given
      rw [List.forall_mem_cons, List.flatMap_cons, List.map_cons, ← induction others]
      constructor
      · intro same
        obtain ⟨first, more, shown⟩ := List.exists_cons_of_ne_nil own
        rw [shown, List.cons_append] at same
        obtain ⟨rfl, further⟩ := List.cons.inj same
        have lengths := congrArg List.length further
        rw [List.length_append, List.length_map] at lengths
        have short := length_le_flatMap others
        obtain rfl : more = [] := List.eq_nil_of_length_eq_zero (by omega)
        exact ⟨shown, further⟩
      · rintro ⟨same, further⟩
        rw [same, further]
        rfl

theorem taken_ne_nil {quote : Char} {rest : List Char} {c : SourceChar}
    (valid : c.Valid quote rest) : c.taken ≠ [] := by
  obtain ⟨d, rfl, -⟩ | ⟨mark, digits, same, -⟩ := valid.cases
  · simp [SourceChar.taken_plain]
  · simp [SourceChar.taken_escape same]

theorem Reads.valid {quote : Char} {text : List Char} {cs : List SourceChar}
    (read : Reads quote text cs) : ∀ c ∈ cs, ∃ rest, c.Valid quote rest := by
  induction read with
  | closed => simp
  | next valid _ induction => exact List.forall_mem_cons.mpr ⟨⟨_, valid⟩, induction⟩

/-! Macro bodies. -/

theorem rows_valid {quote : Char} {tokens : List String} {rows : List (List SourceChar)}
    (written : List.Forall₂ (IsLiteral quote) tokens rows) :
    ∀ c ∈ rows.flatten, ∃ rest, c.Valid quote rest := by
  induction written with
  | nil => simp
  | cons literal _ induction =>
      obtain ⟨body, -, read⟩ := literal
      rw [List.flatten_cons]
      exact List.forall_mem_append.mpr ⟨read.valid, induction⟩

theorem IsLiteral.string? {token : String} {cs : List SourceChar}
    (literal : IsLiteral '"' token cs) :
    Literal.string? token = some (cs.flatMap SourceChar.taken) := by
  obtain ⟨body, same, read⟩ := literal
  rw [Literal.string?, same]
  exact read.stringBody?

theorem rows_mapM {tokens : List String} {rows : List (List SourceChar)}
    (written : List.Forall₂ (IsLiteral '"') tokens rows) :
    tokens.mapM string? = some (rows.map (·.flatMap SourceChar.taken)) :=
  mapM_eq_some.mpr (List.forall₂_map_right_iff.mpr (written.imp fun _ _ literal => literal.string?))

theorem rows_value {tokens : List String} {rows : List (List SourceChar)} (given : tokens ≠ [])
    (written : List.Forall₂ (IsLiteral '"') tokens rows) (depth : Nat) :
    ofTokens? (parenthesized depth tokens) =
      .ok (some (.text (String.ofList (rows.flatten.flatMap SourceChar.taken)))) := by
  have read := rows_mapM written
  obtain ⟨bodies, literals, -⟩ := mapM_string?.mp read
  rw [ofTokens?_parenthesized (Core.text given literals).not_wrapped]
  obtain ⟨token, others, rfl⟩ := List.exists_cons_of_ne_nil given
  simp only [ofBody?]
  rw [read, List.flatMap_def, List.map_flatten, List.flatten_flatten, List.map_map]
  simp only [Function.comp_def, List.flatMap_def]

/-- Behind a single quote stands no number. -/
theorem number?_quote (negative : Bool) (body : List Char) :
    number? negative ('\x27' :: body) =
      .ok ((char? ('\x27' :: body)).map fun c => .int (factor negative * c.toNat)) := by
  obtain ⟨noInteger, noFloat⟩ := @no_number '\x27' (by decide) body
  rw [number?, noInteger, noFloat]
  simp only [signed_eq]

/-- A character is taken only if it is spelled by one character, or one behind a backslash. -/
theorem char?_spelling {c : SourceChar} (valid : c.Valid '\x27' ['\x27']) :
    char? ('\x27' :: (c.spelling ++ ['\x27'])) =
      if 2 < c.spelling.length then none else c.taken.head? := by
  obtain ⟨d, rfl, fits⟩ | ⟨mark, digits, same, other, digit⟩ := valid.cases
  · simp only [List.mem_cons, List.not_mem_nil, or_false, not_or] at fits
    simp [SourceChar.taken_plain, SourceChar.spelling, char?, fits]
  · rw [SourceChar.taken_escape same, same]
    cases digits with
    | nil => simp [char?, other]
    | cons d more => cases more <;> simp [char?]

theorem long_iff {quote : Char} {rest : List Char} {c : SourceChar} (valid : c.Valid quote rest) :
    2 < c.spelling.length ↔ 1 < c.taken.length := by
  obtain ⟨d, rfl, -⟩ | ⟨mark, digits, same, -⟩ := valid.cases
  · simp [SourceChar.taken_plain, SourceChar.spelling]
  · simp [SourceChar.taken_escape same, same]

theorem factor_ne_zero (negative : Bool) : factor negative ≠ 0 := by
  cases negative <;> decide

/-- Reading string and character literals of C does not fail. String literals in a row have the
text that C makes of them exactly if every character in them is kept. A character literal has no
value if more than one character stands behind its backslash, and otherwise the one that C gives
it exactly if its character is kept. -/
theorem quotations_kept_iff (depth : Nat) :
    (∀ tokens rows, tokens ≠ [] → List.Forall₂ (IsLiteral '"') tokens rows →
      ∃ text : String, ofTokens? (parenthesized depth tokens) = .ok (some (.text text)) ∧
        text.toList = rows.flatten.flatMap SourceChar.taken ∧
        (text.toList.map Char.toNat = rows.flatten.map SourceChar.code ↔
          ∀ c ∈ rows.flatten, c.IsKept)) ∧
    ∀ negative sign token c, SignTokens negative sign → IsLiteral '\x27' token [c] →
      ∃ result, ofTokens? (parenthesized depth (sign ++ [token])) = .ok result ∧
        (result = none ↔ 2 < c.spelling.length) ∧
        (result = some (.int (factor negative * c.code)) ↔ c.IsKept) := by
  constructor
  · intro tokens rows given written
    refine ⟨_, rows_value given written depth, String.toList_ofList, ?_⟩
    have valid := rows_valid written
    rw [String.toList_ofList, List.map_flatMap, flatMap_eq_map_iff]
    · refine forall₂_congr fun c member => ?_
      obtain ⟨rest, valid⟩ := valid c member
      exact taken_eq_iff valid
    · intro c member
      obtain ⟨rest, valid⟩ := valid c member
      simpa using taken_ne_nil valid
  · rintro negative sign token c signed ⟨body, same, read⟩
    obtain ⟨valid, rfl⟩ : c.Valid '\x27' ['\x27'] ∧ body = c.spelling ++ ['\x27'] := by
      cases read with
      | next valid further =>
          cases further
          exact ⟨valid, rfl⟩
    have other : Literal.string? token = none := by
      rw [Literal.string?, same]
      rfl
    rw [ofTokens?_parenthesized (signed.not_wrapped token), ofBody?_signed signed other, same,
      number?_quote, char?_spelling valid]
    refine ⟨_, rfl, ?_⟩
    have long := long_iff valid
    obtain ⟨first, more, shown⟩ := List.exists_cons_of_ne_nil (taken_ne_nil valid)
    rw [shown] at long
    rw [← taken_eq_iff valid, shown]
    cases more with
    | nil =>
        rw [if_neg (long.not.mpr (by simp))]
        simp [long, factor_ne_zero]
    | cons d others =>
        rw [if_pos (long.mpr (by simp))]
        simpa using long

/-- `"\x41"` -/
def letterTokens : List String := ["\"\\x41\""]

/-- `-'\1'` -/
def octalTokens : List String := ["-", "'\\1'"]

/-- The letter is read as the three characters of its escape, and the one as the digit. -/
theorem letterTokens_misread :
    List.Forall₂ (IsLiteral '"') letterTokens [[.hexadecimal ['4', '1']]] ∧
      IsLiteral '\x27' "'\\1'" [.octal ['1']] ∧
      ofTokens? letterTokens = .ok (some (.text "x41")) ∧
      ∃ result, ofTokens? octalTokens = .ok result ∧ result ≠ none ∧ result ≠ some (.int (-1)) := by
  have letter : (SourceChar.hexadecimal ['4', '1']).Valid '"' ['"'] :=
    ⟨by decide, List.all_iff_forall_prop.mp (by decide), by rintro _ ⟨⟩; decide⟩
  have one : (SourceChar.octal ['1']).Valid '\x27' ['\x27'] :=
    ⟨by decide, List.all_iff_forall_prop.mp (by decide),
      .inr ⟨by decide, by rintro _ ⟨⟩; decide⟩⟩
  have row : List.Forall₂ (IsLiteral '"') letterTokens [[.hexadecimal ['4', '1']]] :=
    .cons ⟨_, rfl, .next letter .closed⟩ .nil
  have literal : IsLiteral '\x27' "'\\1'" [.octal ['1']] := ⟨_, rfl, .next one .closed⟩
  obtain ⟨text, read, same, -⟩ := (quotations_kept_iff 0).1 letterTokens _ (by decide) row
  obtain ⟨result, found, missing, kept⟩ := (quotations_kept_iff 0).2 true ["-"] _ _ .minus literal
  obtain rfl : text = "x41" := String.toList_inj.mp same
  refine ⟨row, literal, read, result, found, ?_, ?_⟩
  · exact missing.not.mpr (by decide)
  · exact kept.not.mpr (by simp [SourceChar.IsKept])

end LuaBinder.Header.Literal
