import LuaBinder.Proofs.LuaModule.Declarations
import LuaBinder.Proofs.LuaModule.Fields
import LuaBinder.Proofs.LuaModule.Names

namespace LuaBinder.LuaModule

/-! Every native symbol that a module reaches through `C` is declared in it. -/

/-- The symbol behind `C`. -/
def symbol? (text : List Char) : Option String := (readField? "C" text).map Prod.fst

/-- Where a line gives the address of a symbol, that symbol. -/
def addressed? (text : String) : Option String :=
  match readField? "M.addresses" text.toList with
  | some (_, rest) => (after? " = ffi.cast('void *', ".toList rest).bind symbol?
  | none => none

/-- The native symbol that a line reaches: it returns or calls it, sets it, gives it a
name, or takes its address. -/
def touched? (text : String) : Option String :=
  match after? "return ".toList text.toList with
  | some rest => symbol? rest
  | none =>
      match readField? "C" text.toList with
      | some (symbol, rest) => (after? " = ".toList rest).map fun _ => symbol
      | none =>
          match assigned? text with
          | some (_, value) => symbol? value
          | none => addressed? text

example : touched? "M[\"end\"] = C.finish" = some "finish" := by decide

example : touched? "return C[\"goto\"](a, b)" = some "goto" := by decide

theorem symbol?_field (symbol : String) {rest : List Char} (ends : NameEnds rest) :
    symbol? ((field "C" symbol).toList ++ rest) = some symbol := by
  rw [symbol?, readField?_field "C" symbol ends]
  rfl

theorem readField?_of_head {table : String} {text : List Char} {c : Char}
    (written : table.toList.head? = some c) (other : text.head? ≠ some c) :
    readField? table text = none := by
  rw [readField?, after?_of_head written other]
  rfl

theorem symbol?_of_head {text : List Char} (other : text.head? ≠ some 'C') :
    symbol? text = none := by
  rw [symbol?, readField?_of_head rfl other]
  rfl

theorem addressed?_of_head {text : String} (other : text.toList.head? ≠ some 'M') :
    addressed? text = none := by
  rw [addressed?, readField?_of_head rfl other]

/-- A line that does not begin like one that reaches a symbol. -/
theorem touched?_of_head {text : String} {c : Char} (head : text.toList.head? = some c)
    (other : c ≠ 'r' ∧ c ≠ 'C' ∧ c ≠ 'M') : touched? text = none := by
  have apart (d : Char) (ne : c ≠ d) : text.toList.head? ≠ some d := by
    rw [head]
    exact fun same => ne (Option.some.inj same)
  rw [touched?, after?_of_head rfl (apart 'r' other.1), readField?_of_head rfl (apart 'C' other.2.1),
    assigned?_of_head (apart 'M' other.2.2), addressed?_of_head (apart 'M' other.2.2)]

theorem touched?_assign (key text : String) :
    touched? (assign key text) = symbol? text.toList := by
  have head := head?_assign key text
  rw [touched?, after?_of_head rfl (by rw [head]; decide), readField?_of_head rfl (by
    rw [head]; decide), assigned?_assign]

theorem touched?_return (symbol rest : String) (ends : NameEnds rest.toList) :
    touched? ("return " ++ field "C" symbol ++ rest) = some symbol := by
  rw [touched?, String.append_assoc, String.toList_append, after?_append, String.toList_append]
  exact symbol?_field symbol ends

theorem touched?_set (symbol : String) : touched? (field "C" symbol ++ " = value") = some symbol := by
  have head : (field "C" symbol ++ " = value").toList.head? = some 'C' := by
    rw [String.toList_append]
    exact head?_field "C" symbol rfl _
  have ends : NameEnds " = value".toList := by
    rintro c ⟨⟩
    decide
  rw [touched?, after?_of_head rfl (by rw [head]; decide), String.toList_append,
    readField?_field "C" symbol ends]
  rfl

def addressLine (key symbol : String) : String :=
  field "M.addresses" key ++ " = ffi.cast('void *', " ++ field "C" symbol ++ ")"

theorem touched?_address (key symbol : String) : touched? (addressLine key symbol) = some symbol := by
  have cast : NameEnds (" = ffi.cast('void *', ".toList ++ ((field "C" symbol).toList ++ [')'])) := by
    rintro c ⟨⟩
    decide
  have closing : NameEnds [')'] := by
    rintro c ⟨⟩
    decide
  have text : (addressLine key symbol).toList = (field "M.addresses" key).toList ++
      (" = ffi.cast('void *', ".toList ++ ((field "C" symbol).toList ++ [')'])) := by
    simp [addressLine]
  have head : (addressLine key symbol).toList.head? = some 'M' := by
    rw [text]
    exact head?_field "M.addresses" key rfl _
  have unassigned : assigned? (addressLine key symbol) = none := by
    simp only [addressLine, String.append_assoc]
    exact assigned?_inner "addresses" (by decide) _ _
  rw [touched?, after?_of_head rfl (by rw [head]; decide), readField?_of_head rfl (by
    rw [head]; decide), unassigned]
  simp only [addressed?, text, readField?_field _ key cast, after?_append, Option.bind_some]
  exact symbol?_field symbol closing

/-- The line of a type names no symbol. -/
theorem touched?_functionTypeLine (store : Store) (d : Declaration) (f : Function) :
    touched? (functionTypeLine store d f) = none := by
  have head : (functionTypeLine store d f).toList.head? = some 'M' := by
    simp only [functionTypeLine, String.append_assoc]
    rw [String.toList_append]
    exact head?_field "M.types" d.name rfl _
  have unassigned : assigned? (functionTypeLine store d f) = none := by
    simp only [functionTypeLine, String.append_assoc]
    exact assigned?_inner "types" (by decide) _ _
  have elsewhere : readField? "M.addresses" (functionTypeLine store d f).toList = none := by
    obtain ⟨rest, front⟩ := exists_field "M.types" d.name
    simp only [functionTypeLine, String.append_assoc]
    rw [String.toList_append, front, List.append_assoc]
    rfl
  rw [touched?, after?_of_head rfl (by rw [head]; decide), readField?_of_head rfl (by
    rw [head]; decide), unassigned, addressed?, elsewhere]

theorem readKey?_cons {text : List Char} {found : String × List Char}
    (read : readKey? text = some found) : ∃ c rest, text = c :: rest ∧ (c = '.' ∨ c = '[') := by
  unfold readKey? at read
  split at read
  · exact ⟨_, _, rfl, .inl rfl⟩
  · exact ⟨_, _, rfl, .inr rfl⟩
  · cases read

theorem split_name {name front text rest : List Char} {c d : Char}
    (names : ∀ c ∈ name, isNameChar c = true) (fronts : front.all isNameChar = true)
    (here : isNameChar c = false) (there : isNameChar d = false)
    (same : name ++ c :: text = front ++ d :: rest) : name = front ∧ c = d := by
  have ends {e : Char} (other : isNameChar e = false) (text : List Char) : NameEnds (e :: text) := by
    rintro _ ⟨⟩
    exact other
  obtain ⟨taken, dropped⟩ := takeWhile_name names (ends here text)
  obtain ⟨front_taken, front_dropped⟩ := takeWhile_name (List.all_eq_true.mp fronts) (ends there rest)
  rw [same] at taken dropped
  exact ⟨taken.symm.trans front_taken, (List.cons.inj (dropped.symm.trans front_dropped)).1⟩

/-- A name in front of a blank is no table in front of a field. -/
theorem readKey?_after_name {name : String} (identifier : isIdentifier name = true)
    {front : List Char} (names : front.all isNameChar = true) (text : List Char) :
    (after? front (name.toList ++ ' ' :: text)).bind readKey? = none := by
  by_contra read
  obtain ⟨found, read⟩ := Option.ne_none_iff_exists'.mp read
  obtain ⟨rest, behind, key⟩ := Option.bind_eq_some_iff.mp read
  obtain ⟨c, rest, rfl, mark⟩ := readKey?_cons key
  have other : isNameChar c = false := by
    rcases mark with rfl | rfl <;> decide
  obtain ⟨-, rfl⟩ := split_name (isIdentifier_chars identifier) names (by decide) other
    (after?_eq_some behind)
  rcases mark with mark | mark <;> cases mark

/-- A name in front of a blank is no `return`, and no table in front of a field. -/
theorem name_apart {name : String} (identifier : isIdentifier name = true) (text : List Char) :
    after? "return ".toList (name.toList ++ ' ' :: text) = none ∧
      readField? "C" (name.toList ++ ' ' :: text) = none ∧
      readField? "M" (name.toList ++ ' ' :: text) = none ∧
      readField? "M.addresses" (name.toList ++ ' ' :: text) = none := by
  have chars := isIdentifier_chars identifier
  have table {front : String} (fronts : front.toList.all isNameChar = true) :
      readField? front (name.toList ++ ' ' :: text) = none :=
    readKey?_after_name identifier fronts text
  refine ⟨?_, table rfl, table rfl, ?_⟩
  · by_contra found
    obtain ⟨rest, found⟩ := Option.ne_none_iff_exists'.mp found
    have same : name.toList ++ ' ' :: text = "return".toList ++ ' ' :: rest := by
      simpa using after?_eq_some found
    obtain ⟨keyword, -⟩ := split_name chars rfl rfl rfl same
    rw [String.toList_inj.mp keyword] at identifier
    revert identifier
    decide
  · by_contra read
    obtain ⟨found, read⟩ := Option.ne_none_iff_exists'.mp read
    obtain ⟨rest, behind, -⟩ := Option.bind_eq_some_iff.mp read
    have same : name.toList ++ ' ' :: text = "M".toList ++ '.' :: ("addresses".toList ++ rest) := by
      simpa using after?_eq_some behind
    obtain ⟨-, blank⟩ := split_name chars rfl rfl rfl same
    cases blank

/-- A row of a table reaches no symbol, whatever its key is. -/
theorem touched?_row (key text : String) : touched? (tableKey key ++ " = " ++ text) = none := by
  unfold tableKey
  split_ifs with identifier
  · have written : (key ++ " = " ++ text).toList = key.toList ++ ' ' :: ("= " ++ text).toList := by
      simp
    obtain ⟨returned, symbol, member, address⟩ := name_apart identifier ("= " ++ text).toList
    rw [touched?, assigned?, addressed?, written, returned, symbol, member, address]
  · exact touched?_of_head (c := '[') (by simp) (by decide)

/-! The value of a constant is no symbol. -/

open Number

theorem not_mem_digits (n : Nat) : 'C' ∉ Nat.toDigits 10 n := fun member =>
  absurd (Nat.isDigit_of_mem_toDigits (by decide) (by decide) member) (by decide)

theorem not_mem_exponentText (exponent : Int) : 'C' ∉ exponentText exponent := by
  have digits : 'C' ∉ digitChars exponent.natAbs := not_mem_digits _
  simp only [exponentText]
  split_ifs <;> simp [digits]

theorem not_mem_decimalText {digits : List Char} (plain : 'C' ∉ digits) (exponent : Int) :
    'C' ∉ decimalText digits exponent := by
  have exponents := not_mem_exponentText exponent
  simp only [decimalText]
  split_ifs
  · split <;> simp_all
  · simp [plain]
  · simp [plain]
  · have front : 'C' ∉ digits.take (exponent.toNat + 1) := fun member =>
      plain (List.mem_of_mem_take member)
    have back : 'C' ∉ digits.drop (exponent.toNat + 1) := fun member =>
      plain (List.mem_of_mem_drop member)
    simp [front, back]

theorem not_mem_float (value : Binary64) : 'C' ∉ (float value).toList := by
  cases value with
  | infinite negative => cases negative <;> decide
  | nan => decide
  | finite negative significand exponent =>
      have stripped (n : Nat) : 'C' ∉ stripZeros (digitChars n) := by
        intro member
        rw [stripZeros, List.mem_reverse] at member
        exact not_mem_digits n (List.mem_reverse.mp ((List.dropWhile_sublist _).mem member))
      have decimals (n : Nat) (e : Int) := not_mem_decimalText (stripped n) e
      simp only [float, Binary64.text, String.toList_ofList]
      split_ifs <;> simp [decimals]

theorem not_mem_decimal {value : Int} {text : String} (written : decimal value = .ok text) :
    'C' ∉ text.toList := by
  have natural (n : Nat) : 'C' ∉ (toString n).toList := by
    simpa using not_mem_digits n
  unfold decimal at written
  split_ifs at written
  cases written
  cases value with
  | ofNat n => exact natural n
  | negSucc n =>
      have negative : (toString (Int.negSucc n)).toList = '-' :: (toString (n + 1)).toList := by
        have text : toString (Int.negSucc n) = "-" ++ toString (n + 1) := rfl
        simp [text]
      rw [negative]
      exact List.not_mem_cons_of_ne_of_not_mem (by decide) (natural (n + 1))

theorem not_mem_integer {value : Int} {text : String} (written : integer value = .ok text) :
    'C' ∉ text.toList := by
  obtain ⟨digits, decimal, rfl⟩ := map_eq_ok.mp written
  have plain := not_mem_decimal decimal
  split_ifs <;> simp [plain]

theorem not_mem_number {scalar : Scalar} {text : String} (written : number scalar = .ok text) :
    'C' ∉ text.toList := by
  cases scalar with
  | bool value =>
      cases written
      cases value <;> decide
  | int value => exact not_mem_integer (unlessOverlong_eq_ok.mp written)
  | float value =>
      cases written
      exact not_mem_float value
  | text value =>
      simp only [number] at written
      split at written
      · cases written
        exact not_mem_float _
      · cases written

theorem head?_value {rawType : String} {scalar : Scalar} {text : String}
    (written : value rawType scalar = .ok text) : text.toList.head? ≠ some 'C' := by
  unfold value at written
  split_ifs at written
  · obtain ⟨plain, -, rfl⟩ := map_eq_ok.mp written
    simp [string, stringText]
  · exact fun head => not_mem_number written (List.mem_of_head? head)

namespace Code

/-- The native symbols that lines reach, one after the other. -/
def symbols (code : Code) : List String := code.filterMap fun line => touched? line.text

@[simp] theorem symbols_append (front back : Code) :
    symbols (front ++ back) = symbols front ++ symbols back := List.filterMap_append

@[simp] theorem symbols_line (text : String) : symbols (line text) = (touched? text).toList := by
  cases found : touched? text <;> simp [symbols, line, found]

@[simp] theorem symbols_ofLines (texts : List String) :
    symbols (ofLines texts) = texts.filterMap touched? := by
  induction texts with
  | nil => rfl
  | cons text rest induction =>
      have first : ofLines (text :: rest) = line text ++ ofLines rest := rfl
      rw [first, symbols_append, symbols_line, induction]
      cases found : touched? text <;> simp [found]

@[simp] theorem symbols_nest (depth : Nat) (code : Code) : symbols (nest depth code) = symbols code := by
  simp [symbols, nest, List.filterMap_map]

@[simp] theorem symbols_block (header footer : String) (body : Code) :
    symbols (block header footer body) =
      (touched? header).toList ++ symbols body ++ (touched? footer).toList := by
  simp [block]

theorem symbols_comment (text : String) : symbols (comment "--" text) = [] := by
  rw [comment, symbols_ofLines, List.filterMap_eq_nil_iff]
  intro line member
  obtain ⟨part, -, rfl⟩ := List.mem_map.mp member
  exact touched?_of_head (head?_commentLine rfl (by decide) part) (by decide)

end Code

theorem touched?_opening (key text : String) {c : Char} (head : text.toList.head? = some c)
    (other : c ≠ 'C') : touched? (assign key text) = none := by
  rw [touched?_assign, symbol?_of_head]
  rw [head]
  exact fun same => other (Option.some.inj same)

theorem nameEnds_nil : NameEnds [] := nofun

theorem symbols_functionCode (store : Store) (d : Declaration) (f : Function) :
    (functionCode store d f).symbols = [d.nativeName] := by
  have doc : Code.symbols (if d.doc == "" then [] else Code.comment "--" d.doc) = [] := by
    split_ifs
    · rfl
    · exact Code.symbols_comment d.doc
  have closed : touched? "end" = none := touched?_of_head (c := 'e') (by decide) (by decide)
  rw [functionCode, Code.symbols_append, doc]
  split_ifs
  · have own := symbol?_field d.nativeName nameEnds_nil
    rw [List.append_nil] at own
    simp [touched?_assign, own]
  · have header (params : String) : touched? (assign d.name ("function(" ++ params ++ ")")) = none := by
      refine touched?_opening d.name _ (c := 'f') ?_ (by decide)
      simp
    have called (arguments : String) : touched? ("return " ++ field "C" d.nativeName ++ "(" ++
        arguments ++ ")") = some d.nativeName := by
      have text : ("(" ++ arguments ++ ")").toList = '(' :: (arguments ++ ")").toList := by simp
      have ends : NameEnds ("(" ++ arguments ++ ")").toList := by
        rw [text]
        rintro c ⟨⟩
        decide
      rw [String.append_assoc, String.append_assoc]
      exact touched?_return d.nativeName _ ends
    simp [wrapper, header, called, closed]

theorem symbols_globalCode (d : Declaration) (const : Bool) :
    (globalCode d const).symbols ⊆ [d.nativeName] := by
  have closed : touched? "end" = none := touched?_of_head (c := 'e') (by decide) (by decide)
  have getter : touched? (assign ("get_" ++ d.name) "function()") = none :=
    touched?_opening _ _ (c := 'f') (by decide) (by decide)
  have setter : touched? (assign ("set_" ++ d.name) "function(value)") = none :=
    touched?_opening _ _ (c := 'f') (by decide) (by decide)
  have returned : touched? ("return " ++ field "C" d.nativeName) = some d.nativeName := by
    have read := touched?_return d.nativeName "" nameEnds_nil
    rwa [String.append_empty] at read
  cases const <;> simp [globalCode, getter, setter, returned, closed, touched?_set]

theorem touched?_text {front : String} {c : Char} (head : front.toList.head? = some c)
    (other : c ≠ 'r' ∧ c ≠ 'C' ∧ c ≠ 'M') (text : String) : touched? (front ++ text) = none :=
  touched?_of_head (head?_append head text) other

theorem symbols_rows {rows : List String}
    (keyed : ∀ row ∈ rows, ∃ key text, row = tableKey key ++ " = " ++ text) :
    (Code.ofLines rows).symbols = [] := by
  rw [Code.symbols_ofLines, List.filterMap_eq_nil_iff]
  intro row member
  obtain ⟨key, text, rfl⟩ := keyed row member
  exact touched?_row key text

theorem symbols_classCode (store : Store) (d : Declaration) (superclass : Option String)
    (methods : List Method) : (classCode store d superclass methods).symbols = [] := by
  have closed : touched? "\x7d" = none := touched?_of_head (c := '\x7d') (by decide) (by decide)
  have inner : touched? "\x7d," = none := touched?_of_head (c := '\x7d') (by decide) (by decide)
  have opened : touched? (assign d.name "\x7b") = none :=
    touched?_opening _ _ (c := '\x7b') (by decide) (by decide)
  have name (text : String) : touched? ("name = " ++ text) = none :=
    touched?_text (c := 'n') (by decide) (by decide) text
  have parent (text : String) : touched? ("superclass = " ++ text) = none :=
    touched?_text (c := 's') (by decide) (by decide) text
  have table (title : String) {c : Char} (head : title.toList.head? = some c)
      (other : c ≠ 'r' ∧ c ≠ 'C' ∧ c ≠ 'M') (methods : List Method) :
      (methodTable title methods).symbols = [] := by
    have rows : Code.symbols (Code.ofLines (methods.map fun m =>
        tableKey m.name ++ " = " ++ string m.selector ++ ",")) = [] := by
      refine symbols_rows fun row member => ?_
      obtain ⟨m, -, rfl⟩ := List.mem_map.mp member
      exact ⟨m.name, string m.selector ++ ",", by simp only [String.append_assoc]⟩
    rw [methodTable, Code.symbols_block, rows, inner, touched?_text head other]
    rfl
  have instances := table "instance_methods" (c := 'i') (by decide) (by decide)
  have classes := table "class_methods" (c := 'c') (by decide) (by decide)
  unfold classCode
  cases superclass <;>
    simp [opened, closed, name, parent, instances, classes, String.append_assoc]

theorem symbols_memberCode {store : Store} {d : Declaration} {code : Code}
    (written : memberCode store d = .ok code) {symbol : String} (reached : symbol ∈ code.symbols) :
    symbol = d.nativeName ∧ ((∃ f, d.body = .function f) ∨
      ∃ type const exposesAddress, d.body = .global type const exposesAddress) := by
  have type (text : String) : touched? (assign d.name ("ffi.typeof(" ++ text)) = none :=
    touched?_opening _ _ (c := 'f') (head?_append (by decide) text) (by decide)
  unfold memberCode at written
  cases body : d.body with
  | function f =>
      simp only [body] at written
      cases written
      rw [symbols_functionCode] at reached
      exact ⟨List.mem_singleton.mp reached, .inl ⟨f, rfl⟩⟩
  | «global» type const exposesAddress =>
      simp only [body] at written
      cases written
      exact ⟨List.mem_singleton.mp (symbols_globalCode d const reached),
        .inr ⟨type, const, exposesAddress, rfl⟩⟩
  | record kind incomplete members =>
      simp only [body] at written
      cases written
      rw [Code.symbols_line, String.append_assoc, type] at reached
      cases reached
  | typedef underlying =>
      simp only [body] at written
      cases written
      rw [Code.symbols_line, String.append_assoc, type] at reached
      cases reached
  | interface incomplete superclass methods =>
      simp only [body] at written
      cases written
      rw [symbols_classCode] at reached
      cases reached
  | enumeration incomplete constants =>
      simp only [body] at written
      obtain ⟨rows, gathered, finished⟩ := bind_eq_ok.mp written
      cases finished
      have keyed : ∀ row ∈ rows, ∃ key text, row = tableKey key ++ " = " ++ text := by
        intro row member
        obtain ⟨c, -, written⟩ := exists_of_mem_mapM gathered member
        obtain ⟨text, -, finished⟩ := bind_eq_ok.mp written
        cases finished
        exact ⟨c.name, text ++ ",", by rw [String.append_assoc]⟩
      have opened : touched? (assign d.name "\x7b") = none :=
        touched?_opening _ _ (c := '\x7b') (by decide) (by decide)
      have closed : touched? "\x7d" = none := touched?_of_head (c := '\x7d') (by decide) (by decide)
      rw [Code.symbols_block, symbols_rows keyed, opened, closed] at reached
      cases reached
  | constant rawType scalar =>
      simp only [body] at written
      obtain ⟨text, rendered, finished⟩ := bind_eq_ok.mp written
      cases finished
      rw [Code.symbols_line, touched?_assign, symbol?_of_head (head?_value (orFault_eq_ok.mp rendered))]
        at reached
      cases reached

theorem symbols_titled (title : String) (bindings : List Binding) (lines : Code) :
    (titled title bindings lines).symbols ⊆ lines.symbols := by
  have heading : touched? ("-- " ++ title) = none := touched?_text (c := '-') (by decide) (by decide) _
  have empty : touched? "" = none := by decide
  rw [titled]
  split_ifs
  · exact List.nil_subset _
  · rw [Code.symbols_append, Code.symbols_append, Code.blank, Code.symbols_line, Code.symbols_line,
      heading, empty]
    exact List.Subset.refl _

theorem mem_symbols_flatten {codes : List Code} {symbol : String} :
    symbol ∈ Code.symbols codes.flatten ↔ ∃ code ∈ codes, symbol ∈ code.symbols := by
  induction codes with
  | nil => simp [Code.symbols]
  | cons code rest induction =>
      rw [List.flatten_cons, Code.symbols_append, List.mem_append, induction]
      simp

/-- What the sections reach is the symbol of a function or of a global. -/
theorem mem_symbols_sections {store : Store} {bindings : List Binding} {sections : List Code}
    (written : Section.all.mapM (sectionCode store (Layout.of bindings)) = .ok sections)
    {symbol : String} (reached : symbol ∈ Code.symbols sections.flatten) :
    ∃ binding ∈ bindings, symbol = binding.2.nativeName ∧
      ((∃ f, binding.2.body = .function f) ∨
        ∃ type const exposesAddress, binding.2.body = .global type const exposesAddress) := by
  obtain ⟨code, member, reached⟩ := mem_symbols_flatten.mp reached
  obtain ⟨s, -, own⟩ := exists_of_mem_mapM written member
  obtain ⟨members, gathered, rfl⟩ := sectionCode_eq_ok.mp own
  obtain ⟨part, listed, reached⟩ := mem_symbols_flatten.mp (symbols_titled _ _ _ reached)
  obtain ⟨binding, granted, single⟩ := exists_of_mem_mapM gathered listed
  obtain ⟨rfl, kind⟩ := symbols_memberCode single reached
  exact ⟨binding, (Layout.mem_of_within granted).1, rfl, kind⟩

theorem mem_addressLines {seen : List String} {bindings : List Binding} {text : String}
    (member : text ∈ addressLines seen bindings) :
    ∃ binding ∈ bindings, text = addressLine binding.2.nativeName (addressSymbol binding.2) := by
  induction bindings generalizing seen with
  | nil => cases member
  | cons binding rest induction =>
      rw [addressLines] at member
      split_ifs at member
      · obtain ⟨found, listed, rfl⟩ := induction member
        exact ⟨found, List.mem_cons_of_mem binding listed, rfl⟩
      · rcases List.mem_cons.mp member with rfl | member
        · exact ⟨binding, List.mem_cons_self, rfl⟩
        · obtain ⟨found, listed, rfl⟩ := induction member
          exact ⟨found, List.mem_cons_of_mem binding listed, rfl⟩

/-- Addresses are taken of functions, and of globals through their aliases. -/
theorem mem_symbols_addressCode {bindings : List Binding} {symbol : String}
    (reached : symbol ∈ (addressCode bindings).symbols) : ∃ binding ∈ bindings,
      symbol = addressSymbol binding.2 ∧ exposesAddress binding.2 = true := by
  have reached := symbols_titled _ _ _ reached
  rw [Code.symbols_ofLines] at reached
  obtain ⟨text, listed, found⟩ := List.mem_filterMap.mp reached
  obtain ⟨binding, member, rfl⟩ := mem_addressLines listed
  rw [touched?_address, Option.some.injEq] at found
  obtain ⟨given, exposed⟩ := List.mem_filter.mp member
  exact ⟨binding, given, found.symm, exposed⟩

theorem symbols_functionTypeCode (store : Store) (bindings : List Binding) :
    (functionTypeCode store bindings).symbols = [] := by
  refine List.subset_nil.mp (List.Subset.trans (symbols_titled _ _ _) ?_)
  rw [Code.symbols_ofLines, List.subset_nil, List.filterMap_eq_nil_iff]
  intro text member
  obtain ⟨binding, -, written⟩ := List.mem_filterMap.mp member
  obtain ⟨f, -, rfl⟩ := Option.map_eq_some_iff.mp written
  exact touched?_functionTypeLine store binding.2 f

/-- Lines of C that declare a symbol: a function, an object, or an object under the name
that the assembler has for another. -/
inductive DeclaresSymbol (store : Store) (symbol : String) : String → Prop
  | function (front : String) (result : CType) (params : Params) (variadic : Bool)
      (convention : front ∈ ["", "__stdcall ", "__fastcall "]) :
      DeclaresSymbol store symbol
        (store.declare (.function result params variadic) (front ++ symbol) ++ ";")
  | object (front : String) (type : CType) (qualifier : front ∈ ["", "const "]) :
      DeclaresSymbol store symbol ("extern " ++ store.declare type (front ++ symbol) ++ ";")
  | alias (type : CType) (other : String) :
      DeclaresSymbol store symbol
        ("extern " ++ store.declare type symbol ++ " __asm__(" ++ string other ++ ");")

theorem conventionKeyword?_eq {convention : Option String} {keyword : String}
    (found : conventionKeyword? convention = some keyword) :
    keyword = "__stdcall" ∨ keyword = "__fastcall" := by
  unfold conventionKeyword? at found
  split at found
  · exact .inl (Option.some.inj found).symm
  · exact .inr (Option.some.inj found).symm
  · cases found

theorem declaresSymbol_prototype (store : Store) (d : Declaration) (f : Function) :
    DeclaresSymbol store d.nativeName (prototype store d f ++ ";") := by
  unfold prototype
  cases found : conventionKeyword? f.native.convention with
  | some keyword =>
      rcases conventionKeyword?_eq found with rfl | rfl
      · exact .function ("__stdcall" ++ " ") f.result _ f.variadic (by decide)
      · exact .function ("__fastcall" ++ " ") f.result _ f.variadic (by decide)
  | none =>
      have plain (params : Params) : DeclaresSymbol store d.nativeName
          (store.declare (.function f.result params f.variadic) ("" ++ d.nativeName) ++ ";") :=
        .function "" f.result params f.variadic (by decide)
      simp only [String.empty_append] at plain
      exact plain _

section

variable {store : Store} {bindings : List Binding} {parts : Parts}

theorem Parts.Complete.mem_code (complete : parts.Complete store bindings) {binding : Binding}
    (member : binding ∈ bindings) : ∃ seen own, definition store seen binding.2 = .ok own ∧
      own ⊆ parts.code := by
  obtain ⟨part, listed, rfl⟩ := List.mem_map.mp (complete.defined.mem_iff.mpr member)
  obtain ⟨seen, written⟩ := complete.written part listed
  refine ⟨seen, part.2, written, fun line held => ?_⟩
  rw [Parts.code]
  exact List.mem_append_right _ (List.mem_flatMap.mpr ⟨part, listed, held⟩)

theorem Parts.Complete.declares_function (complete : parts.Complete store bindings)
    {binding : Binding} (member : binding ∈ bindings) {f : Function}
    (body : binding.2.body = .function f) :
    ∃ line ∈ parts.code, DeclaresSymbol store binding.2.nativeName line.text := by
  obtain ⟨first, g, -, -, named, only⟩ := complete.functions binding member f body
  have listed : (first, prototypeCode store first.2 g) ∈ parts.defined := by
    have held : (first, prototypeCode store first.2 g) ∈
        prototypesIn parts.defined binding.2.nativeName := by
      rw [only]
      exact List.mem_singleton_self _
    exact (List.mem_filter.mp held).1
  refine ⟨⟨0, prototype store first.2 g ++ ";"⟩, ?_, ?_⟩
  · rw [Parts.code]
    exact List.mem_append_right _ (List.mem_flatMap.mpr ⟨_, listed, List.mem_singleton_self _⟩)
  · rw [← named]
    exact declaresSymbol_prototype store first.2 g

theorem Parts.Complete.declares_global (complete : parts.Complete store bindings)
    {binding : Binding} (member : binding ∈ bindings) {type : CType} {const exposed : Bool}
    (body : binding.2.body = .global type const exposed) :
    (∃ line ∈ parts.code, DeclaresSymbol store binding.2.nativeName line.text) ∧
      (exposed = true →
        ∃ line ∈ parts.code, DeclaresSymbol store (addressAlias binding.2) line.text) := by
  obtain ⟨seen, own, written, within⟩ := complete.mem_code member
  simp only [definition, body] at written
  cases written
  have listed {text : String} (line : text ∈ globalLines store binding.2 type const exposed) :
      ⟨0, text⟩ ∈ parts.code := within (Code.mem_ofLines.mpr ⟨text, line, rfl⟩)
  constructor
  · refine ⟨⟨0, "extern " ++ store.declare type
        (if const then "const " ++ binding.2.nativeName else binding.2.nativeName) ++ ";"⟩,
      listed ?_, ?_⟩
    · cases exposed <;> simp [globalLines]
    · cases const with
      | true => exact .object "const " type (by decide)
      | false =>
          have plain : DeclaresSymbol store binding.2.nativeName
              ("extern " ++ store.declare type ("" ++ binding.2.nativeName) ++ ";") :=
            .object "" type (by decide)
          rwa [String.empty_append] at plain
  · rintro rfl
    exact ⟨_, listed (List.mem_cons_of_mem _ (List.mem_singleton_self _)), .alias _ _⟩

end

end LuaBinder.LuaModule
