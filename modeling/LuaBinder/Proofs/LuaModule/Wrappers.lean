import LuaBinder.Proofs.LuaModule.Assignments
import LuaBinder.Proofs.Session.Values.Variadics

namespace LuaBinder

/-! Functions that pass further arguments are wrapped. Read as Lua reads it, a wrapper calls the
native function with its own arguments in turn if no name of a parameter hides what the body
refers to. -/

namespace LuaModule

open Text

/-! A wrapper read back. -/

/-- What a call passes on: the value of a name, and the type that it is cast to if any. -/
structure Operand where
  cast : Option String
  name : String
  deriving DecidableEq, Repr

structure Wrapper where
  params : List String
  symbol : String
  operands : List Operand
  deriving DecidableEq, Repr

/-- What is separated by commas, up to a closing bracket. -/
def readItems (read : List Char → Option (α × List Char)) :
    Nat → List Char → Option (List α × List Char)
  | 0, _ => none
  | fuel + 1, text =>
      match read text with
      | some (item, ')' :: rest) => some ([item], rest)
      | some (item, ',' :: ' ' :: rest) =>
          (readItems read fuel rest).map fun others => (item :: others.1, others.2)
      | _ => none

def readName (text : List Char) : Option (String × List Char) :=
  let name := String.ofList (text.takeWhile isNameChar)
  if isIdentifier name then some (name, text.dropWhile isNameChar) else none

def readOperand (text : List Char) : Option (Operand × List Char) :=
  match after? "ffi.cast(\"".toList text with
  | some rest => do
      let (type, rest) ← scanString .plain [] rest
      let (name, rest) ← readName (← after? ", ".toList rest)
      return (⟨some (String.ofList type), name⟩, ← after? [')'] rest)
  | none => (readName text).map fun read => (⟨none, read.1⟩, read.2)

/-- A function with its parameters, and one call that it returns. Comments may stand in front. -/
def readWrapper? (code : Code) : Option (String × Wrapper) :=
  match code.dropWhile fun line => "--".toList.isPrefixOf line.text.toList with
  | [header, body, footer] => do
      let (key, text) ← assigned? header.text
      let text ← after? "function(".toList text
      let (params, rest) ← readItems readName text.length text
      let (symbol, text) ← readField? "C" (← after? "return ".toList body.text.toList)
      let text ← after? ['('] text
      let (operands, behind) ← readItems readOperand text.length text
      if rest.isEmpty && behind.isEmpty && footer.text == "end" then
        some (key, ⟨params, symbol, operands⟩)
      else none
  | _ => none

/-- The argument that a name stands for. Of parameters of one name the last one is meant. -/
def argument? : List String → String → Option Nat
  | [], _ => none
  | param :: rest, name =>
      match argument? rest name with
      | some index => some (index + 1)
      | none => if param = name then some 0 else none

/-- The native function that is called, with the cast and the argument for each operand.
Nothing native is called if a parameter hides the library, or hides `ffi` from a cast. -/
def Wrapper.call? (w : Wrapper) : Option (String × List (Option String × Option Nat)) :=
  if "C" ∈ w.params ∨ "ffi" ∈ w.params ∧ w.operands.any (·.cast.isSome) = true then none
  else some (w.symbol, w.operands.map fun operand => (operand.cast, argument? w.params operand.name))

/-! Which argument a name stands for. -/

theorem argument?_eq_none_iff {params : List String} {name : String} :
    argument? params name = none ↔ name ∉ params := by
  induction params with
  | nil => simp [argument?]
  | cons param rest induction =>
      rw [argument?, List.mem_cons, not_or, ← induction]
      cases argument? rest name with
      | none => simp [eq_comm]
      | some index => simp

theorem argument?_cons_of_mem {params : List String} {name : String} (listed : name ∈ params)
    (param : String) : argument? (param :: params) name = (argument? params name).map (· + 1) := by
  rw [argument?]
  cases found : argument? params name with
  | none => exact absurd listed (argument?_eq_none_iff.mp found)
  | some index => rfl

/-- Each parameter stands for its own argument exactly if their names differ. -/
theorem map_argument?_iff (params : List String) :
    params.map (argument? params) = (List.range params.length).map some ↔ params.Nodup := by
  induction params with
  | nil => simp
  | cons param rest induction =>
      have later : rest.map (argument? (param :: rest)) =
          (rest.map (argument? rest)).map (Option.map (· + 1)) := by
        rw [List.map_map]
        exact List.map_congr_left fun name listed => argument?_cons_of_mem listed param
      have counted : (List.range (rest.length + 1)).map some =
          some 0 :: ((List.range rest.length).map some).map (Option.map (· + 1)) := by
        simp [List.range_succ_eq_map]
      have first : argument? (param :: rest) param = some 0 ↔ param ∉ rest := by
        rw [← argument?_eq_none_iff, argument?]
        cases argument? rest param <;> simp
      have shifted : Function.Injective (List.map (Option.map (· + 1) : Option Nat → Option Nat)) :=
        List.map_injective_iff.mpr (Option.map_injective fun _ _ => Nat.add_right_cancel)
      rw [List.map_cons, List.length_cons, later, counted, List.cons.injEq, first, shifted.eq_iff,
        induction, List.nodup_cons]

/-- What is passed on are the arguments in turn exactly if all names differ, and none is one
that the body refers to. -/
theorem Wrapper.call?_eq_some_iff {w : Wrapper} (names : w.operands.map (·.name) = w.params)
    (casts : w.operands.any (·.cast.isSome) = true) :
    w.call? = some (w.symbol, (w.operands.map (·.cast)).zip ((List.range w.params.length).map some)) ↔
      w.params.Nodup ∧ "C" ∉ w.params ∧ "ffi" ∉ w.params := by
  have passed : (w.operands.map fun operand => (operand.cast, argument? w.params operand.name)) =
      (w.operands.map (·.cast)).zip (w.params.map (argument? w.params)) := by
    rw [← names, List.map_map, List.zip_map']
    rfl
  have same : w.operands.length = w.params.length := by rw [← names, List.length_map]
  rw [call?, casts, passed]
  constructor
  · intro called
    split at called
    · cases called
    · rename_i visible
      have turns := congrArg (List.map Prod.snd) (Prod.mk.inj (Option.some.inj called)).2
      rw [List.map_snd_zip (by simp [same]), List.map_snd_zip (by simp [same]),
        map_argument?_iff] at turns
      exact ⟨turns, by simpa using visible⟩
  · rintro ⟨nodup, library, casting⟩
    rw [if_neg (by simp [library, casting]), (map_argument?_iff _).mpr nodup]

/-- The second parameter hides the first one, which is passed nowhere. -/
example : Wrapper.call? ⟨["va0", "va0"], "f", [⟨none, "va0"⟩, ⟨some "int", "va0"⟩]⟩ =
    some ("f", [(none, some 1), (some "int", some 1)]) := by decide

/-! Wrappers are read as they are written. -/

section

variable {read : List Char → Option (α × List Char)} {write : α → String} {items : List α}

theorem length_le_commas (texts : List String) :
    texts.length ≤ (commas texts).toList.length + 1 := by
  induction texts with
  | nil => simp
  | cons text rest induction =>
      cases rest with
      | nil => simp
      | cons other rest =>
          have separator : ", ".toList.length = 2 := rfl
          rw [commas, String.intercalate_cons_cons]
          rw [commas] at induction
          simp only [List.length_cons, String.toList_append, List.length_append] at induction ⊢
          omega

theorem readItems_commas
    (reads : ∀ item ∈ items, ∀ c rest, c = ',' ∨ c = ')' →
      read ((write item).toList ++ c :: rest) = some (item, c :: rest))
    (given : items ≠ []) {fuel : Nat} (enough : items.length ≤ fuel) (rest : List Char) :
    readItems read fuel ((commas (items.map write)).toList ++ ')' :: rest) =
      some (items, rest) := by
  induction items generalizing fuel with
  | nil => exact absurd rfl given
  | cons item others induction =>
      obtain ⟨fuel, rfl⟩ : ∃ more, fuel = more + 1 := ⟨fuel - 1, by simp at enough; omega⟩
      have own := reads item List.mem_cons_self
      cases others with
      | nil =>
          simp [readItems, commas, own ')' rest (.inr rfl)]
      | cons second others =>
          have written : (commas ((item :: second :: others).map write)).toList ++ ')' :: rest =
              (write item).toList ++ ',' :: ' ' ::
                ((commas ((second :: others).map write)).toList ++ ')' :: rest) := by
            simp [commas, String.intercalate_cons_cons]
          have later := induction (fun next listed => reads next (List.mem_cons_of_mem _ listed))
            (List.cons_ne_nil _ _) (Nat.le_of_succ_le_succ enough)
          rw [readItems, written, own ',' _ (.inl rfl)]
          simpa using later

/-- As many steps as there are characters are enough. -/
theorem readItems_all (write : α → String) (reads : ∀ item ∈ items, ∀ c rest, c = ',' ∨ c = ')' →
      read ((write item).toList ++ c :: rest) = some (item, c :: rest))
    (given : items ≠ []) {text : List Char}
    (written : text = (commas (items.map write)).toList ++ [')']) :
    readItems read text.length text = some (items, []) := by
  have enough : items.length ≤ text.length := by
    have long := length_le_commas (items.map write)
    rw [written]
    simpa using long
  have all := readItems_commas reads given enough []
  rwa [← written] at all

end

theorem nameEnds_of_separator {c : Char} (separates : c = ',' ∨ c = ')') (rest : List Char) :
    NameEnds (c :: rest) := by
  rintro _ ⟨⟩
  rcases separates with rfl | rfl <;> decide

theorem readName_append {name : String} (identifier : isIdentifier name = true) {rest : List Char}
    (ends : NameEnds rest) : readName (name.toList ++ rest) = some (name, rest) := by
  obtain ⟨taken, dropped⟩ := takeWhile_name (isIdentifier_chars identifier) ends
  simp [readName, taken, dropped, identifier]

def Operand.text (operand : Operand) : String :=
  match operand.cast with
  | none => operand.name
  | some type => "ffi.cast(" ++ string type ++ ", " ++ operand.name ++ ")"

theorem readOperand_text {operand : Operand} (identifier : isIdentifier operand.name = true)
    {c : Char} (separates : c = ',' ∨ c = ')') (rest : List Char) :
    readOperand (operand.text.toList ++ c :: rest) = some (operand, c :: rest) := by
  obtain ⟨cast, name⟩ := operand
  cases cast with
  | none =>
      have plain : after? "ffi.cast(\"".toList (name.toList ++ c :: rest) = none := by
        by_contra found
        obtain ⟨behind, found⟩ := Option.ne_none_iff_exists'.mp found
        have same : name.toList ++ c :: rest = "ffi".toList ++ '.' :: ("cast(\"".toList ++ behind) := by
          simpa using after?_eq_some found
        obtain ⟨-, rfl⟩ := split_name (isIdentifier_chars identifier) rfl
          (nameEnds_of_separator separates rest c rfl) rfl same
        rcases separates with separates | separates <;> cases separates
      rw [readOperand, Operand.text, plain, readName_append identifier
        (nameEnds_of_separator separates rest)]
      rfl
  | some type =>
      have written : (Operand.text ⟨some type, name⟩).toList ++ c :: rest =
          "ffi.cast(\"".toList ++ (type.toList.flatMap stringChar ++ '"' ::
            (", ".toList ++ (name.toList ++ ')' :: c :: rest))) := by
        simp [Operand.text, string, stringText]
      have ends : NameEnds (')' :: c :: rest) := nameEnds_of_separator (.inr rfl) _
      rw [readOperand, written, after?_append]
      dsimp only
      rw [scanString_text]
      simp [after?, readName_append identifier ends]

theorem isPrefixOf_commentLine (part : String) :
    "--".toList.isPrefixOf (Code.commentLine "--" part).toList = true := by
  have written : ("--" ++ " " ++ part).toList = '-' :: '-' :: (" " ++ part).toList := by simp
  rw [Code.commentLine, trimRight, String.toList_ofList, written, trimEnd_cons (by decide),
    trimEnd_cons (by decide), String.toList_ofList]
  rfl

/-- What a wrapper passes on: its parameters by their names, and further ones cast to their
types. -/
def operandsOf (store : Store) (f : Function) : List Operand :=
  f.params.map (fun p => ⟨none, localName p.name⟩) ++
    f.extra.map fun p => ⟨some (store.declare p.type ""), localName p.name⟩

theorem name_operandsOf (store : Store) (f : Function) :
    (operandsOf store f).map (·.name) = parameterNames f := by
  simp [operandsOf, parameterNames, Function.allParams, Function.comp_def]

theorem wrapper_eq (store : Store) (d : Declaration) (f : Function) (symbol : String) :
    wrapper store d f symbol =
      [⟨0, assign d.name ("function(" ++ commas (parameterNames f) ++ ")")⟩,
        ⟨1, "return " ++ symbol ++ "(" ++ commas ((operandsOf store f).map Operand.text) ++ ")"⟩,
        ⟨0, "end"⟩] := by
  simp [wrapper, Code.block, Code.line, Code.nest, parameterNames, operandsOf, Operand.text,
    Function.allParams, Function.comp_def]

/-- Comments in front of a wrapper are left out. -/
theorem dropWhile_functionCode {store : Store} {d : Declaration} {f : Function}
    (further : f.extra ≠ []) :
    (functionCode store d f).dropWhile (fun line => "--".toList.isPrefixOf line.text.toList) =
      wrapper store d f (field "C" d.nativeName) := by
  have comments : ∀ line ∈ if d.doc == "" then [] else Code.comment "--" d.doc,
      "--".toList.isPrefixOf line.text.toList = true := by
    split_ifs
    · simp
    · intro line listed
      obtain ⟨text, member, rfl⟩ := Code.mem_ofLines.mp listed
      obtain ⟨part, -, rfl⟩ := List.mem_map.mp member
      exact isPrefixOf_commentLine part
  have code (text : String) : "--".toList.isPrefixOf (assign d.name text).toList = false := by
    obtain ⟨rest, written⟩ := List.head?_eq_some_iff.mp (head?_assign d.name text)
    rw [written]
    rfl
  have wraps : f.extra.isEmpty = false := by simpa using further
  rw [functionCode, wraps, if_neg Bool.false_ne_true, List.dropWhile_append_of_pos comments,
    wrapper_eq]
  exact List.dropWhile_cons_of_neg (Bool.eq_false_iff.mp (code _))

theorem readWrapper?_functionCode {store : Store} {d : Declaration} {f : Function}
    (further : f.extra ≠ [])
    (identifiers : ∀ name ∈ parameterNames f, isIdentifier name = true) :
    readWrapper? (functionCode store d f) =
      some (d.name, ⟨parameterNames f, d.nativeName, operandsOf store f⟩) := by
  have named (operand : Operand) (listed : operand ∈ operandsOf store f) :
      isIdentifier operand.name = true :=
    identifiers _ (name_operandsOf store f ▸ List.mem_map_of_mem listed)
  have given : parameterNames f ≠ [] := by simp [parameterNames, Function.allParams, further]
  have params : readItems readName _ _ = some (parameterNames f, []) :=
    readItems_all id (fun name listed c rest separates =>
      readName_append (identifiers name listed) (nameEnds_of_separator separates rest)) given rfl
  have operands : readItems readOperand _ _ = some (operandsOf store f, []) :=
    readItems_all Operand.text (fun operand listed c rest separates =>
      readOperand_text (named operand listed) separates rest) (by simp [operandsOf, further]) rfl
  have header : ("function(" ++ commas (parameterNames f) ++ ")").toList =
      "function(".toList ++ ((commas ((parameterNames f).map id)).toList ++ [')']) := by simp
  have body : ("return " ++ field "C" d.nativeName ++ "(" ++
      commas ((operandsOf store f).map Operand.text) ++ ")").toList =
      "return ".toList ++ ((field "C" d.nativeName).toList ++ '(' ::
        ((commas ((operandsOf store f).map Operand.text)).toList ++ [')'])) := by simp
  have ends (text : List Char) : NameEnds ('(' :: text) := by
    rintro _ ⟨⟩
    decide
  have opened (text : List Char) : after? ['('] ('(' :: text) = some text :=
    after?_append ['('] text
  rw [readWrapper?, dropWhile_functionCode further, wrapper_eq]
  dsimp only
  rw [assigned?_assign, header, body]
  simp only [Option.bind_eq_bind, Option.bind_some, after?_append, params,
    readField?_field "C" d.nativeName (ends _), opened, operands]
  rfl

/-! The names of parameters. A keyword gets an underscore. -/

theorem keyword_facts : ∀ keyword ∈ keywords, keyword ++ "_" ∉ keywords ∧
    keyword ++ "_" ∉ ["C", "ffi"] ∧ isIdentifierText (keyword ++ "_").toList = true ∧
    keyword.toList.getLast?.any Char.isDigit = false := by
  decide

theorem localName_of_mem {name : String} (keyword : name ∈ keywords) :
    localName name = name ++ "_" := if_pos (List.contains_iff_mem.mpr keyword)

theorem localName_of_not_mem {name : String} (other : name ∉ keywords) : localName name = name :=
  if_neg (by simpa using other)

theorem isIdentifier_localName {name : String} (text : isIdentifierText name.toList = true) :
    isIdentifier (localName name) = true := by
  by_cases keyword : name ∈ keywords
  · obtain ⟨other, -, text, -⟩ := keyword_facts name keyword
    rw [localName_of_mem keyword, isIdentifier, text]
    simpa using other
  · rw [localName_of_not_mem keyword, isIdentifier, text]
    simpa using keyword

/-- Only a keyword can get the name of another parameter. -/
theorem eq_of_localName_eq {name other : String} (same : localName name = localName other) :
    name = other ∨ name ∈ keywords ∧ other = name ++ "_" ∨
      other ∈ keywords ∧ name = other ++ "_" := by
  by_cases first : name ∈ keywords <;> by_cases second : other ∈ keywords
  · rw [localName_of_mem first, localName_of_mem second] at same
    exact .inl ((String.append_left_inj "_").mp same)
  · rw [localName_of_mem first, localName_of_not_mem second] at same
    exact .inr (.inl ⟨first, same.symm⟩)
  · rw [localName_of_not_mem first, localName_of_mem second] at same
    exact .inr (.inr ⟨second, same⟩)
  · rw [localName_of_not_mem first, localName_of_not_mem second] at same
    exact .inl same

theorem mem_of_localName_mem {name : String}
    (hidden : localName name ∈ ["C", "ffi"]) : name ∈ ["C", "ffi"] := by
  by_cases keyword : name ∈ keywords
  · rw [localName_of_mem keyword] at hidden
    exact absurd hidden (keyword_facts name keyword).2.1
  · rwa [localName_of_not_mem keyword] at hidden

/-- Numbers stand at the end of a name. -/
theorem getLast?_numbered (stem : String) (index : Nat) :
    (stem ++ toString index).toList.getLast?.any Char.isDigit = true := by
  have digits : (toString index).toList = Nat.toDigits 10 index := by
    rw [Nat.toString_eq_ofList_toDigits, String.toList_ofList]
  rw [String.toList_append, digits, List.getLast?_append_of_ne_nil _ Nat.toDigits_ne_nil,
    List.getLast?_eq_some_getLast Nat.toDigits_ne_nil, Option.any_some]
  exact Nat.isDigit_of_mem_toDigits (by decide) (by decide) (List.getLast_mem _)

theorem localName_numbered (stem : String) (index : Nat) :
    localName (stem ++ toString index) = stem ++ toString index := by
  refine localName_of_not_mem fun keyword => ?_
  have digit := getLast?_numbered stem index
  rw [(keyword_facts _ keyword).2.2.2] at digit
  cases digit

theorem eq_numbered_of_localName_eq {name stem : String} {index : Nat}
    (same : localName name = stem ++ toString index) : name = stem ++ toString index := by
  by_cases keyword : name ∈ keywords
  · have digit := getLast?_numbered stem index
    rw [← same, localName_of_mem keyword, String.toList_append] at digit
    simp at digit
  · rwa [localName_of_not_mem keyword] at same

end LuaModule

/-- Parameters are called as they are declared. Those without a name are numbered, and so are
further ones. -/
structure Function.KeepsNames (f : Function) : Prop where
  fixed : ∀ (index : Nat) (p : Parameter), f.params[index]? = some p →
    p.name = if p.nativeName = "" then "arg" ++ toString index else p.nativeName
  extra : f.extra.map (·.name) =
    (List.range f.extra.length).map fun index => "va" ++ toString index

/-- What is declared has a name of its own, which is an identifier. -/
structure Function.NamedApart (f : Function) : Prop where
  apart : f.params.Pairwise fun p q => p.nativeName ≠ "" → p.nativeName ≠ q.nativeName
  identifiers : ∀ p ∈ f.params, p.nativeName ≠ "" →
    LuaModule.isIdentifierText p.nativeName.toList = true

/-- A declared name is one that the wrapper itself gives or refers to. -/
inductive Function.Clashes (f : Function) : Prop
  | module {p : Parameter} (listed : p ∈ f.params) (hides : p.nativeName ∈ ["C", "ffi"])
  | extra {p : Parameter} {index : Nat} (listed : p ∈ f.params) (further : index < f.extra.length)
      (same : p.nativeName = "va" ++ toString index)
  | nameless {p q : Parameter} {index : Nat} (listed : p ∈ f.params)
      (found : f.params[index]? = some q) (unnamed : q.nativeName = "")
      (same : p.nativeName = "arg" ++ toString index)
  | keyword {p q : Parameter} (listed : p ∈ f.params) (listed' : q ∈ f.params)
      (keyword : p.nativeName ∈ LuaModule.keywords) (same : q.nativeName = p.nativeName ++ "_")

namespace Function

open LuaModule Text

variable {f : Function} {p : Parameter} {index : Nat}

namespace KeepsNames

variable (keeps : f.KeepsNames)
include keeps

theorem name_of_named (listed : p ∈ f.params) (named : p.nativeName ≠ "") :
    p.name = p.nativeName := by
  obtain ⟨index, found⟩ := List.getElem?_of_mem listed
  rw [keeps.fixed index p found, if_neg named]

theorem extraNames : f.extra.map (fun p => localName p.name) =
    (List.range f.extra.length).map fun index => "va" ++ toString index := by
  have names := congrArg (List.map localName) keeps.extra
  rw [List.map_map, List.map_map] at names
  exact names.trans (List.map_congr_left fun index _ => localName_numbered "va" index)

theorem nodup_extraNames : (f.extra.map fun p => localName p.name).Nodup := by
  rw [keeps.extraNames]
  refine List.nodup_range.map fun index other same => ?_
  exact toString_injective ((String.append_right_inj "va").mp same)

/-- A parameter has a number for a name if it is nameless, or if it is called so. -/
theorem eq_of_localName_numbered {stem : String} {number : Nat} (found : f.params[index]? = some p)
    (same : localName p.name = stem ++ toString number) :
    p.nativeName = "" ∧ "arg" ++ toString index = stem ++ toString number ∨
      p.nativeName = stem ++ toString number := by
  have name := keeps.fixed index p found
  split at name
  · rename_i nameless
    rw [name, localName_numbered] at same
    exact .inl ⟨nameless, same⟩
  · exact .inr (name ▸ eq_numbered_of_localName_eq same)

end KeepsNames

theorem parameterNames_eq (f : Function) : parameterNames f =
    f.params.map (fun p => localName p.name) ++ f.extra.map fun p => localName p.name := by
  simp [parameterNames, allParams]

theorem first_letters (number other : Nat) :
    "arg" ++ toString number ≠ "va" ++ toString other ∧
      "arg" ++ toString number ∉ ["C", "ffi"] ∧ "va" ++ toString number ∉ ["C", "ffi"] := by
  have letters (stem text : String) {c d : Char} (first : stem.toList.head? = some c)
      (second : text.toList.head? = some d) (other : c ≠ d) : stem ++ toString number ≠ text := by
    rintro rfl
    rw [head?_append first] at second
    exact other (Option.some.inj second)
  have split {stem : String} {c : Char} (first : stem.toList.head? = some c)
      (other : c ≠ 'C' ∧ c ≠ 'f') : stem ++ toString number ∉ ["C", "ffi"] := by
    simpa using ⟨letters stem "C" first rfl other.1, letters stem "ffi" first rfl other.2⟩
  exact ⟨letters "arg" _ rfl (head?_append rfl _) (by decide), split rfl (by decide),
    split rfl (by decide)⟩

/-- Two names for one argument are what a clash is. -/
theorem clashes_of_same (keeps : f.KeepsNames) (named : f.NamedApart) {q : Parameter} {other : Nat}
    (found : f.params[index]? = some p) (found' : f.params[other]? = some q) (before : index < other)
    (same : localName p.name = localName q.name) : f.Clashes := by
  have listed := List.mem_of_getElem? found
  have listed' := List.mem_of_getElem? found'
  have name := keeps.fixed index p found
  have name' := keeps.fixed other q found'
  split at name <;> rename_i first
  · rw [name, localName_numbered] at same
    rcases keeps.eq_of_localName_numbered found' same.symm with ⟨-, numbers⟩ | numbered
    · have order := toString_injective ((String.append_right_inj "arg").mp numbers)
      omega
    · exact .nameless listed' found first numbered
  split at name' <;> rename_i second
  · rw [name', localName_numbered] at same
    rcases keeps.eq_of_localName_numbered found same with ⟨unnamed, -⟩ | numbered
    · exact absurd unnamed first
    · exact .nameless listed found' second numbered
  · rw [name, name'] at same
    rcases eq_of_localName_eq same with equal | ⟨keyword, suffixed⟩ | ⟨keyword, suffixed⟩
    · obtain ⟨bound, rfl⟩ := List.getElem?_eq_some_iff.mp found
      obtain ⟨bound', rfl⟩ := List.getElem?_eq_some_iff.mp found'
      exact absurd equal (List.pairwise_iff_getElem.mp named.apart index other bound bound' before
        first)
    · exact .keyword listed listed' keyword suffixed
    · exact .keyword listed' listed keyword suffixed

theorem Clashes.not_apart (keeps : f.KeepsNames) (clash : f.Clashes) :
    ¬ ((parameterNames f).Nodup ∧ ∀ name ∈ parameterNames f, name ∉ ["C", "ffi"]) := by
  rw [parameterNames_eq, List.nodup_append']
  rintro ⟨⟨nodup, -, disjoint⟩, hides⟩
  have distinct {p q : Parameter} (listed : p ∈ f.params) (listed' : q ∈ f.params)
      (same : localName p.name = localName q.name) : p = q :=
    List.inj_on_of_nodup_map nodup listed listed' same
  cases clash with
  | @module p listed taken =>
      have given : p.nativeName ≠ "" := by
        rintro nameless
        rw [nameless] at taken
        revert taken
        decide
      have plain : p.nativeName ∉ keywords := by
        rcases List.mem_pair.mp taken with same | same <;> rw [same] <;> decide
      refine hides _ (List.mem_append_left _ (List.mem_map_of_mem listed)) ?_
      rwa [keeps.name_of_named listed given, localName_of_not_mem plain]
  | @extra p index listed further same =>
      have name : localName p.name = "va" ++ toString index := by
        rw [keeps.name_of_named listed (by simp [same]), same, localName_numbered]
      refine disjoint (List.mem_map_of_mem listed) ?_
      rw [keeps.extraNames]
      exact List.mem_map.mpr ⟨index, List.mem_range.mpr further, name.symm⟩
  | @nameless p q index listed found unnamed same =>
      obtain rfl := distinct listed (List.mem_of_getElem? found) (by
        rw [keeps.name_of_named listed (by simp [same]), same, keeps.fixed index q found,
          if_pos unnamed])
      simp [same] at unnamed
  | @keyword p q listed listed' keyword same =>
      obtain ⟨other, -⟩ := keyword_facts _ keyword
      have given : p.nativeName ≠ "" := by
        rintro nameless
        rw [nameless] at keyword
        revert keyword
        decide
      obtain rfl := distinct listed listed' (by
        rw [keeps.name_of_named listed given, keeps.name_of_named listed' (by simp [same]), same,
          localName_of_mem keyword, localName_of_not_mem other])
      exact other (same ▸ keyword)

theorem nodup_parameterNames (keeps : f.KeepsNames) (named : f.NamedApart) (clear : ¬ f.Clashes) :
    (parameterNames f).Nodup := by
  rw [parameterNames_eq, List.nodup_append']
  refine ⟨?_, keeps.nodup_extraNames, ?_⟩
  · refine List.pairwise_map.mpr (List.pairwise_iff_getElem.mpr ?_)
    intro index other bound bound' before same
    exact clear (clashes_of_same keeps named (List.getElem?_eq_getElem bound)
      (List.getElem?_eq_getElem bound') before same)
  · intro name fixed further
    obtain ⟨p, listed, rfl⟩ := List.mem_map.mp fixed
    rw [keeps.extraNames] at further
    obtain ⟨number, bound, same⟩ := List.mem_map.mp further
    obtain ⟨index, found⟩ := List.getElem?_of_mem listed
    rcases keeps.eq_of_localName_numbered found same.symm with ⟨-, numbers⟩ | numbered
    · exact (first_letters index number).1 numbers
    · exact clear (.extra listed (List.mem_range.mp bound) numbered)

theorem parameterNames_hide_nothing (keeps : f.KeepsNames) (clear : ¬ f.Clashes) :
    ∀ name ∈ parameterNames f, name ∉ ["C", "ffi"] := by
  rw [parameterNames_eq, List.forall_mem_append]
  constructor
  · intro name fixed taken
    obtain ⟨p, listed, rfl⟩ := List.mem_map.mp fixed
    obtain ⟨index, found⟩ := List.getElem?_of_mem listed
    have taken := mem_of_localName_mem taken
    rw [keeps.fixed index p found] at taken
    split at taken
    · exact (first_letters index 0).2.1 taken
    · exact clear (.module listed taken)
  · rw [keeps.extraNames]
    intro name further
    obtain ⟨number, -, rfl⟩ := List.mem_map.mp further
    exact (first_letters number 0).2.2

/-- The names of a wrapper's parameters differ, and hide nothing, unless there is a clash. -/
theorem parameterNames_apart_iff (keeps : f.KeepsNames) (named : f.NamedApart) :
    (parameterNames f).Nodup ∧ "C" ∉ parameterNames f ∧ "ffi" ∉ parameterNames f ↔
      ¬ f.Clashes := by
  have hidden : "C" ∉ parameterNames f ∧ "ffi" ∉ parameterNames f ↔
      ∀ name ∈ parameterNames f, name ∉ ["C", "ffi"] := by
    constructor
    · rintro ⟨library, casting⟩ name listed taken
      rcases List.mem_pair.mp taken with rfl | rfl
      · exact library listed
      · exact casting listed
    · intro apart
      exact ⟨fun listed => apart _ listed (by decide), fun listed => apart _ listed (by decide)⟩
  rw [hidden]
  constructor
  · intro apart clash
    exact clash.not_apart keeps apart
  · intro clear
    exact ⟨nodup_parameterNames keeps named clear, parameterNames_hide_nothing keeps clear⟩

theorem isIdentifierText_numbered {stem : String} (text : isIdentifierText stem.toList = true)
    (number : Nat) : isIdentifierText (stem ++ toString number).toList = true := by
  have digits : ∀ c ∈ (toString number).toList, isAsciiAlphanumeric c = true := by
    intro c listed
    rw [Nat.toString_eq_ofList_toDigits, String.toList_ofList] at listed
    have digit := Nat.isDigit_of_mem_toDigits (by decide) (by decide) listed
    rw [isAsciiAlphanumeric, isAsciiDigit, Bool.or_eq_true]
    exact .inr digit
  rw [String.toList_append]
  cases written : stem.toList with
  | nil =>
      rw [written] at text
      cases text
  | cons c rest =>
      rw [written, isIdentifierText, Bool.and_eq_true] at text
      rw [List.cons_append, isIdentifierText, text.1, List.all_append, text.2, Bool.true_and,
        Bool.true_and, List.all_eq_true]
      exact fun d listed => by simp [digits d listed]

theorem isIdentifier_parameterNames (keeps : f.KeepsNames) (named : f.NamedApart) :
    ∀ name ∈ parameterNames f, isIdentifier name = true := by
  intro name listed
  rw [parameterNames_eq, List.mem_append, keeps.extraNames] at listed
  rcases listed with fixed | further
  · obtain ⟨p, listed, rfl⟩ := List.mem_map.mp fixed
    obtain ⟨index, found⟩ := List.getElem?_of_mem listed
    refine isIdentifier_localName ?_
    rw [keeps.fixed index p found]
    split
    · exact isIdentifierText_numbered (by decide) index
    · exact named.identifiers p listed ‹_›
  · obtain ⟨number, -, rfl⟩ := List.mem_map.mp further
    rw [← localName_numbered]
    exact isIdentifier_localName (isIdentifierText_numbered (by decide) number)

/-- No rule renames a parameter of the function. -/
def Unrenamed (policies : List Policy) (owner : String) (f : Function) : Prop :=
  ∀ policy ∈ policies, ∀ p ∈ f.params, p.nativeName ≠ "" →
    Selection.memberRule? owner p.nativeName policy.functions.memberRenames = .ok none

end Function

namespace Sources.Specialized

variable {sources : Sources} {d : Declaration} {f : Function}
  (specialized : sources.Specialized d) (body : d.body = .function f)
include specialized body

theorem keepsNames (unrenamed : f.Unrenamed sources.policies d.nativeName) : f.KeepsNames := by
  obtain ⟨number, -, policy, configured, signature, -, name, binds⟩ := specialized
  obtain ⟨g, same, fixed, types, names⟩ := binds.body
  obtain rfl := Body.function.inj (body.symm.trans same)
  have count : f.extra.length = signature.types.length := by
    rw [← types, List.length_map]
  refine ⟨fun index p found => ?_, count ▸ names⟩
  obtain ⟨same, each⟩ := List.forall₂_iff_get.mp fixed
  obtain ⟨bound, rfl⟩ := List.getElem?_eq_some_iff.mp found
  have own := each index (same ▸ bound) bound
  simp only [List.get_eq_getElem, List.getElem_zipIdx, Nat.zero_add] at own
  split
  · rename_i nameless
    exact own.nameless (own.native ▸ nameless)
  · rename_i given
    obtain ⟨name, renamed, called⟩ := own.named (own.native ▸ given)
    have kept := unrenamed policy configured _ (List.getElem_mem bound) given
    rw [binds.native, own.native] at kept
    rw [Selection.renameMember, kept] at renamed
    obtain rfl : _ = name := Except.ok.inj renamed
    rw [called, own.native, if_neg (own.native ▸ given)]

theorem extraTypes (further : f.extra ≠ []) :
    ∃ policy ∈ sources.policies, ∃ signature ∈ policy.signatures.lookup d.nativeName,
      f.extra.map (·.type) = signature.types := by
  obtain ⟨number, -, policy, configured, signature, listed, name, binds⟩ := specialized
  obtain ⟨g, same, -, types, -⟩ := binds.body
  obtain rfl := Body.function.inj (body.symm.trans same)
  refine ⟨policy, configured, signature, ?_, types⟩
  have other : signature ≠ .fixedOnly := by
    rintro rfl
    exact further (List.map_eq_nil_iff.mp types)
  rw [binds.native]
  unfold SignatureTable.specialize at listed
  split at listed
  · exact absurd (List.mem_singleton.mp listed) other
  · split at listed
    · exact listed
    · exact absurd (List.mem_singleton.mp listed) other

end Sources.Specialized

namespace LuaModule

open Header Session

/-- The types that the arguments of a function are cast to, in turn. Its own parameters are
passed as they are. -/
def casts (store : Store) (f : Function) : List (Option String) :=
  f.params.map (fun _ => none) ++ f.extra.map fun p => some (store.declare p.type "")

/-- `void f(int va0, ...);` -/
def hiddenForest : Forest := ⟨#[
  { kind := .function, spelling := "f", usr := "c:f", result := .ofKind .void, arguments := [1]
    type := .known { TypeFacts.plain .functionPrototype none with variadic := true }
      .absent .absent .absent (NativeType.ofKind .void) .absent .nil },
  { kind := .parameter, spelling := "va0", usr := "c:va0", type := .ofKind .int }]⟩

def hiddenPolicy : Policy := { signatures := [("f", [⟨"_i", [.primitive .int]⟩])] }

def hiddenHistory : Session := history hiddenForest hiddenPolicy [.visit 0]

def hiddenParams : List Parameter × List Parameter :=
  ([{ name := "va0", type := .primitive .int, nativeName := "va0" }],
    [{ name := "va0", type := .primitive .int }])

end LuaModule

end LuaBinder
