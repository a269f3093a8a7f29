import LuaBinder.CType.Reading
import LuaBinder.Proofs.CType.Shapes
import LuaBinder.Proofs.Text.Lines

namespace LuaBinder

open Text

/-! Types in the texts of the configuration: which texts name a type, which type they name, and
that the C declarator of that type names it again. -/

/-- Whether each pointer is one to constant values, from the outermost inwards. -/
def CType.layers : CType → List Bool
  | .pointer target const => const :: target.layers
  | _ => []

/-- What lies below all pointers. -/
def CType.pointee : CType → CType
  | .pointer target _ => target.pointee
  | type => type

namespace TypeText

/-- The characters that a text may end in behind its words. -/
def isTail (c : Char) : Bool := isBlank c || c == '*'

/-- How many asterisks the text ends in, with blanks anywhere among them. -/
def depth (text : List Char) : Nat := (text.reverse.takeWhile isTail).count '*'

/-- The words in front of these, separated by blanks. -/
def spelled (text : List Char) : List (List Char) :=
  ((Text.dropLast isTail text).splitOnP isBlank).filter (!·.isEmpty)

def constWord : List Char := ['c', 'o', 'n', 's', 't']

def isConst (text : List Char) : Bool := (spelled text).contains constWord

def nameOf (spelled : List (List Char)) : String :=
  String.intercalate " " ((spelled.filter (· != constWord)).map String.ofList)

/-- The words but `const`, with single blanks between them. -/
def name (text : List Char) : String := nameOf (spelled text)

/-- The names that are known: keywords of C, and typedefs of its headers. -/
def known : List (String × Primitive) := Primitive.keywordSpellings ++ Primitive.wellKnownTypedefs

/-- Layers of which only the innermost may be one to constant values. -/
def layersOf (const : Bool) : Nat → List Bool
  | 0 => []
  | depth + 1 => List.replicate depth false ++ [const]

/-- What a text must spell to be read as a type over a primitive one. -/
structure Names (text : List Char) (primitive : Primitive) : Prop where
  known : (name text, primitive) ∈ known
  passable : ¬ (primitive = .void ∧ depth text = 0)

theorem takeStars_eq (text : List Char) :
    takeStars text = ((text.takeWhile isTail).count '*', text.dropWhile isTail) := by
  induction text with
  | nil => rfl
  | cons c rest induction =>
      rw [takeStars]
      by_cases blank : isBlank c = true
      · have other : c ≠ '*' := by
          rintro rfl
          exact absurd blank (by decide)
        simp [blank, isTail, induction, other]
      · by_cases star : c = '*'
        · simp [isTail, induction, star, show isBlank '*' = false by decide]
        · simp [isTail, blank, star]

/-- No name is listed for two types. -/
theorem ofSpelling?_of_known : ∀ entry ∈ known, Primitive.ofSpelling? entry.1 = some entry.2 := by
  decide

theorem ofSpelling?_eq_some {text : String} {primitive : Primitive} :
    Primitive.ofSpelling? text = some primitive ↔ (text, primitive) ∈ known := by
  constructor
  · intro read
    rw [Primitive.ofSpelling?, Option.map_eq_some_iff] at read
    obtain ⟨entry, found, rfl⟩ := read
    have same : entry.1 = text := by simpa using List.find?_some found
    rw [← same]
    exact List.mem_of_find?_eq_some found
  · exact ofSpelling?_of_known (text, primitive)

theorem words_eq (text : List Char) :
    words text = (text.splitOnP isBlank).filter (!·.isEmpty) := by
  suffices continued : ∀ word, wordsFrom word text =
      ((text.splitOnP isBlank).modifyHead (word ++ ·)).filter (!·.isEmpty) by
    obtain ⟨first, rest, split⟩ :=
      List.exists_cons_of_ne_nil (List.splitOnP_ne_nil isBlank text)
    simpa [words, split] using continued []
  induction text with
  | nil =>
      intro word
      cases word <;> simp [wordsFrom]
  | cons c rest induction =>
      intro word
      obtain ⟨first, others, split⟩ :=
        List.exists_cons_of_ne_nil (List.splitOnP_ne_nil isBlank rest)
      rw [wordsFrom, List.splitOnP_cons_eq_if_modifyHead]
      split_ifs with blank empty
      · simp [List.isEmpty_iff.mp empty, induction, split]
      · simp [induction, split, empty]
      · simp [induction, split]

theorem spelled_eq (text : List Char) :
    spelled text = words (takeStars text.reverse).2.reverse := by
  rw [words_eq, takeStars_eq, spelled, Text.dropLast]

theorem depth_eq (text : List Char) : depth text = (takeStars text.reverse).1 := by
  rw [takeStars_eq, depth]

theorem ofText_eq (text : String) : CType.ofText text =
    match Primitive.ofSpelling? (name text.toList) with
    | none => .error (.unsupported text)
    | some primitive =>
        if primitive == .void && depth text.toList == 0 then .error .plainVoid
        else .ok (pointers (.primitive primitive) (isConst text.toList) (depth text.toList)) := by
  rw [name, isConst, spelled_eq, depth_eq, CType.ofText]
  generalize takeStars text.toList.reverse = taken
  rfl

/-! The layers of what is read. -/

theorem layers_pointers (primitive : Primitive) (const : Bool) : (depth : Nat) →
    (pointers (.primitive primitive) const depth).layers = layersOf const depth
  | 0 => rfl
  | 1 => rfl
  | depth + 2 => congrArg (List.cons false) (layers_pointers primitive const (depth + 1))

theorem pointee_pointers (primitive : Primitive) (const : Bool) : (depth : Nat) →
    (pointers (.primitive primitive) const depth).pointee = .primitive primitive
  | 0 => rfl
  | 1 => rfl
  | depth + 2 => pointee_pointers primitive const (depth + 1)

/-- A type consists of its layers and of what lies below them. -/
theorem foldr_layers : (type : CType) →
    type.layers.foldr (fun const target => .pointer target const) type.pointee = type
  | .pointer target const => congrArg (CType.pointer · const) (foldr_layers target)
  | .primitive _ | .array _ _ | .compound _ | .typedef _ | .function _ _ _ | .unsupported _ => rfl

theorem eq_pointers_iff {type : CType} {primitive : Primitive} {const : Bool} {depth : Nat} :
    type = pointers (.primitive primitive) const depth ↔
      type.pointee = .primitive primitive ∧ type.layers = layersOf const depth := by
  constructor
  · rintro rfl
    exact ⟨pointee_pointers primitive const depth, layers_pointers primitive const depth⟩
  · rintro ⟨pointee, layers⟩
    rw [← foldr_layers type, ← foldr_layers (pointers (.primitive primitive) const depth),
      pointee, layers, pointee_pointers, layers_pointers]

theorem ofText_eq_ok_iff {text : String} {type : CType} : CType.ofText text = .ok type ↔
    ∃ primitive, Names text.toList primitive ∧
      type = pointers (.primitive primitive) (isConst text.toList) (depth text.toList) := by
  rw [ofText_eq]
  constructor
  · intro read
    split at read
    · cases read
    · rename_i primitive found
      split_ifs at read with void
      refine ⟨primitive, ⟨ofSpelling?_eq_some.mp found, ?_⟩, (Except.ok.inj read).symm⟩
      simpa using void
  · rintro ⟨primitive, names, rfl⟩
    have passable := names.passable
    simp_all [ofSpelling?_eq_some.mpr names.known]

theorem ofText_eq_unsupported_iff {text : String} {shown : String} :
    CType.ofText text = .error (.unsupported shown) ↔
      shown = text ∧ ∀ primitive, (name text.toList, primitive) ∉ known := by
  rw [ofText_eq]
  cases found : Primitive.ofSpelling? (name text.toList) with
  | none =>
      have unknown (primitive : Primitive) : (name text.toList, primitive) ∉ known := fun listed =>
        Option.some_ne_none _ ((ofSpelling?_eq_some.mpr listed).symm.trans found)
      simp [unknown, eq_comm]
  | some primitive =>
      have listed := ofSpelling?_eq_some.mp found
      constructor
      · intro read
        dsimp only at read
        split_ifs at read
        cases read
      · rintro ⟨-, unknown⟩
        exact absurd listed (unknown primitive)

theorem void_mem_known {text : String} : (text, Primitive.void) ∈ known ↔ text = "void" := by
  constructor
  · intro listed
    exact (by decide : ∀ entry ∈ known, entry.2 = .void → entry.1 = "void") _ listed rfl
  · rintro rfl
    decide

theorem ofText_eq_plainVoid_iff {text : String} : CType.ofText text = .error .plainVoid ↔
    name text.toList = "void" ∧ depth text.toList = 0 := by
  rw [ofText_eq, ← void_mem_known, ← ofSpelling?_eq_some]
  cases found : Primitive.ofSpelling? (name text.toList) with
  | none => simp
  | some primitive =>
      by_cases void : primitive = .void <;> by_cases bare : depth text.toList = 0 <;>
        simp [void, bare]

/-! A type is read again from its declarator. -/

def stars (depth : Nat) : String := String.ofList (List.replicate depth '*')

theorem isSuffixed_pointers (primitive : Primitive) (const : Bool) : (depth : Nat) →
    (pointers (.primitive primitive) const depth).isSuffixed = false
  | 0 | 1 | _ + 2 => rfl

theorem declare_pointers (primitive : Primitive) (const : Bool) (spelling : Spelling) :
    (depth : Nat) → (name : String) →
    (pointers (.primitive primitive) const (depth + 1)).declare spelling name =
      (if const then "const " else "") ++
        nameThen primitive.spelling (stars (depth + 1) ++ name)
  | 0, name => by
      rw [pointers, CType.declare_pointer spelling rfl, CType.declare]
      cases const <;> simp [stars]
  | depth + 1, name => by
      have longer : stars (depth + 1) ++ ("*" ++ name) = stars (depth + 2) ++ name := by
        rw [← String.toList_inj]
        simp [stars, List.replicate_succ' (n := depth + 1)]
      rw [pointers, CType.declare_pointer spelling (isSuffixed_pointers primitive const _),
        if_neg (by decide), declare_pointers primitive const spelling depth, longer]

/-- The words of a declarator, in front of its asterisks. -/
def stem (primitive : Primitive) (const : Bool) : List Char :=
  (if const then "const " else "").toList ++ primitive.spelling.toList

/-- A spelling ends in a letter or a digit, and is made of words that are not `const`. -/
theorem spelling_facts (primitive : Primitive) :
    (primitive.spelling.toList.getLast?.any fun c => !isTail c) = true ∧
      (words primitive.spelling.toList).contains constWord = false ∧
      nameOf (words primitive.spelling.toList) = primitive.spelling := by
  cases primitive <;> decide

theorem isTail_stem (primitive : Primitive) (const : Bool) :
    ∀ c ∈ (stem primitive const).getLast?, isTail c = false := by
  obtain ⟨last, ends, plain⟩ := (Option.any_eq_true _ _).mp (spelling_facts primitive).1
  rw [stem, List.getLast?_append, ends]
  rintro c ⟨⟩
  simpa using plain

theorem words_stem (primitive : Primitive) (const : Bool) :
    (words (stem primitive const)).contains constWord = const ∧
      nameOf (words (stem primitive const)) = primitive.spelling := by
  obtain ⟨-, other, name⟩ := spelling_facts primitive
  cases const with
  | false => exact ⟨other, name⟩
  | true =>
      have split : words (stem primitive true) = constWord :: words primitive.spelling.toList := rfl
      rw [split]
      exact ⟨by simp, by simpa [nameOf] using name⟩

theorem reverse_span {front tail : List Char} (ends : ∀ c ∈ front.getLast?, isTail c = false)
    (trailing : ∀ c ∈ tail, isTail c = true) :
    (front ++ tail).reverse.takeWhile isTail = tail.reverse ∧
      (front ++ tail).reverse.dropWhile isTail = front.reverse := by
  have trailing : ∀ c ∈ tail.reverse, isTail c = true := fun c member =>
    trailing c (List.mem_reverse.mp member)
  rw [List.reverse_append, List.takeWhile_append_of_pos trailing,
    List.dropWhile_append_of_pos trailing]
  rw [← List.head?_reverse] at ends
  cases behind : front.reverse with
  | nil => simp
  | cons c rest => simp [ends c (by rw [behind]; rfl)]

theorem spelled_append {front tail : List Char} (ends : ∀ c ∈ front.getLast?, isTail c = false)
    (trailing : ∀ c ∈ tail, isTail c = true) : spelled (front ++ tail) = words front := by
  rw [spelled, Text.dropLast, (reverse_span ends trailing).2, List.reverse_reverse, words_eq]

theorem depth_append {front tail : List Char} (ends : ∀ c ∈ front.getLast?, isTail c = false)
    (trailing : ∀ c ∈ tail, isTail c = true) : depth (front ++ tail) = tail.count '*' := by
  rw [depth, (reverse_span ends trailing).1, List.count_reverse]

theorem toList_nameThen_stars (type : String) (depth : Nat) :
    (nameThen type (stars (depth + 1) ++ "")).toList =
      type.toList ++ ' ' :: List.replicate (depth + 1) '*' := by
  have star : isBlank '*' = false := by decide
  simp [nameThen, trimRight, trimEnd, Text.dropLast, stars, List.replicate_succ' (n := depth), star]

theorem declare_primitive (primitive : Primitive) (spelling : Spelling) :
    (CType.primitive primitive).declare spelling "" = primitive.spelling := by
  obtain ⟨last, ends, plain⟩ := (Option.any_eq_true _ _).mp (spelling_facts primitive).1
  have ended : endsPlain primitive.spelling.toList = true := by
    have other : isTail last = false := by simpa using plain
    rw [isTail, Bool.or_eq_false_iff] at other
    simp [endsPlain, ends, other]
  have blank : isBlank ' ' = true := by decide
  rw [CType.declare]
  simp [nameThen, trimRight, trimEnd_append_blank blank, trimEnd_of_endsPlain ended]

/-- The declarator of a type of layers ends in a blank and as many asterisks. -/
theorem toList_declare (primitive : Primitive) (const : Bool) (spelling : Spelling) (depth : Nat) :
    ((pointers (.primitive primitive) const (depth + 1)).declare spelling "").toList =
      stem primitive const ++ ' ' :: List.replicate (depth + 1) '*' := by
  rw [declare_pointers, String.toList_append, toList_nameThen_stars, stem, List.append_assoc]

/-- The C spelling of a type that configuration can name is one of its names, but for the objects
of Objective-C. -/
theorem spelling_mem_known {text : String} {primitive : Primitive}
    (listed : (text, primitive) ∈ known) :
    (primitive.spelling, primitive) ∈ known ↔ primitive ≠ .objcId :=
  (by decide : ∀ entry ∈ known, (entry.2.spelling, entry.2) ∈ known ↔ entry.2 ≠ .objcId) _ listed

/-- What is read from a declarator: the name and the number of the asterisks, and for a pointer
the word `const`. -/
theorem ofText_declare (primitive : Primitive) (const : Bool) (spelling : Spelling) (count : Nat)
    {text : String}
    (written : text = (pointers (.primitive primitive) const count).declare spelling "") :
    name text.toList = primitive.spelling ∧ depth text.toList = count ∧
      pointers (.primitive primitive) (isConst text.toList) count =
        pointers (.primitive primitive) const count := by
  cases count with
  | zero =>
      have plain : text.toList = stem primitive false ++ [] := by
        rw [written, pointers, declare_primitive, stem, List.append_nil]
        rfl
      have ends := isTail_stem primitive false
      rw [plain, name, spelled_append ends (List.forall_mem_nil _),
        depth_append ends (List.forall_mem_nil _), (words_stem primitive false).2]
      exact ⟨rfl, rfl, rfl⟩
  | succ count =>
      have trailing : ∀ c ∈ ' ' :: List.replicate (count + 1) '*', isTail c = true := by
        refine List.forall_mem_cons.mpr ⟨by decide, fun c member => ?_⟩
        rw [List.eq_of_mem_replicate member]
        decide
      have ends := isTail_stem primitive const
      rw [written, toList_declare, name, isConst, spelled_append ends trailing,
        depth_append ends trailing, (words_stem primitive const).1, (words_stem primitive const).2]
      exact ⟨rfl, by simp, rfl⟩

theorem declared_iff {text : String} {type : CType} {primitive : Primitive} (spelling : Spelling)
    (read : CType.ofText text = .ok type) (pointee : type.pointee = .primitive primitive) :
    CType.ofText (type.declare spelling "") = .ok type ↔ primitive ≠ .objcId := by
  obtain ⟨named, names, rfl⟩ := ofText_eq_ok_iff.mp read
  obtain rfl : named = primitive := by simpa [pointee_pointers] using pointee
  obtain ⟨same, count, layers⟩ :=
    ofText_declare named (isConst text.toList) spelling (depth text.toList) rfl
  rw [← spelling_mem_known names.known, ofText_eq_ok_iff]
  constructor
  · rintro ⟨other, again, equal⟩
    obtain rfl : named = other := by simpa [pointee_pointers] using congrArg CType.pointee equal
    rw [← same]
    exact again.known
  · intro listed
    refine ⟨named, ⟨by rwa [same], by rw [count]; exact names.passable⟩, ?_⟩
    rw [count, layers]

/-- A text names a type exactly if its words but `const` are a known name, which for a text without
asterisks is not `void`. The type has a pointer for each asterisk, the innermost one to constant
values if a word is `const`, and it is read again from its declarator unless it is an object of
Objective-C. -/
theorem type_texts_denote (text : String) (spelling : Spelling) :
    (∀ type, CType.ofText text = .ok type ↔ ∃ primitive, Names text.toList primitive ∧
      type.pointee = .primitive primitive ∧
      type.layers = layersOf (isConst text.toList) (depth text.toList)) ∧
    (CType.ofText text = .error (.unsupported text) ↔
      ∀ primitive, (name text.toList, primitive) ∉ known) ∧
    (CType.ofText text = .error .plainVoid ↔
      name text.toList = "void" ∧ depth text.toList = 0) ∧
    (∀ type primitive, CType.ofText text = .ok type → type.pointee = .primitive primitive →
      (CType.ofText (type.declare spelling "") = .ok type ↔ primitive ≠ .objcId)) := by
  refine ⟨fun type => ?_, ?_, ofText_eq_plainVoid_iff,
    fun type primitive read pointee => declared_iff spelling read pointee⟩
  · simp only [ofText_eq_ok_iff, eq_pointers_iff]
  · simp only [ofText_eq_unsupported_iff, true_and]

def ulongPointers : CType := .pointer (.pointer (.primitive .ulong) true) false

theorem ulongPointers_read :
    CType.ofText "unsigned  long const * *" = .ok ulongPointers ∧
      ulongPointers.pointee = .primitive .ulong ∧
      CType.ofText (ulongPointers.declare .plain "") = .ok ulongPointers := by
  obtain ⟨reads, -, -, again⟩ := type_texts_denote "unsigned  long const * *" .plain
  have read := (reads ulongPointers).mpr ⟨.ulong, ⟨by decide, by decide⟩, rfl, by decide⟩
  exact ⟨read, rfl, (again ulongPointers .ulong read rfl).mpr (by decide)⟩

end TypeText

end LuaBinder
