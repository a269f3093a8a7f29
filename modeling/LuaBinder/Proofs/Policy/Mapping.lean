import LuaBinder.Policy.Reader

namespace LuaBinder

open Policy

/-! Policies as they are written: what may stand at which key, and the patterns and the
replacements that are listed. -/

/-- The text is a pattern. -/
def Pattern.Parses (source : String) : Prop := ∃ pattern, Pattern.parse source = .ok pattern

namespace Json

def IsText (value : Json) : Prop := ∃ text, value = .string text

/-- A list of texts and nothing else. -/
def IsTexts (value : Json) : Prop := ∃ items, value = .array items ∧ ∀ item ∈ items, item.IsText

def IsMapping (value : Json) : Prop := ∃ fields, value = .object fields

/-- A mapping without any other keys. -/
def HasOnly (value : Json) (keys : List String) : Prop :=
  ∃ fields, value = .object fields ∧ ∀ field ∈ fields, field.1 ∈ keys

/-- `null` stands for what is not there. -/
def Nullable (form : Json → Prop) (value : Json) : Prop := value = .null ∨ form value

/-- What stands at the key has the form. The key may be missing. -/
def Admits (value : Json) (key : String) (form : Json → Prop) : Prop :=
  ∀ part, value.field? key = some part → form part

def part (value : Json) (key : String) : Json := (value.field? key).getD .null

def entries (value : Json) : List (String × Json) := value.fields?.getD []

def texts (value : Json) : List String := value.strings?.getD []

/-! Selections. -/

def addressTexts (value : Json) : List String :=
  let addresses := value.part "symbol-address"
  addresses.texts ++ (addresses.part "include").texts

/-- All patterns that a selection lists, those of members included. -/
def patterns (value : Json) : List String :=
  (value.part "include").texts ++ (value.part "exclude").texts ++
    (value.part "rename").entries.map (·.1) ++
    ((value.part "member-rename").entries.flatMap fun owner =>
      owner.1 :: owner.2.entries.map (·.1)) ++
    value.addressTexts

/-- All replacements that a selection lists, those of members included. -/
def replacements (value : Json) : List Json :=
  ((value.part "rename").entries ++
    (value.part "member-rename").entries.flatMap fun owner => owner.2.entries).map (·.2)

/-- What a selection lists, whatever other keys there are. Of replacements nothing is
asked. -/
structure Selects (value : Json) : Prop where
  included : value.Admits "include" (Nullable IsTexts)
  excluded : value.Admits "exclude" (Nullable IsTexts)
  addresses : value.Admits "symbol-address" fun part =>
    part.Nullable IsTexts ∨ part.IsMapping ∧ part.Admits "include" (Nullable IsTexts)
  renames : value.Admits "rename" IsMapping
  memberRenames : value.Admits "member-rename" fun part =>
    part.IsMapping ∧ ∀ owner ∈ part.entries, owner.2.IsMapping
  patterns : ∀ source ∈ value.patterns, Pattern.Parses source

structure IsSelection (value : Json) : Prop extends Selects value where
  keys : value.HasOnly Policy.selectionKeys

/-! Call signatures. -/

/-- A list of texts that each spell a type. -/
def SpellsTypes (value : Json) : Prop :=
  value.IsTexts ∧ ∀ text ∈ value.texts, ∃ type, CType.ofText text = .ok type

inductive IsSignature : Json → Prop
  | types {items : List Json} (spelled : (Json.array items).SpellsTypes) :
      IsSignature (.array items)
  | mapping {fields : List (String × Json)}
      (spelled : ((Json.object fields).part "types").SpellsTypes)
      (suffix : (Json.object fields).Admits "postfix" IsText) : IsSignature (.object fields)

def IsSignatures (value : Json) : Prop :=
  ∃ items, value = .array items ∧ ∀ item ∈ items, item.IsSignature

def IsSignatureTable (value : Json) : Prop :=
  value.IsMapping ∧ ∀ function ∈ value.entries, function.2.IsSignatures

/-! Whole policies. -/

structure IsFunctions (value : Json) : Prop extends Selects value where
  keys : value.HasOnly
    (Policy.selectionKeys ++ ["leaf", "expose-typedefs", "variadic-arguments"])
  leafFunctions : value.Admits "leaf" (Nullable IsSelection)
  functionTypes : value.Admits "expose-typedefs" (Nullable IsSelection)
  signatures : value.Admits "variadic-arguments" IsSignatureTable

structure IsHeaders (value : Json) : Prop where
  mapping : value.IsMapping
  entryPoints : value.Admits "entry-points" IsTexts
  includeDirectives : value.Admits "include-directives" IsTexts

/-- Of the library nothing is asked. -/
structure IsNative (value : Json) : Prop where
  keys : value.HasOnly ["library", "convention"]
  convention : value.Admits "convention" <| Nullable fun name =>
    ∃ text ∈ Policy.conventions, name = .string text

structure IsPolicy (value : Json) : Prop where
  keys : value.HasOnly Policy.topFields
  moduleName : value.Admits "module" IsText
  output : value.Admits "output" IsText
  comments : value.Admits "comments" fun part => ∃ asked, part = .bool asked
  compilerOptions : value.Admits "compiler-opts" fun part => part.IsText ∨ part.IsTexts
  headers : value.Admits "headers" IsHeaders
  functions : value.Admits "functions" fun part => part.holds = false ∨ part.IsFunctions
  selections : ∀ kind ∈ SelectionKind.plain, value.Admits kind.name (Nullable IsSelection)
  native : value.Admits "native" IsNative

/-- Where a policy tells what is selected of a kind. -/
def selection (value : Json) : SelectionKind → Json
  | .functions => value.part "functions"
  | .leafFunctions => (value.part "functions").part "leaf"
  | .functionTypes => (value.part "functions").part "expose-typedefs"
  | kind => value.part kind.name

def library (value : Json) : Json := (value.part "native").part "library"

/-- The library is a text or absent, and all replacements are texts. -/
structure HasTexts (value : Json) : Prop where
  library : value.library.Nullable IsText
  replacements : ∀ kind, ∀ replacement ∈ (value.selection kind).replacements, replacement.IsText

end Json

/-- All replacements of a selection, those of members included. -/
def Selection.replacements (selection : Selection) : List Json :=
  (selection.renames ++ selection.memberRenames.flatMap (·.rules)).map (·.replacement)

/-- Every value has the type that it is declared with. -/
structure Policy.IsTyped (policy : Policy) : Prop where
  library : policy.native.library.Nullable Json.IsText
  replacements : ∀ kind, ∀ replacement ∈ (policy.selection kind).replacements, replacement.IsText

/-! What a reader of policies tells: each judges what it is given, and its error blames the
policy. -/

namespace Policy

/-- The error is a fault of the policy, or one of the listed patterns cannot be handled at all. -/
def Error.Blames (error : Error) (listed : String → Prop) : Prop :=
  (∃ fault, error = .fault fault) ∨
    ∃ source problem, listed source ∧ Pattern.parse source = .error problem ∧
      (∀ fault, problem ≠ .fault fault) ∧ error = .pattern problem

/-- Something is read exactly if what it is read from conforms, and then it is right. -/
def Judges (conforms : Prop) (listed : String → Prop) (right : α → Prop) :
    Except Error α → Prop
  | .ok value => conforms ∧ right value
  | .error error => ¬ conforms ∧ error.Blames listed

namespace Judges

variable {conforms further : Prop} {listed : String → Prop} {right : α → Prop}
  {read : Except Error α}

theorem exists_iff (judges : Judges conforms listed right read) :
    (∃ value, read = .ok value) ↔ conforms := by
  cases read with
  | ok value => exact ⟨fun _ => judges.1, fun _ => ⟨value, rfl⟩⟩
  | error error => exact ⟨nofun, fun conforms => absurd conforms judges.1⟩

theorem right_of_ok (judges : Judges conforms listed right read) {value : α}
    (succeeded : read = .ok value) : right value := by
  subst succeeded
  exact judges.2

theorem blames_of_error (judges : Judges conforms listed right read) {error : Error}
    (failed : read = .error error) : error.Blames listed := by
  subst failed
  exact judges.2

theorem ok {value : α} (holds : conforms) (found : right value) :
    Judges conforms listed right (.ok value) :=
  ⟨holds, found⟩

theorem fail {fault : Fault} (fails : ¬ conforms) :
    Judges conforms listed right (Policy.fail fault) :=
  ⟨fails, .inl ⟨fault, rfl⟩⟩

theorem congr (judges : Judges conforms listed right read) (same : conforms ↔ further) :
    Judges further listed right read :=
  propext same ▸ judges

theorem given (holds : conforms) (judges : Judges further listed right read) :
    Judges (conforms ∧ further) listed right read :=
  judges.congr (and_iff_right holds).symm

theorem imp {weaker : α → Prop} (judges : Judges conforms listed right read)
    (implies : ∀ value, right value → weaker value) : Judges conforms listed weaker read := by
  cases read with
  | ok value => exact ⟨judges.1, implies value judges.2⟩
  | error error => exact judges

theorem bind {next : α → Except Error β} {final : β → Prop}
    (judges : Judges conforms listed right read)
    (rest : ∀ value, conforms → right value → Judges further listed final (next value)) :
    Judges (conforms ∧ further) listed final (read >>= next) := by
  cases read with
  | ok value =>
      refine (rest value judges.1 judges.2).congr ?_
      exact ⟨fun holds => ⟨judges.1, holds⟩, And.right⟩
  | error error => exact ⟨fun both => judges.1 both.1, judges.2⟩

theorem map {change : α → β} {final : β → Prop} (judges : Judges conforms listed right read)
    (keeps : ∀ value, conforms → right value → final (change value)) :
    Judges conforms listed final (read >>= fun value => .ok (change value)) := by
  cases read with
  | ok value => exact ⟨judges.1, keeps value judges.1 judges.2⟩
  | error error => exact judges

theorem check {asked : Bool} {fault : Fault} (means : asked = true ↔ conforms) :
    Judges conforms listed (fun _ => True) (Policy.check asked fault) := by
  cases asked with
  | true => exact .ok (means.mp rfl) trivial
  | false => exact .fail fun holds => nomatch means.mpr holds

/-- All entries are read if each of them conforms, and each gives what belongs to it. -/
theorem mapM {reader : α → Except Error β} {entries : List α} {form : α → Prop}
    (given : α → γ) (taken : β → γ)
    (each : ∀ entry ∈ entries,
      Judges (form entry) listed (fun result => taken result = given entry) (reader entry)) :
    Judges (∀ entry ∈ entries, form entry) listed
      (fun results => results.map taken = entries.map given) (entries.mapM reader) := by
  induction entries with
  | nil => exact .ok nofun rfl
  | cons entry rest induction =>
      obtain ⟨own, others⟩ := List.forall_mem_cons.mp each
      rw [List.mapM_cons]
      refine (own.bind fun first _ same => (induction others).bind fun results _ equal =>
        Judges.ok trivial ?_).congr ?_
      · rw [List.map_cons, List.map_cons, same, equal]
      · rw [List.forall_mem_cons, and_true]

theorem each {reader : α → Except Error β} {entries : List α} {form : α → Prop}
    (own : ∀ entry ∈ entries, Judges (form entry) listed (fun _ => True) (reader entry)) :
    Judges (∀ entry ∈ entries, form entry) listed (fun _ => True) (entries.mapM reader) :=
  (mapM (fun _ => ()) (fun _ => ()) fun entry member =>
    (own entry member).imp fun _ _ => rfl).imp fun _ _ => trivial

end Judges

end Policy

/-! What stands at a key. -/

namespace Json

variable {value : Json} {key : String} {form : Json → Prop}

theorem IsTexts.strings? (given : value.IsTexts) : value.strings? = some value.texts := by
  obtain ⟨items, rfl, each⟩ := given
  suffices found : ∃ texts, items.mapM string? = some texts by
    obtain ⟨texts, found⟩ := found
    exact found.trans (congrArg (fun found => some (found.getD [])) found).symm
  induction items with
  | nil => exact ⟨[], rfl⟩
  | cons item rest induction =>
      obtain ⟨⟨text, rfl⟩, others⟩ := List.forall_mem_cons.mp each
      obtain ⟨texts, found⟩ := induction others
      exact ⟨text :: texts, by rw [List.mapM_cons, found]; rfl⟩

theorem isTexts_of_strings? {texts : List String} (given : value.strings? = some texts) :
    value.IsTexts := by
  cases value <;> try cases given
  case array items =>
    refine ⟨items, rfl, ?_⟩
    change items.mapM string? = some texts at given
    induction items generalizing texts with
    | nil => exact nofun
    | cons item rest induction =>
        rw [List.mapM_cons] at given
        obtain ⟨text, own, given⟩ := Option.bind_eq_some_iff.mp given
        obtain ⟨others, further, -⟩ := Option.bind_eq_some_iff.mp given
        refine List.forall_mem_cons.mpr ⟨?_, induction further⟩
        cases item <;> cases own
        exact ⟨text, rfl⟩

theorem not_isTexts (missing : value.strings? = none) : ¬ value.IsTexts := by
  intro given
  rw [given.strings?] at missing
  cases missing

theorem eq_of_fields? {fields : List (String × Json)} (given : value.fields? = some fields) :
    value = .object fields := by
  cases value <;> cases given
  rfl

theorem admits_of_none {fields : List (String × Json)} (absent : getField fields key = none) :
    (object fields).Admits key form := by
  intro part found
  cases absent.symm.trans found

theorem admits_of_some {fields : List (String × Json)} {part : Json}
    (given : getField fields key = some part) : (object fields).Admits key form ↔ form part := by
  constructor
  · exact fun fits => fits part given
  · intro fits other found
    cases given.symm.trans found
    exact fits

theorem admits_iff (default : Json) (fits : form default) :
    value.Admits key form ↔ form ((value.field? key).getD default) := by
  unfold Admits
  cases value.field? key with
  | none => exact iff_of_true nofun fits
  | some part => exact ⟨fun given => given part rfl, fun given _ same => by cases same; exact given⟩

/-- What is empty can stand for what is missing. -/
theorem texts_getD (default : Json) (empty : default.texts = []) (found : Option Json) :
    (found.getD default).texts = (found.getD .null).texts := by
  cases found with
  | none => exact empty
  | some part => rfl

theorem entries_getD (default : Json) (empty : default.entries = []) (found : Option Json) :
    (found.getD default).entries = (found.getD .null).entries := by
  cases found with
  | none => exact empty
  | some part => rfl

/-- Both values tell the same of what is selected. -/
def SelectsLike (one other : Json) : Prop :=
  ∀ key ∈ selectionKeys, one.field? key = other.field? key

namespace SelectsLike

variable {one other : Json}

theorem symm (same : one.SelectsLike other) : other.SelectsLike one :=
  fun key listed => (same key listed).symm

theorem part_eq (same : one.SelectsLike other) (listed : key ∈ selectionKeys) :
    one.part key = other.part key := by
  rw [part, part, same key listed]

theorem admits (same : one.SelectsLike other) (listed : key ∈ selectionKeys)
    (given : one.Admits key form) : other.Admits key form :=
  fun part found => given part ((same key listed).trans found)

theorem patterns_eq (same : one.SelectsLike other) : one.patterns = other.patterns := by
  unfold patterns addressTexts
  rw [same.part_eq (by decide), same.part_eq (by decide), same.part_eq (by decide),
    same.part_eq (by decide), same.part_eq (by decide)]

theorem replacements_eq (same : one.SelectsLike other) :
    one.replacements = other.replacements := by
  unfold replacements
  rw [same.part_eq (by decide), same.part_eq (by decide)]

end SelectsLike

theorem Selects.congr {one other : Json} (form : one.Selects) (same : one.SelectsLike other) :
    other.Selects where
  included := same.admits (by decide) form.included
  excluded := same.admits (by decide) form.excluded
  addresses := same.admits (by decide) form.addresses
  renames := same.admits (by decide) form.renames
  memberRenames := same.admits (by decide) form.memberRenames
  patterns := same.patterns_eq ▸ form.patterns

theorem hasOnly_iff {fields : List (String × Json)} {known : List String} :
    (unknownKeys known fields).isEmpty = true ↔ (object fields).HasOnly known := by
  have empty : (unknownKeys known fields).isEmpty = true ↔
      ∀ field ∈ fields, known.contains field.1 = true := by
    rw [unknownKeys, Text.sortTexts, List.isEmpty_iff, ← List.length_eq_zero_iff,
      List.length_mergeSort, List.length_eq_zero_iff, List.filter_eq_nil_iff]
    simp
  rw [empty]
  simp only [List.contains_iff_mem]
  constructor
  · intro known
    exact ⟨fields, rfl, known⟩
  · rintro ⟨same, equal, known⟩
    cases equal
    exact known

end Json

end LuaBinder
