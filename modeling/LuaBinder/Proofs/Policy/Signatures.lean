import LuaBinder.Policy.Preset
import LuaBinder.Policy.Reader
import LuaBinder.Proofs.Declaration.Unfolding

namespace LuaBinder

/-! The types in call signatures. They are spelled in the configuration, so they refer to
no declaration. -/

theorem bind_eq_ok {value : Except ε α} {next : α → Except ε β} {result : β} :
    (value >>= next) = .ok result ↔ ∃ inner, value = .ok inner ∧ next inner = .ok result := by
  cases value <;> simp [bind, Except.bind]

theorem exists_of_mem_mapM {read : α → Except ε β} {entries : List α} {results : List β}
    {result : β} (succeeded : entries.mapM read = .ok results) (listed : result ∈ results) :
    ∃ entry ∈ entries, read entry = .ok result := by
  induction entries generalizing results with
  | nil =>
      obtain rfl : [] = results := Except.ok.inj succeeded
      simp at listed
  | cons entry rest induction =>
      rw [List.mapM_cons] at succeeded
      obtain ⟨first, found, succeeded⟩ := bind_eq_ok.mp succeeded
      obtain ⟨others, further, same⟩ := bind_eq_ok.mp succeeded
      obtain rfl : first :: others = results := Except.ok.inj same
      rcases List.mem_cons.mp listed with rfl | listed
      · exact ⟨entry, List.mem_cons_self, found⟩
      · obtain ⟨other, member, found⟩ := induction further listed
        exact ⟨other, List.mem_cons_of_mem _ member, found⟩

/-- If there is no value, then for an error of this sort. -/
def FailsOnly (sort : ε → Prop) (result : Except ε α) : Prop :=
  ∀ error, result = .error error → sort error

namespace FailsOnly

variable {sort : ε → Prop} {result other : Except ε α}

theorem ok (value : α) : FailsOnly sort (.ok value) := nofun

theorem error {error : ε} (own : sort error) : FailsOnly sort (.error error : Except ε α) := by
  rintro _ ⟨⟩
  exact own

theorem ite {condition : Prop} [Decidable condition] (first : FailsOnly sort result)
    (second : FailsOnly sort other) : FailsOnly sort (if condition then result else other) := by
  split
  · exact first
  · exact second

theorem bind {next : α → Except ε β} (first : FailsOnly sort result)
    (second : ∀ value, FailsOnly sort (next value)) : FailsOnly sort (result >>= next) := by
  cases result with
  | ok value => exact second value
  | error raised => exact error (first raised rfl)

theorem map (fails : FailsOnly sort result) (change : α → β) :
    FailsOnly sort (result.map change) := by
  cases result with
  | ok value => exact ok _
  | error raised => exact error (fails raised rfl)

theorem mapError {sort : ε' → Prop} {wrap : ε → ε'}
    (fails : FailsOnly (fun error => sort (wrap error)) result) :
    FailsOnly sort (result.mapError wrap) := by
  cases result with
  | ok value => exact ok value
  | error raised => exact error (fails raised rfl)

theorem mapM {read : α → Except ε β} (entries : List α)
    (each : ∀ entry, FailsOnly sort (read entry)) : FailsOnly sort (entries.mapM read) := by
  induction entries with
  | nil => exact ok []
  | cons entry rest induction =>
      rw [List.mapM_cons]
      exact (each entry).bind fun _ => induction.bind fun _ => ok _

theorem anyM {test : α → Except ε Bool} (items : List α)
    (each : ∀ item, FailsOnly sort (test item)) : FailsOnly sort (items.anyM test) := by
  induction items with
  | nil => exact ok false
  | cons item rest induction =>
      refine (each item).bind fun found => ?_
      cases found with
      | true => exact ok true
      | false => exact induction

theorem findM? {test : α → Except ε Bool} (items : List α)
    (each : ∀ item, FailsOnly sort (test item)) : FailsOnly sort (items.findM? test) := by
  induction items with
  | nil => exact ok none
  | cons item rest induction =>
      refine (each item).bind fun found => ?_
      cases found with
      | true => exact ok (some item)
      | false => exact induction

end FailsOnly

/-- Below all pointers and arrays there is a primitive type. -/
def CType.IsPlain (type : CType) : Prop := ∃ primitive, type.core = .primitive primitive

theorem isPlain_pointers {type : CType} (plain : type.IsPlain) (const : Bool) :
    (depth : Nat) → (pointers type const depth).IsPlain
  | 0 => plain
  | 1 => plain
  | depth + 2 => isPlain_pointers plain const (depth + 1)

theorem isPlain_of_text {text : String} {type : CType} (read : CType.ofText text = .ok type) :
    type.IsPlain := by
  unfold CType.ofText at read
  dsimp only at read
  split at read
  · cases read
  · split at read
    · cases read
    · rename_i primitive _ _
      rw [← Except.ok.inj read]
      exact isPlain_pointers ⟨primitive, rfl⟩ _ _

namespace SignatureTable

/-- One of the types that a signature of the table appends. -/
def Appends (table : SignatureTable) (type : CType) : Prop :=
  ∃ entry ∈ table, ∃ signature ∈ entry.2, type ∈ signature.types

def IsPlain (table : SignatureTable) : Prop := ∀ type, table.Appends type → type.IsPlain

variable {table : SignatureTable} {name : String} {signature : CallSignature}

theorem isPlain_nil : IsPlain [] := by
  intro type appended
  simp [Appends] at appended

theorem IsPlain.declare (plain : table.IsPlain) : (table.declare name).IsPlain := by
  intro type appended
  obtain ⟨entry, listed, signature, member, appended⟩ := appended
  unfold SignatureTable.declare at listed
  split at listed
  · exact plain type ⟨entry, listed, signature, member, appended⟩
  · rcases List.mem_append.mp listed with listed | added
    · exact plain type ⟨entry, listed, signature, member, appended⟩
    · rw [List.mem_singleton.mp added] at member
      simp at member

theorem IsPlain.add (plain : table.IsPlain) (own : ∀ type ∈ signature.types, type.IsPlain) :
    (table.add name signature).IsPlain := by
  intro type appended
  obtain ⟨changed, listed, other, member, appended⟩ := appended
  obtain ⟨entry, found, rfl⟩ := List.mem_map.mp listed
  split at member
  · rcases List.mem_append.mp member with member | added
    · exact plain type ⟨entry, found, other, member, appended⟩
    · rw [List.mem_singleton.mp added] at appended
      exact own type appended
  · exact plain type ⟨entry, found, other, member, appended⟩

end SignatureTable

namespace Policy

theorem isPlain_of_texts {texts : List String} {types : List CType}
    (read : texts.mapM CType.ofText = .ok types) : ∀ type ∈ types, type.IsPlain := by
  intro type member
  obtain ⟨text, -, read⟩ := exists_of_mem_mapM read member
  exact isPlain_of_text read

theorem isPlain_addSignatures {policy : Policy} (function : String)
    (entries : List (String × List String)) (plain : policy.signatures.IsPlain) :
    (policy.addSignatures function entries).1.signatures.IsPlain := by
  induction entries generalizing policy with
  | nil => exact plain.declare
  | cons entry rest induction =>
      obtain ⟨suffix, texts⟩ := entry
      unfold addSignatures
      split
      · exact plain.declare
      · rename_i types read
        exact induction (plain.declare.add (isPlain_of_texts read))

/-! Reading a policy. -/

theorem isPlain_of_signature {place : String} {index : Nat} {entry : Json}
    {signature : CallSignature} (read : signatureOf place index entry = .ok signature) :
    ∀ type ∈ signature.types, type.IsPlain := by
  unfold signatureOf at read
  dsimp only at read
  split at read
  · obtain ⟨suffix, -, spelled⟩ := bind_eq_ok.mp read
    split at spelled
    · rename_i types texts
      rw [← Except.ok.inj spelled]
      exact isPlain_of_texts texts
    · cases spelled
  · cases read

theorem isPlain_of_signatures {place : String} {entries : List Json} :
    {index : Nat} → {signatures : List CallSignature} →
    (read : signaturesFrom place index entries = .ok signatures) →
    ∀ signature ∈ signatures, ∀ type ∈ signature.types, type.IsPlain := by
  induction entries with
  | nil =>
      intro index signatures read signature listed
      obtain rfl : [] = signatures := Except.ok.inj read
      simp at listed
  | cons entry rest induction =>
      intro index signatures read signature listed
      obtain ⟨first, found, read⟩ := bind_eq_ok.mp read
      obtain ⟨others, further, same⟩ := bind_eq_ok.mp read
      obtain rfl : first :: others = signatures := Except.ok.inj same
      rcases List.mem_cons.mp listed with rfl | listed
      · exact isPlain_of_signature found
      · exact induction further signature listed

theorem isPlain_of_table {value : Json} {table : SignatureTable}
    (read : signatureTableOf value = .ok table) : table.IsPlain := by
  unfold signatureTableOf at read
  split at read
  · intro type appended
    obtain ⟨entry, listed, signature, member, appended⟩ := appended
    obtain ⟨⟨name, entries⟩, -, found⟩ := exists_of_mem_mapM read listed
    dsimp only at found
    split at found
    · obtain ⟨signatures, items, same⟩ := bind_eq_ok.mp found
      obtain rfl : (name, signatures) = entry := Except.ok.inj same
      exact isPlain_of_signatures items signature member type appended
    · cases found
  · cases read

/-- Reading gives a policy whose signatures append plain types only, or fails. -/
def GivesPlain (read : Except ε Policy) : Prop :=
  ∀ policy, read = .ok policy → policy.signatures.IsPlain

theorem GivesPlain.bind {read : Except ε α} {next : α → Except ε Policy}
    (rest : ∀ value, GivesPlain (next value)) : GivesPlain (read >>= next) := by
  intro policy succeeded
  obtain ⟨value, -, succeeded⟩ := bind_eq_ok.mp succeeded
  exact rest value policy succeeded

theorem GivesPlain.error {error : ε} : GivesPlain (.error error) := by
  intro policy succeeded
  cases succeeded

theorem GivesPlain.pure {policy : Policy} (plain : policy.signatures.IsPlain) :
    GivesPlain (pure policy : Except ε Policy) := by
  intro same succeeded
  rwa [← Except.ok.inj succeeded]

theorem givesPlain_withFunctions (policy : Policy) (value : Json) :
    GivesPlain (policy.withFunctions value) := by
  unfold withFunctions
  split
  · refine .bind fun functions => .bind fun leafFunctions => .bind fun functionTypes => ?_
    intro read succeeded
    obtain ⟨signatures, table, same⟩ := bind_eq_ok.mp succeeded
    rw [← Except.ok.inj same]
    exact isPlain_of_table table
  · exact .error

@[simp] theorem signatures_withSelection (policy : Policy) (selection : Selection)
    (kind : SelectionKind) :
    (policy.withSelection selection kind).signatures = policy.signatures := by
  cases kind <;> rfl

theorem signatures_withSelections {policy read : Policy} {fields : List (String × Json)}
    (succeeded : policy.withSelections fields = .ok read) :
    read.signatures = policy.signatures := by
  unfold withSelections at succeeded
  generalize SelectionKind.plain = kinds at succeeded
  induction kinds generalizing policy with
  | nil => rw [← Except.ok.inj succeeded]
  | cons kind rest induction =>
      rw [List.foldlM_cons] at succeeded
      obtain ⟨middle, step, further⟩ := bind_eq_ok.mp succeeded
      rw [induction further]
      split at step
      · obtain ⟨selection, -, same⟩ := bind_eq_ok.mp step
        rw [← Except.ok.inj same, signatures_withSelection]
      · rw [← Except.ok.inj step]

theorem givesPlain_ofFields (fields : List (String × Json)) : GivesPlain (ofFields fields) := by
  have selections (policy : Policy) (plain : policy.signatures.IsPlain) (native : Json) :
      GivesPlain (do
        let policy ← policy.withSelections fields
        let native ← nativeOf native
        return { policy with native }) := by
    intro read succeeded
    obtain ⟨selected, found, further⟩ := bind_eq_ok.mp succeeded
    obtain ⟨native, -, same⟩ := bind_eq_ok.mp further
    rw [← Except.ok.inj same]
    rwa [← signatures_withSelections found] at plain
  unfold ofFields
  dsimp only
  refine .bind fun _ => .bind fun moduleName => .bind fun output => ?_
  split
  all_goals
    refine .bind fun comments => ?_
    split
  all_goals
    refine .bind fun compilerOptions => .bind fun headers => ?_
    intro read succeeded
    obtain ⟨withFunctions, found, further⟩ := bind_eq_ok.mp succeeded
    exact selections withFunctions (givesPlain_withFunctions _ _ _ found) _ read further

/-- Whatever policy can be read, its signatures append plain types only. -/
theorem givesPlain_ofJson (value : Json) : GivesPlain (ofJson value) := by
  unfold ofJson
  split
  · exact givesPlain_ofFields _
  · exact .error

end Policy

theorem Preset.givesPlain_configure (preset : Preset) (arguments : List String)
    {policy : Policy} (plain : policy.signatures.IsPlain) :
    Policy.GivesPlain (preset.configure arguments policy) := by
  have added (policy : Policy) (plain : policy.signatures.IsPlain) (function : String)
      (signatures : List (String × List String)) :
      (addAll policy function signatures).signatures.IsPlain :=
    Policy.isPlain_addSignatures function signatures plain
  have sokol (start : String) : Policy.GivesPlain (configureSokol start policy) := by
    refine .bind fun functions => .bind fun structs => .bind fun unions => .bind fun enums => ?_
    refine .bind fun typedefs => .bind fun unnamedEnums => .bind fun macros => .pure ?_
    split
    · exact added _ (by exact plain) _ _
    · exact plain
  unfold Preset.configure
  split
  · refine .bind fun functions => .bind fun macros => .bind fun leafFunctions => .pure ?_
    exact added _ (added _ (by exact plain) _ _) _ _
  · exact .error
  · exact sokol _
  · exact sokol _
  · exact .error

/-! The signatures that a function is bound with. -/

theorem SignatureTable.specialize_ne_nil (table : SignatureTable) (name : String)
    (variadic : Bool) : (table.specialize name variadic).1 ≠ [] := by
  unfold specialize
  split
  · simp
  · split <;> simp_all

/-- Signatures of a function that takes no further arguments are ignored. -/
theorem SignatureTable.specialize_of_ignored {table : SignatureTable} {name : String}
    {variadic : Bool} (ignored : (table.specialize name variadic).2 = true) :
    (table.specialize name variadic).1 = [.fixedOnly] := by
  unfold specialize at ignored ⊢
  split at ignored
  · cases ignored
  · split at ignored
    · cases ignored
    · rename_i fixed
      simp [fixed]

theorem SignatureTable.ignored_of_fixed {table : SignatureTable} {name : String}
    (configured : table.lookup name ≠ []) : (table.specialize name false).2 = true := by
  unfold specialize
  split
  · contradiction
  · rfl

end LuaBinder
