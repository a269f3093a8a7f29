import LuaBinder.Proofs.Policy.Mapping

namespace LuaBinder

open Policy

/-! Reading selections: of which values there is one, and which replacements it holds. -/

/-- All patterns of a selection as it is written down. -/
def SelectionText.patterns (text : SelectionText) : List String :=
  text.included.getD [] ++ text.excluded ++ text.renames.map (·.1) ++
    (text.memberRenames.flatMap fun entry => entry.1 :: entry.2.map (·.1)) ++ text.addresses

def SelectionText.replacements (text : SelectionText) : List Json :=
  (text.renames ++ text.memberRenames.flatMap (·.2)).map (·.2)

namespace Policy

variable {listed : String → Prop}

theorem judges_optionalTexts (place : String) (value : Json) :
    Judges (value.Nullable Json.IsTexts) listed (fun found => found.getD [] = value.texts)
      (optionalTexts place value) := by
  unfold optionalTexts
  split
  · exact .ok (.inl rfl) rfl
  · rename_i absent
    split
    · rename_i texts given
      exact .ok (.inr (Json.isTexts_of_strings? given)) (by rw [Json.texts, given])
    · rename_i missing
      refine .fail ?_
      rintro (rfl | form)
      · exact absent rfl
      · exact Json.not_isTexts missing form

theorem judges_expectText (place : String) (value : Json) :
    Judges value.IsText listed (fun _ => True) (expectText place value) := by
  unfold expectText
  split
  · exact .ok ⟨_, rfl⟩ trivial
  · rename_i other
    refine .fail ?_
    rintro ⟨text, rfl⟩
    exact other text rfl

theorem judges_readPattern (place : String) {source : String} (named : listed source) :
    Judges (Pattern.Parses source) listed (fun _ => True)
      (SelectionText.readPattern place source) := by
  unfold SelectionText.readPattern
  split
  · rename_i pattern parsed
    exact .ok ⟨pattern, parsed⟩ trivial
  · rename_i fault parsed
    exact .fail (by simp [Pattern.Parses, parsed])
  · rename_i error other parsed
    exact ⟨by simp [Pattern.Parses, parsed], .inr ⟨source, error, named, parsed, other, rfl⟩⟩

theorem judges_readPatterns (place : String) {sources : List String}
    (named : ∀ source ∈ sources, listed source) :
    Judges (∀ source ∈ sources, Pattern.Parses source) listed (fun _ => True)
      (sources.mapM (SelectionText.readPattern place)) :=
  .each fun source member => judges_readPattern place (named source member)

theorem judges_readRules (place : String) {rules : List (String × Json)}
    (named : ∀ source ∈ rules.map (·.1), listed source) :
    Judges (∀ source ∈ rules.map (·.1), Pattern.Parses source) listed
      (fun read => read.map (·.replacement) = rules.map (·.2))
      (SelectionText.readRules place rules) := by
  rw [List.forall_mem_map] at named ⊢
  refine Judges.mapM Prod.snd RenameRule.replacement fun rule member => ?_
  refine (judges_readPattern place (named rule member)).map ?_
  exact fun _ _ _ => rfl

theorem judges_readMemberRules {entry : String × List (String × Json)}
    (named : ∀ source ∈ entry.1 :: entry.2.map (·.1), listed source) :
    Judges (∀ source ∈ entry.1 :: entry.2.map (·.1), Pattern.Parses source) listed
      (fun read => read.rules.map (·.replacement) = entry.2.map (·.2))
      (SelectionText.readMemberRules entry) := by
  rw [List.forall_mem_cons] at named ⊢
  exact (judges_readPattern _ named.1).bind fun _ _ _ =>
    (judges_readRules _ named.2).map fun _ _ same => same

theorem judges_read {text : SelectionText} (named : ∀ source ∈ text.patterns, listed source) :
    Judges (∀ source ∈ text.patterns, Pattern.Parses source) listed
      (fun selection => selection.replacements = text.replacements) text.read := by
  unfold SelectionText.patterns at named ⊢
  simp only [List.forall_mem_append] at named ⊢
  obtain ⟨⟨⟨⟨included, excluded⟩, renames⟩, memberRenames⟩, addresses⟩ := named
  rw [List.forall_mem_flatMap] at memberRenames ⊢
  have inclusions : Judges (∀ source ∈ text.included.getD [], Pattern.Parses source) listed
      (fun _ => True)
      (text.included.mapM fun patterns => patterns.mapM (SelectionText.readPattern "include")) := by
    cases read : text.included with
    | none => exact .ok nofun trivial
    | some sources =>
        rw [read] at included
        exact (judges_readPatterns _ included).map fun _ _ _ => trivial
  refine (inclusions.bind fun _ _ _ => (judges_readPatterns _ excluded).bind fun _ _ _ =>
    (judges_readRules _ renames).bind fun rules _ own =>
    (Judges.mapM (·.2.map (·.2)) (·.rules.map (·.replacement)) fun entry member =>
      judges_readMemberRules (memberRenames entry member)).bind fun owners _ ofMembers =>
    (judges_readPatterns _ addresses).map fun _ _ _ => ?_).congr ?_
  · simp only [Selection.replacements, SelectionText.replacements, List.map_append, own,
      List.flatMap_def, List.map_flatten, List.map_map]
    exact congrArg (fun parts => _ ++ parts.flatten) ofMembers
  · simp only [and_assoc]

theorem addressList_nullable (fields : List (String × Json)) :
    (Json.object fields).Admits "symbol-address" (fun part =>
        part.Nullable Json.IsTexts ∨
          part.IsMapping ∧ part.Admits "include" (Json.Nullable Json.IsTexts)) ↔
      (addressList fields).Nullable Json.IsTexts := by
  rw [Json.admits_iff .null (.inl (.inl rfl)), Json.field?, ← getField]
  unfold addressList
  split
  · rename_i inner given
    have empty : (Json.array []).IsTexts := ⟨[], rfl, List.forall_mem_nil _⟩
    rw [given, Json.admits_iff (.array []) (.inr empty), Json.field?, ← getField]
    constructor
    · rintro ((⟨⟨⟩⟩ | ⟨_, ⟨⟩, _⟩) | ⟨-, form⟩)
      exact form
    · exact fun form => .inr ⟨⟨inner, rfl⟩, form⟩
  · rename_i other
    refine ⟨?_, .inl⟩
    rintro (form | ⟨⟨inner, same⟩, -⟩)
    · exact form
    · exact absurd same (other inner)

theorem texts_addressList (fields : List (String × Json)) :
    (addressList fields).texts = (Json.object fields).addressTexts := by
  unfold addressList Json.addressTexts Json.part
  dsimp only [Json.field?]
  rw [← getField]
  split
  · rename_i inner given
    rw [given]
    exact Json.texts_getD _ rfl _
  · rename_i other
    cases given : (getField fields "symbol-address").getD .null with
    | object inner => exact absurd given (other inner)
    | _ => exact (List.append_nil _).symm

/-- The mappings in a mapping, if all that it holds are mappings. -/
theorem mapM_fields?_eq_some {entries : List (String × Json)}
    {owners : List (String × List (String × Json))}
    (given : (entries.mapM fun entry => entry.2.fields?.map (entry.1, ·)) = some owners) :
    (∀ entry ∈ entries, entry.2.IsMapping) ∧
      owners = entries.map fun entry => (entry.1, entry.2.entries) := by
  induction entries generalizing owners with
  | nil => exact ⟨nofun, (Option.some.inj given).symm⟩
  | cons entry rest induction =>
      rw [List.mapM_cons] at given
      obtain ⟨owner, own, given⟩ := Option.bind_eq_some_iff.mp given
      obtain ⟨others, further, same⟩ := Option.bind_eq_some_iff.mp given
      obtain ⟨fields, mapping, rfl⟩ := Option.map_eq_some_iff.mp own
      obtain ⟨mappings, rfl⟩ := induction further
      obtain rfl := Option.some.inj same
      have form := Json.eq_of_fields? mapping
      refine ⟨List.forall_mem_cons.mpr ⟨⟨fields, form⟩, mappings⟩, ?_⟩
      rw [List.map_cons, form]
      rfl

theorem exists_mapM_fields? {entries : List (String × Json)}
    (mappings : ∀ entry ∈ entries, entry.2.IsMapping) :
    ∃ owners, (entries.mapM fun entry => entry.2.fields?.map (entry.1, ·)) = some owners := by
  induction entries with
  | nil => exact ⟨[], rfl⟩
  | cons entry rest induction =>
      obtain ⟨⟨fields, own⟩, others⟩ := List.forall_mem_cons.mp mappings
      obtain ⟨owners, found⟩ := induction others
      exact ⟨(entry.1, fields) :: owners, by rw [List.mapM_cons, found, own]; rfl⟩

theorem isSelection_iff (fields : List (String × Json)) :
    (Json.object fields).IsSelection ↔
      (Json.object fields).HasOnly selectionKeys ∧
        ((getField fields "include").getD .null).Nullable Json.IsTexts ∧
        ((getField fields "exclude").getD .null).Nullable Json.IsTexts ∧
        (addressList fields).Nullable Json.IsTexts ∧
        (((getField fields "member-rename").getD (.object [])).IsMapping ∧
          ∀ owner ∈ ((getField fields "member-rename").getD (.object [])).entries,
            owner.2.IsMapping) ∧
        ((getField fields "rename").getD (.object [])).IsMapping ∧
        ∀ source ∈ (Json.object fields).patterns, Pattern.Parses source := by
  have nullable : Json.Nullable Json.IsTexts .null := .inl rfl
  have mapping : (Json.object []).IsMapping := ⟨[], rfl⟩
  constructor
  · intro form
    exact ⟨form.keys, (Json.admits_iff _ nullable).mp form.included,
      (Json.admits_iff _ nullable).mp form.excluded, (addressList_nullable _).mp form.addresses,
      (Json.admits_iff _ ⟨mapping, nofun⟩).mp form.memberRenames,
      (Json.admits_iff _ mapping).mp form.renames, form.patterns⟩
  · rintro ⟨keys, included, excluded, addresses, memberRenames, renames, patterns⟩
    exact
      { keys, patterns
        included := (Json.admits_iff _ nullable).mpr included
        excluded := (Json.admits_iff _ nullable).mpr excluded
        addresses := (addressList_nullable _).mpr addresses
        memberRenames := (Json.admits_iff _ ⟨mapping, nofun⟩).mpr memberRenames
        renames := (Json.admits_iff _ mapping).mpr renames }

/-- What is listed of a selection, once it is known to be texts and mappings. -/
theorem judges_listed {value : Json} (named : ∀ source ∈ value.patterns, listed source)
    {included excluded addresses : Option (List String)} {renames owners : List (String × Json)}
    (inclusions : included.getD [] = (value.part "include").texts)
    (exclusions : excluded.getD [] = (value.part "exclude").texts)
    (addressed : addresses.getD [] = value.addressTexts)
    (ofNames : renames = (value.part "rename").entries)
    (ofMembers : owners = (value.part "member-rename").entries) :
    Judges (∀ source ∈ value.patterns, Pattern.Parses source) listed
      (fun selection => selection.replacements = value.replacements)
      (SelectionText.read
        { included, excluded := excluded.getD [], renames
          memberRenames := owners.map fun owner => (owner.1, owner.2.entries)
          addresses := addresses.getD [] }) := by
  let text : SelectionText :=
    { included, excluded := excluded.getD [], renames
      memberRenames := owners.map fun owner => (owner.1, owner.2.entries)
      addresses := addresses.getD [] }
  have patterns : text.patterns = value.patterns := by
    simp only [text, SelectionText.patterns, Json.patterns, inclusions, exclusions, addressed,
      ofNames, ofMembers, List.flatMap_map]
  have replacements : text.replacements = value.replacements := by
    simp only [text, SelectionText.replacements, Json.replacements, ofNames, ofMembers,
      List.flatMap_map]
  rw [← patterns] at named ⊢
  rw [← replacements]
  exact judges_read named

theorem judges_selectionOfFields (place : String) (fields : List (String × Json))
    (named : ∀ source ∈ (Json.object fields).patterns, listed source) :
    Judges (Json.object fields).IsSelection listed
      (fun selection => selection.replacements = (Json.object fields).replacements)
      (selectionOfFields place fields) := by
  unfold selectionOfFields
  dsimp only
  rw [isSelection_iff]
  refine (Judges.check Json.hasOnly_iff).bind fun _ _ _ =>
    (judges_optionalTexts _ _).bind fun included _ inclusions =>
    (judges_optionalTexts _ _).bind fun excluded _ exclusions =>
    (judges_optionalTexts _ _).bind fun addresses _ addressed => ?_
  have ofMembers := Json.entries_getD (.object []) rfl (getField fields "member-rename")
  generalize (getField fields "member-rename").getD (.object []) = memberRenames at ofMembers ⊢
  split
  · rename_i owners given
    obtain ⟨entries, mapping, given⟩ := Option.bind_eq_some_iff.mp given
    obtain rfl := Json.eq_of_fields? mapping
    obtain ⟨mappings, rfl⟩ := mapM_fields?_eq_some given
    refine .given ⟨⟨entries, rfl⟩, mappings⟩ ?_
    have ofNames := Json.entries_getD (.object []) rfl (getField fields "rename")
    split
    · rename_i renames found
      rw [found] at ofNames ⊢
      refine .given ⟨renames, rfl⟩ ?_
      exact judges_listed named inclusions exclusions (texts_addressList fields ▸ addressed)
        ofNames ofMembers
    · rename_i other
      refine .fail ?_
      rintro ⟨⟨renames, same⟩, -⟩
      exact other renames same
  · rename_i missing
    refine .fail ?_
    rintro ⟨⟨⟨entries, rfl⟩, mappings⟩, -⟩
    obtain ⟨owners, found⟩ := exists_mapM_fields? mappings
    exact nomatch missing.symm.trans found

theorem judges_selectionOf (place : String) (value : Json)
    (named : ∀ source ∈ value.patterns, listed source) :
    Judges (value.Nullable Json.IsSelection) listed
      (fun selection => selection.replacements = value.replacements)
      (selectionOf place value) := by
  unfold selectionOf
  split
  · exact .ok (.inl rfl) rfl
  · rename_i fields
    refine (judges_selectionOfFields place fields named).congr ⟨.inr, ?_⟩
    rintro (absent | form)
    · cases absent
    · exact form
  · rename_i notNull other
    refine .fail ?_
    rintro (absent | ⟨-, fields, same, -⟩)
    · exact notNull absent
    · exact other fields same

theorem getField_dropFields {keys : List String} {key : String} (kept : key ∉ keys)
    (fields : List (String × Json)) :
    getField (dropFields keys fields) key = getField fields key := by
  have passes (field : String × Json) (same : (field.1 == key) = true) :
      (!keys.contains field.1) = true := by
    rw [eq_of_beq same]
    simpa using kept
  unfold getField dropFields
  rw [List.find?_filter]
  congr 2
  funext field
  cases same : field.1 == key with
  | true => rw [passes field same]; rfl
  | false => simp

theorem isSelection_dropFields {keys : List String} (fields : List (String × Json))
    (apart : ∀ key ∈ selectionKeys, key ∉ keys) :
    (Json.object (dropFields keys fields)).IsSelection ↔
      (Json.object fields).Selects ∧ (Json.object fields).HasOnly (selectionKeys ++ keys) := by
  have same : (Json.object (dropFields keys fields)).SelectsLike (.object fields) :=
    fun key listed => getField_dropFields (apart key listed) fields
  have listing (field : String × Json) :
      field ∈ dropFields keys fields ↔ field ∈ fields ∧ field.1 ∉ keys := by
    simp [dropFields]
  constructor
  · intro form
    refine ⟨form.toSelects.congr same, fields, rfl, fun field member => ?_⟩
    obtain ⟨others, equal, known⟩ := form.keys
    cases equal
    by_cases own : field.1 ∈ keys
    · exact List.mem_append_right _ own
    · exact List.mem_append_left _ (known field ((listing field).mpr ⟨member, own⟩))
  · rintro ⟨form, others, equal, known⟩
    cases equal
    refine { form.congr same.symm with keys := ⟨_, rfl, fun field member => ?_⟩ }
    obtain ⟨member, kept⟩ := (listing field).mp member
    exact (List.mem_append.mp (known field member)).resolve_right kept

theorem judges_optionalSelection (place : String) {default : Selection}
    (empty : default.replacements = []) (value : Json)
    (named : ∀ source ∈ value.patterns, listed source) :
    Judges (value.Nullable Json.IsSelection) listed
      (fun selection => selection.replacements = value.replacements)
      (match value with
        | .null => .ok default
        | value => selectionOf place value) := by
  split
  · exact .ok (.inl rfl) empty
  · exact judges_selectionOf place value named

end Policy

end LuaBinder
