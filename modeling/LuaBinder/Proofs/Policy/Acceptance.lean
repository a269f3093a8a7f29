import LuaBinder.Proofs.Policy.Selections

namespace LuaBinder.Policy

/-! Which policies are accepted: those of the form that is asked for, and no others. -/

variable {listed : String → Prop}

/-! Call signatures. -/

theorem judges_types (suffix : String) (texts : List String) :
    Judges (∀ text ∈ texts, ∃ type, CType.ofText text = .ok type) listed (fun _ => True)
      (match texts.mapM CType.ofText with
        | .ok types => .ok (CallSignature.mk suffix types)
        | .error error => fail (.badType error)) := by
  induction texts with
  | nil => exact .ok nofun trivial
  | cons text rest induction =>
      rw [List.forall_mem_cons, List.mapM_cons]
      cases own : CType.ofText text with
      | error error => exact .fail fun both => nomatch both.1
      | ok type =>
          refine .given ⟨type, rfl⟩ ?_
          cases further : rest.mapM CType.ofText with
          | ok types =>
              rw [further] at induction
              exact induction
          | error error =>
              rw [further] at induction
              exact induction

theorem judges_signatureOf_object (place : String) (index : Nat)
    (fields : List (String × Json)) :
    Judges (((Json.object fields).part "types").SpellsTypes ∧
        (Json.object fields).Admits "postfix" Json.IsText) listed (fun _ => True)
      (signatureOf place index (.object fields)) := by
  unfold signatureOf
  dsimp only
  have types : ((some fields).bind fun found => (getField found "types").bind Json.strings?) =
      ((Json.object fields).part "types").strings? := by
    unfold Json.part
    dsimp only [Option.bind_some, Json.field?]
    rw [← getField]
    cases getField fields "types" <;> rfl
  rw [types]
  split
  · rename_i found texts same given
    obtain rfl := Option.some.inj same
    have listing := Json.isTexts_of_strings? given
    have default : (Json.string ("_" ++ toString (index + 1))).IsText := ⟨_, rfl⟩
    refine ((judges_expectText _ _).bind fun suffix _ _ => judges_types suffix texts).congr ?_
    rw [Json.SpellsTypes, Json.texts, given, and_iff_right listing, and_comm,
      Json.admits_iff _ default]
    rfl
  · rename_i missing
    refine .fail fun form => ?_
    exact missing fields _ rfl form.1.1.strings?

theorem judges_signatureOf (place : String) (index : Nat) (entry : Json) :
    Judges entry.IsSignature listed (fun _ => True) (signatureOf place index entry) := by
  cases entry with
  | array items =>
      refine (judges_signatureOf_object place index [("types", .array items)]).congr ⟨?_, ?_⟩
      · exact fun form => .types form.1
      · rintro (⟨spelled⟩ | _)
        exact ⟨spelled, nofun⟩
  | object fields =>
      refine (judges_signatureOf_object place index fields).congr ⟨?_, ?_⟩
      · exact fun form => .mapping form.1 form.2
      · rintro (_ | ⟨spelled, suffix⟩)
        exact ⟨spelled, suffix⟩
  | _ => exact .fail nofun

theorem judges_signaturesFrom (place : String) (index : Nat) (items : List Json) :
    Judges (∀ item ∈ items, item.IsSignature) listed (fun _ => True)
      (signaturesFrom place index items) := by
  induction items generalizing index with
  | nil => exact .ok nofun trivial
  | cons entry rest induction =>
      rw [List.forall_mem_cons]
      exact (judges_signatureOf _ _ _).bind fun _ _ _ =>
        (induction _).map fun _ _ _ => trivial

theorem judges_signatureTableOf (value : Json) :
    Judges value.IsSignatureTable listed (fun _ => True) (signatureTableOf value) := by
  unfold signatureTableOf
  split
  · rename_i fields
    have mapping : (Json.object fields).IsMapping := ⟨fields, rfl⟩
    refine (Judges.each fun function _ => ?_).congr (and_iff_right mapping).symm
    dsimp only
    split
    · rename_i items given
      refine ((judges_signaturesFrom _ _ items).map fun _ _ _ => trivial).congr
        ⟨fun each => ⟨items, given, each⟩, ?_⟩
      rintro ⟨same, equal, each⟩
      cases given.symm.trans equal
      exact each
    · rename_i other
      refine .fail ?_
      rintro ⟨items, same, -⟩
      exact other items same
  · rename_i other
    refine .fail ?_
    rintro ⟨⟨fields, same⟩, -⟩
    exact other fields same

/-! Whole policies. -/

theorem judges_optionalText (fields : List (String × Json)) (key default : String) :
    Judges ((Json.object fields).Admits key Json.IsText) listed (fun _ => True)
      (optionalText fields key default) := by
  unfold optionalText
  split
  · rename_i value found
    rw [Json.admits_of_some found]
    exact judges_expectText key value
  · rename_i absent
    exact .ok (Json.admits_of_none absent) trivial

theorem judges_compilerOptionsOf (value : Json) :
    Judges (value.IsText ∨ value.IsTexts) listed (fun _ => True) (compilerOptionsOf value) := by
  unfold compilerOptionsOf
  split
  · exact .ok (.inl ⟨_, rfl⟩) trivial
  · rename_i other
    split
    · rename_i texts given
      exact .ok (.inr (Json.isTexts_of_strings? given)) trivial
    · rename_i missing
      refine .fail ?_
      rintro (⟨text, same⟩ | form)
      · exact other text same
      · exact Json.not_isTexts missing form

theorem judges_headersOf (value : Json) :
    Judges value.IsHeaders listed (fun _ => True) (headersOf value) := by
  unfold headersOf
  split
  · rename_i fields
    have default : (Json.array []).IsTexts := ⟨[], rfl, nofun⟩
    dsimp only
    split
    · rename_i entryPoints directives ofPoints ofDirectives
      exact .ok
        { mapping := ⟨fields, rfl⟩
          entryPoints := (Json.admits_iff _ default).mpr (Json.isTexts_of_strings? ofPoints)
          includeDirectives :=
            (Json.admits_iff _ default).mpr (Json.isTexts_of_strings? ofDirectives) } trivial
    · rename_i missing
      refine .fail fun form => ?_
      exact missing _ _ ((Json.admits_iff _ default).mp form.entryPoints).strings?
        ((Json.admits_iff _ default).mp form.includeDirectives).strings?
  · rename_i other
    refine .fail ?_
    rintro ⟨⟨fields, same⟩, -, -⟩
    exact other fields same

theorem judges_nativeOf (value : Json) :
    Judges value.IsNative listed (fun native => native.library = value.part "library")
      (nativeOf value) := by
  unfold nativeOf
  split
  · rename_i fields
    have absent : Json.Nullable (fun name => ∃ text ∈ conventions, name = .string text) .null :=
      .inl rfl
    have form : (Json.object fields).IsNative ↔
        (Json.object fields).HasOnly ["library", "convention"] ∧
          ((getField fields "convention").getD .null).Nullable fun name =>
            ∃ text ∈ conventions, name = .string text :=
      ⟨fun form => ⟨form.keys, (Json.admits_iff _ absent).mp form.convention⟩,
        fun form => ⟨form.1, (Json.admits_iff _ absent).mpr form.2⟩⟩
    rw [form]
    refine (Judges.check Json.hasOnly_iff).bind fun _ _ _ => ?_
    dsimp only
    generalize (getField fields "convention").getD .null = convention
    split
    · exact .ok (.inl rfl) rfl
    · rename_i name
      split
      · rename_i known
        exact .ok (.inr ⟨name, by simpa using known, rfl⟩) rfl
      · rename_i unknown
        refine .fail ?_
        rintro (⟨⟨⟩⟩ | ⟨text, known, ⟨⟩⟩)
        exact unknown (by simpa using known)
    · rename_i notNull other
      refine .fail ?_
      rintro (same | ⟨text, -, same⟩)
      · exact notNull same
      · exact other text same
  · rename_i other
    refine .fail ?_
    rintro ⟨⟨fields, same, -⟩, -⟩
    exact other fields same

/-- The selections of the policy hold the replacements that the value lists. -/
def Matches (policy : Policy) (value : Json) : Prop :=
  ∀ kind, (policy.selection kind).replacements = (value.selection kind).replacements

/-- What a policy holds of functions comes from where it tells about them. -/
structure HasFunctions (read policy : Policy) (value : Json) : Prop where
  functions : read.functions.replacements = value.replacements
  leafFunctions : read.leafFunctions.replacements = (value.part "leaf").replacements
  functionTypes :
    read.functionTypes.replacements = (value.part "expose-typedefs").replacements
  others : ∀ kind ∈ SelectionKind.plain, read.selection kind = policy.selection kind

theorem isFunctions_iff (fields : List (String × Json)) :
    (Json.object fields).IsFunctions ↔
      (Json.object (dropFields ["leaf", "expose-typedefs", "variadic-arguments"]
          fields)).IsSelection ∧
        ((getField fields "leaf").getD .null).Nullable Json.IsSelection ∧
        ((getField fields "expose-typedefs").getD .null).Nullable Json.IsSelection ∧
        ((getField fields "variadic-arguments").getD (.object [])).IsSignatureTable := by
  have nullable : Json.Nullable Json.IsSelection .null := .inl rfl
  have table : (Json.object []).IsSignatureTable := ⟨⟨[], rfl⟩, nofun⟩
  rw [isSelection_dropFields fields (by decide)]
  constructor
  · intro form
    exact ⟨⟨form.toSelects, form.keys⟩, (Json.admits_iff _ nullable).mp form.leafFunctions,
      (Json.admits_iff _ nullable).mp form.functionTypes,
      (Json.admits_iff _ table).mp form.signatures⟩
  · rintro ⟨⟨selects, keys⟩, leafFunctions, functionTypes, signatures⟩
    exact
      { selects with
        keys
        leafFunctions := (Json.admits_iff _ nullable).mpr leafFunctions
        functionTypes := (Json.admits_iff _ nullable).mpr functionTypes
        signatures := (Json.admits_iff _ table).mpr signatures }

theorem judges_withFunctions_object {policy : Policy} (fields : List (String × Json))
    (named : ∀ source, source ∈ (Json.object fields).patterns ∨
      source ∈ ((Json.object fields).part "leaf").patterns ∨
      source ∈ ((Json.object fields).part "expose-typedefs").patterns → listed source)
    (noLeaf : policy.leafFunctions.replacements = [])
    (noTypes : policy.functionTypes.replacements = []) :
    Judges (Json.object fields).IsFunctions listed (HasFunctions · policy (.object fields))
      (policy.withFunctions (.object fields)) := by
  have same : (Json.object (dropFields ["leaf", "expose-typedefs", "variadic-arguments"]
      fields)).SelectsLike (.object fields) :=
    fun key known => getField_dropFields (by revert key; decide) fields
  have given : (if (Json.object fields).holds then Json.object fields else .object []) =
      .object fields := by
    cases fields <;> rfl
  unfold withFunctions
  rw [given, isFunctions_iff]
  dsimp only
  refine (judges_selectionOfFields "functions" _ fun source member =>
      named source (.inl (same.patterns_eq ▸ member))).bind fun functions _ own =>
    (judges_optionalSelection _ noLeaf _ fun source member =>
      named source (.inr (.inl member))).bind fun leafFunctions _ ofLeaf =>
    (judges_optionalSelection _ noTypes _ fun source member =>
      named source (.inr (.inr member))).bind fun functionTypes _ ofTypes =>
    (judges_signatureTableOf _).map fun signatures _ _ => ?_
  refine ⟨own.trans same.replacements_eq, ofLeaf, ofTypes, fun kind plain => ?_⟩
  cases kind <;> first | rfl | exact absurd plain (by decide)

theorem field?_of_not_holds {value : Json} (nothing : value.holds = false) (key : String) :
    value.field? key = none := by
  cases value with
  | object fields =>
      cases fields with
      | nil => rfl
      | cons => cases nothing
  | _ => rfl

theorem isFunctions_nil : (Json.object []).IsFunctions where
  included := nofun
  excluded := nofun
  addresses := nofun
  renames := nofun
  memberRenames := nofun
  patterns := nofun
  keys := ⟨[], rfl, nofun⟩
  leafFunctions := nofun
  functionTypes := nofun
  signatures := nofun

/-- What does not hold tells as much of functions as an empty mapping. -/
theorem judges_withFunctions {policy : Policy} (value : Json)
    (named : ∀ source, source ∈ value.patterns ∨ source ∈ (value.part "leaf").patterns ∨
      source ∈ (value.part "expose-typedefs").patterns → listed source)
    (noLeaf : policy.leafFunctions.replacements = [])
    (noTypes : policy.functionTypes.replacements = []) :
    Judges (value.holds = false ∨ value.IsFunctions) listed (HasFunctions · policy value)
      (policy.withFunctions value) := by
  cases holds : value.holds with
  | true =>
      refine Judges.congr ?_ (or_iff_right (by decide)).symm
      cases value with
      | object fields => exact judges_withFunctions_object fields named noLeaf noTypes
      | _ =>
          unfold withFunctions
          rw [holds]
          refine .fail fun form => ?_
          obtain ⟨fields, ⟨⟩, -⟩ := form.keys
  | false =>
      have missing := field?_of_not_holds holds
      have same : value.SelectsLike (.object []) := fun key _ => missing key
      have given : policy.withFunctions value = policy.withFunctions (.object []) := by
        unfold withFunctions
        rw [holds]
        rfl
      have judges : Judges (Json.object []).IsFunctions listed
          (HasFunctions · policy (.object [])) (policy.withFunctions (.object [])) :=
        judges_withFunctions_object [] nofun noLeaf noTypes
      rw [given]
      refine (judges.imp fun read has => ?_).congr
        ⟨fun _ => .inl rfl, fun _ => isFunctions_nil⟩
      refine ⟨has.functions.trans same.replacements_eq.symm, has.leafFunctions.trans ?_,
        has.functionTypes.trans ?_, has.others⟩
      all_goals
        unfold Json.part
        rw [missing]
        rfl

theorem selection_of_plain {kind : SelectionKind} (plain : kind ∈ SelectionKind.plain)
    (value : Json) : value.selection kind = value.part kind.name := by
  cases kind <;> first | rfl | exact absurd plain (by decide)

theorem selection_withSelection (policy : Policy) (selection : Selection)
    (kind other : SelectionKind) :
    (policy.withSelection selection kind).selection other =
      if other = kind then selection else policy.selection other := by
  cases kind <;> cases other <;> rfl

/-- A selection that is told is taken over, one that is not told stays without replacements. -/
theorem judges_ownSelection (fields : List (String × Json)) (policy : Policy)
    {kind : SelectionKind} (plain : kind ∈ SelectionKind.plain)
    (named : ∀ source ∈ ((Json.object fields).selection kind).patterns, listed source)
    (start : (policy.selection kind).replacements =
        ((Json.object fields).selection kind).replacements ∨
      (policy.selection kind).replacements = []) :
    Judges ((Json.object fields).Admits kind.name (Json.Nullable Json.IsSelection)) listed
      (fun next => (next.selection kind).replacements =
          ((Json.object fields).selection kind).replacements ∧
        ∀ other, other ≠ kind → next.selection other = policy.selection other)
      (match getField fields kind.name with
        | some value => do return policy.withSelection (← selectionOf kind.name value) kind
        | none => .ok policy) := by
  rw [selection_of_plain plain, Json.part, Json.field?, ← getField] at named start ⊢
  split
  · rename_i value found
    rw [Json.admits_of_some found]
    rw [found] at named ⊢
    refine (judges_selectionOf kind.name value named).map fun selection _ own => ⟨?_, ?_⟩
    · rw [selection_withSelection, if_pos rfl]
      exact own
    · exact fun other apart => by rw [selection_withSelection, if_neg apart]
  · rename_i absent
    rw [absent] at start ⊢
    exact .ok (Json.admits_of_none absent) ⟨start.elim id id, fun _ _ => rfl⟩

theorem judges_withSelections (fields : List (String × Json)) (policy : Policy)
    (named : ∀ kind, ∀ source ∈ ((Json.object fields).selection kind).patterns, listed source)
    (start : ∀ kind, (policy.selection kind).replacements =
        ((Json.object fields).selection kind).replacements ∨
      kind ∈ SelectionKind.plain ∧ (policy.selection kind).replacements = []) :
    Judges (∀ kind ∈ SelectionKind.plain,
        (Json.object fields).Admits kind.name (Json.Nullable Json.IsSelection)) listed
      (fun read => read.Matches (.object fields)) (policy.withSelections fields) := by
  unfold withSelections
  generalize given : SelectionKind.plain = kinds at start ⊢
  have plain : ∀ kind ∈ kinds, kind ∈ SelectionKind.plain := fun _ => given ▸ id
  clear given
  induction kinds generalizing policy with
  | nil => exact .ok nofun fun kind => (start kind).resolve_right nofun
  | cons kind rest induction =>
      obtain ⟨own, others⟩ := List.forall_mem_cons.mp plain
      rw [List.foldlM_cons, List.forall_mem_cons]
      refine (judges_ownSelection fields policy own (named kind)
        ((start kind).imp_right And.right)).bind fun next _ taken =>
          induction next (fun other => ?_) others
      by_cases same : other = kind
      · exact .inl (same ▸ taken.1)
      · rw [taken.2 other same]
        refine (start other).imp_right fun waiting => ⟨?_, waiting.2⟩
        exact (List.mem_cons.mp waiting.1).resolve_left same

theorem isPolicy_iff (fields : List (String × Json)) :
    (Json.object fields).IsPolicy ↔
      (Json.object fields).HasOnly topFields ∧
      (Json.object fields).Admits "module" Json.IsText ∧
      (Json.object fields).Admits "output" Json.IsText ∧
      (Json.object fields).Admits "comments" (fun part => ∃ asked, part = .bool asked) ∧
      (Json.object fields).Admits "compiler-opts" (fun part => part.IsText ∨ part.IsTexts) ∧
      ((getField fields "headers").getD (.object [])).IsHeaders ∧
      (((getField fields "functions").getD .null).holds = false ∨
        ((getField fields "functions").getD .null).IsFunctions) ∧
      (∀ kind ∈ SelectionKind.plain,
        (Json.object fields).Admits kind.name (Json.Nullable Json.IsSelection)) ∧
      ((getField fields "native").getD (.object [])).IsNative := by
  have headers : (Json.object []).IsHeaders := ⟨⟨[], rfl⟩, nofun, nofun⟩
  have native : (Json.object []).IsNative := ⟨⟨[], rfl, nofun⟩, nofun⟩
  have functions : (Json.object fields).Admits "functions" (fun part =>
      part.holds = false ∨ part.IsFunctions) ↔ _ := Json.admits_iff .null (.inl rfl)
  constructor
  · intro form
    exact ⟨form.keys, form.moduleName, form.output, form.comments, form.compilerOptions,
      (Json.admits_iff _ headers).mp form.headers, functions.mp form.functions,
      form.selections, (Json.admits_iff _ native).mp form.native⟩
  · rintro ⟨keys, moduleName, output, comments, compilerOptions, ofHeaders, ofFunctions,
      selections, ofNative⟩
    exact
      { keys, moduleName, output, comments, compilerOptions, selections
        headers := (Json.admits_iff _ headers).mpr ofHeaders
        functions := functions.mpr ofFunctions
        native := (Json.admits_iff _ native).mpr ofNative }

/-! A policy read part by part. -/

def commentsOf (fields : List (String × Json)) : Except Error Bool :=
  match getField fields "comments" with
  | none => .ok true
  | some (.bool value) => .ok value
  | some _ => fail .badComments

def optionsOf (fields : List (String × Json)) : Except Error (List String) :=
  match getField fields "compiler-opts" with
  | none => .ok []
  | some value => compilerOptionsOf value

/-- What depends on more than a single value, for what is settled before. -/
def partsOf (fields : List (String × Json)) (settle : List String × List String → Policy) :
    Except Error Policy := do
  let headers ← headersOf ((getField fields "headers").getD (.object []))
  let policy ← (settle headers).withFunctions ((getField fields "functions").getD .null)
  let policy ← policy.withSelections fields
  let native ← nativeOf ((getField fields "native").getD (.object []))
  return { policy with native }

theorem ofFields_eq (fields : List (String × Json)) :
    ofFields fields = (do
      check (unknownKeys topFields fields).isEmpty
        (.unknownTopKeys (unknownKeys topFields fields))
      let moduleName ← optionalText fields "module" "bindings"
      let output ← optionalText fields "output" "."
      let comments ← commentsOf fields
      let compilerOptions ← optionsOf fields
      partsOf fields fun headers =>
        { moduleName, output, comments, compilerOptions
          entryPoints := headers.1, includeDirectives := headers.2 }) := by
  unfold ofFields commentsOf optionsOf
  dsimp only
  refine bind_congr fun _ => bind_congr fun moduleName => bind_congr fun output => ?_
  generalize getField fields "comments" = comments, getField fields "compiler-opts" = options
  cases comments with
  | none => cases options <;> rfl
  | some value => cases value <;> cases options <;> rfl

theorem judges_commentsOf (fields : List (String × Json)) :
    Judges ((Json.object fields).Admits "comments" fun part => ∃ asked, part = .bool asked)
      listed (fun _ => True) (commentsOf fields) := by
  unfold commentsOf
  split
  · rename_i absent
    exact .ok (Json.admits_of_none absent) trivial
  · rename_i value given
    exact .ok ((Json.admits_of_some given).mpr ⟨value, rfl⟩) trivial
  · rename_i part other given
    refine .fail fun form => ?_
    obtain ⟨value, rfl⟩ := (Json.admits_of_some given).mp form
    exact other value rfl

theorem judges_optionsOf (fields : List (String × Json)) :
    Judges ((Json.object fields).Admits "compiler-opts" fun part => part.IsText ∨ part.IsTexts)
      listed (fun _ => True) (optionsOf fields) := by
  unfold optionsOf
  split
  · rename_i absent
    exact .ok (Json.admits_of_none absent) trivial
  · rename_i value given
    rw [Json.admits_of_some given]
    exact judges_compilerOptionsOf value

theorem judges_partsOf (fields : List (String × Json))
    (named : ∀ kind, ∀ source ∈ ((Json.object fields).selection kind).patterns, listed source)
    (settle : List String × List String → Policy)
    (start : ∀ headers kind, ((settle headers).selection kind).replacements = []) :
    Judges (((getField fields "headers").getD (.object [])).IsHeaders ∧
      (((getField fields "functions").getD .null).holds = false ∨
        ((getField fields "functions").getD .null).IsFunctions) ∧
      (∀ kind ∈ SelectionKind.plain,
        (Json.object fields).Admits kind.name (Json.Nullable Json.IsSelection)) ∧
      ((getField fields "native").getD (.object [])).IsNative) listed
      (fun policy => policy.Matches (.object fields) ∧
        policy.native.library = (Json.object fields).library) (partsOf fields settle) := by
  refine (judges_headersOf _).bind fun headers _ _ =>
    (judges_withFunctions _ (fun source member => ?_) (start headers .leafFunctions)
      (start headers .functionTypes)).bind fun withFunctions _ has =>
    (judges_withSelections fields _ named fun kind => ?_).bind fun policy _ selected =>
    (judges_nativeOf _).map fun native _ library => ⟨fun kind => ?_, ?_⟩
  · rcases member with member | member | member
    · exact named .functions source member
    · exact named .leafFunctions source member
    · exact named .functionTypes source member
  · by_cases plain : kind ∈ SelectionKind.plain
    · exact .inr ⟨plain, (congrArg _ (has.others kind plain)).trans (start headers kind)⟩
    · left
      cases kind with
      | functions => exact has.functions
      | leafFunctions => exact has.leafFunctions
      | functionTypes => exact has.functionTypes
      | _ => exact absurd (by decide) plain
  · have same : ({ policy with native } : Policy).selection kind = policy.selection kind := by
      cases kind <;> rfl
    rw [same]
    exact selected kind
  · rw [library, Json.library]
    unfold Json.part
    dsimp only [Json.field?]
    rw [← getField]
    cases getField fields "native" <;> rfl

theorem judges_ofFields (fields : List (String × Json))
    (named : ∀ kind, ∀ source ∈ ((Json.object fields).selection kind).patterns, listed source) :
    Judges (Json.object fields).IsPolicy listed
      (fun policy => policy.Matches (.object fields) ∧
        policy.native.library = (Json.object fields).library) (ofFields fields) := by
  rw [isPolicy_iff, ofFields_eq]
  refine (Judges.check Json.hasOnly_iff).bind fun _ _ _ =>
    (judges_optionalText fields "module" _).bind fun moduleName _ _ =>
    (judges_optionalText fields "output" _).bind fun output _ _ =>
    (judges_commentsOf fields).bind fun comments _ _ =>
    (judges_optionsOf fields).bind fun compilerOptions _ _ =>
    judges_partsOf fields named _ fun _ kind => ?_
  cases kind <;> rfl

/-- A value is accepted exactly if it has the form of a policy, and what is accepted holds what the
value lists. What is not accepted has a fault, or it lists a pattern that cannot be handled. -/
theorem judges_ofJson (value : Json) :
    Judges value.IsPolicy (fun source => ∃ kind, source ∈ (value.selection kind).patterns)
      (fun policy => policy.Matches value ∧ policy.native.library = value.library)
      (ofJson value) := by
  unfold ofJson
  split
  · exact judges_ofFields _ fun kind source member => ⟨kind, member⟩
  · rename_i other
    refine .fail fun form => ?_
    obtain ⟨fields, same, -⟩ := form.keys
    exact other fields same

end LuaBinder.Policy
