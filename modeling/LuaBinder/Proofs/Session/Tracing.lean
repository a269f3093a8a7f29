import LuaBinder.Proofs.Policy.Renaming
import LuaBinder.Proofs.Session.Stages
import LuaBinder.Proofs.Session.Step

namespace LuaBinder.Session

open Header

/-! Where the want of a text comes from in a session: a step fails for it only at a replacement of
the policy that is no text. -/

def Error.TracesTo (error : Error) (policy : Policy) : Prop :=
  ∀ replacement, error = .selection (.notText replacement) → policy.Misfit replacement

/-- The policy stays whatever happens. -/
def Step.TracesTo (step : Step α) (policy : Policy) : Prop :=
  ∀ forest s, s.policy = policy →
    step.Ensures forest s (fun _ after => after.policy = policy)
      fun error after => after.policy = policy ∧ error.TracesTo policy

variable {policy : Policy}

namespace Step

theorem TracesTo.bind {step : Step α} {next : α → Step β} (first : step.TracesTo policy)
    (second : ∀ value, (next value).TracesTo policy) : (step >>= next).TracesTo policy :=
  fun forest s same => Ensures.bind (first forest s same) fun value middle same =>
    second value forest middle same

theorem traces_pure (value : α) : (pure value : Step α).TracesTo policy := fun _ _ same => same

theorem traces_throw {error : Error} (other : ∀ found, error ≠ .selection found) :
    (throw error : Step α).TracesTo policy :=
  fun _ _ same => ⟨same, fun _ found => absurd found (other _)⟩

theorem traces_modify {change : Session → Session}
    (keeps : ∀ s, (change s).policy = s.policy) : (modify change : Step Unit).TracesTo policy :=
  fun _ s same => (keeps s).trans same

theorem traces_get : (get : Step Session).TracesTo policy := fun _ _ same => same

theorem traces_read : (read : Step Forest).TracesTo policy := fun _ _ same => same

/-- What is read of the policy is read of this one. -/
theorem TracesTo.reading {next : Policy → Step α} (rest : (next policy).TracesTo policy) :
    (getPolicy >>= next).TracesTo policy :=
  fun forest s same => Ensures.look (by rw [← same]; rfl) (rest forest s same)

theorem traces_forM {step : α → Step Unit} (items : List α)
    (each : ∀ item, (step item).TracesTo policy) : (items.forM step).TracesTo policy := by
  induction items with
  | nil => exact traces_pure ()
  | cons item rest induction => exact (each item).bind fun _ => induction

end Step

open Step (traces_pure traces_throw traces_modify traces_get traces_read traces_forM)

theorem traces_getStore : getStore.TracesTo policy := traces_get.bind fun _ => traces_pure _

theorem traces_cursor (number : Nat) : (cursor number).TracesTo policy :=
  traces_read.bind fun _ => traces_pure _

theorem traces_lookup? (usr : String) : (lookup? usr).TracesTo policy :=
  traces_getStore.bind fun _ => traces_pure _

theorem traces_published? (usr : String) (ok : Declaration → Bool) :
    (published? usr ok).TracesTo policy :=
  (traces_lookup? usr).bind fun _ => traces_pure _

theorem traces_isDropped (usr : String) : (isDropped usr).TracesTo policy :=
  traces_get.bind fun _ => traces_pure _

theorem traces_frame (number : Nat) : (frame number).TracesTo policy :=
  traces_get.bind fun _ => traces_pure _

theorem traces_childrenOf (number : Nat) (kind : CursorKind) :
    (childrenOf number kind).TracesTo policy :=
  traces_read.bind fun _ => traces_pure _

theorem traces_docOf (c : Cursor) : (docOf c).TracesTo policy :=
  .reading (traces_pure _)

theorem traces_nameOf (c : Cursor) : (nameOf c).TracesTo policy := by
  unfold nameOf
  split
  · exact traces_get.bind fun _ => traces_pure _
  · exact traces_pure _

theorem traces_debug (source message : String) : (debug source message).TracesTo policy :=
  traces_modify fun _ => rfl

theorem traces_diagnose (name usr : String) (reason : Reason) (message : String) :
    (diagnose name usr reason message).TracesTo policy :=
  (traces_modify fun _ => rfl).bind fun _ => traces_modify fun _ => rfl

theorem traces_amend (usr : String) (change : Body → Body) :
    (amend usr change).TracesTo policy :=
  traces_modify fun _ => rfl

theorem traces_drop (usr : String) : (drop usr).TracesTo policy :=
  traces_modify fun _ => by split <;> rfl

theorem traces_changeFrame (number : Nat) (change : Frame → Frame) :
    (changeFrame number change).TracesTo policy :=
  traces_modify fun _ => rfl

theorem traces_nameByTypedef (usr name : String) : (nameByTypedef usr name).TracesTo policy :=
  traces_modify fun _ => by split <;> rfl

theorem traces_publish (d : Declaration) : (publish d).TracesTo policy :=
  fun _ _ same => ensures_publish (fun _ => same) fun _ => ⟨same, nofun⟩

theorem traces_withFrame {name : String} {body : Nat → Step α}
    (inside : ∀ number, (body number).TracesTo policy) :
    (withFrame name body).TracesTo policy := by
  intro forest s same
  simp only [withFrame, Step.ensures_bind, ensures_pushFrame, Step.ensures_tryCatch,
    Step.ensures_map, Step.ensures_pure]
  refine (inside s.frames forest (s.entered name) same).imp (fun value after same => ?_)
    fun error after failed => ?_
  all_goals
    simp only [popFrame, Step.ensures_bind, ensures_get]
    split
  · exact same
  · exact ⟨same, nofun⟩
  · exact failed
  · exact ⟨failed.1, nofun⟩

/-! What selections answer. -/

theorem traces_selected {result : Except SelectionError α}
    (traced : ∀ replacement, result = .error (.notText replacement) → policy.Misfit replacement) :
    (selected result).TracesTo policy := by
  cases result with
  | ok answer => exact traces_pure answer
  | error error =>
      refine fun _ _ same => ⟨same, fun replacement found => traced replacement ?_⟩
      cases found
      rfl

theorem traces_matching {result : Except SelectionError α}
    (matching : FailsOnly SelectionError.IsMatch result) : (selected result).TracesTo policy :=
  traces_selected fun _ failed => absurd failed (ne_notText matching _)

theorem traces_rename (kind : SelectionKind) (name : String) :
    (selected ((policy.selection kind).rename name)).TracesTo policy :=
  traces_selected fun _ failed =>
    have listed := Selection.mem_replacements_of_rename failed
    ⟨⟨kind, listed.1⟩, listed.2⟩

theorem traces_renameMember (kind : SelectionKind) (owner name : String) :
    (selected ((policy.selection kind).renameMember owner name)).TracesTo policy :=
  traces_selected fun _ failed =>
    have listed := Selection.mem_replacements_of_renameMember failed
    ⟨⟨kind, listed.1⟩, listed.2⟩

theorem traces_renameUnlessEmpty (kind : SelectionKind) (name : String) :
    (renameUnlessEmpty (policy.selection kind) name).TracesTo policy := by
  unfold renameUnlessEmpty
  split
  · exact traces_pure _
  · exact traces_rename kind name

theorem traces_parameterName (kind : SelectionKind) (owner : String) (index : Nat)
    (spelling : String) :
    (parameterName (policy.selection kind) owner index spelling).TracesTo policy := by
  unfold parameterName
  split
  · exact (traces_pure _).bind fun _ => traces_pure _
  · exact (traces_renameMember kind owner spelling).bind fun _ => traces_pure _

theorem traces_collectParameter (kind : SelectionKind) {owner spelling : String} {index : Nat}
    {type : CType} {collect : Step (List Parameter)} (collects : collect.TracesTo policy) :
    (collectParameter (policy.selection kind) owner spelling index type collect).TracesTo
      policy :=
  (traces_parameterName kind owner index spelling).bind fun _ =>
    collects.bind fun _ => traces_pure _

/-! Types. -/

def Declare.TracesTo (declare : Declare) (policy : Policy) : Prop :=
  ∀ form number, (declare form number).TracesTo policy

theorem traces_unsupported (spelling reason : String) :
    (unsupported spelling reason).TracesTo policy :=
  (traces_debug _ _).bind fun _ => traces_pure _

theorem traces_finishFunction (facts : TypeFacts TypeKind) (params : List (String × CType))
    (result : CType) : (finishFunction facts params result).TracesTo policy := by
  refine traces_getStore.bind fun store => ?_
  split
  · exact traces_pure _
  · exact traces_unsupported _ _

section

variable {declare : Declare} (traces : declare.TracesTo policy)
include traces

theorem traces_resolveCompound (facts : TypeFacts TypeKind) :
    (resolveCompound declare facts).TracesTo policy := by
  unfold resolveCompound
  split
  · exact traces_unsupported _ _
  · refine (traces_cursor _).bind fun c => ?_
    dsimp only
    split
    · exact (traces _ _).bind fun _ => traces_pure _
    · exact traces_unsupported _ _

theorem traces_resolveTypedef (number : Nat) :
    (resolveTypedef declare number).TracesTo policy := by
  refine (traces_cursor number).bind fun c => ?_
  split
  · exact traces_pure _
  · exact (traces _ _).bind fun _ => traces_pure _

theorem traces_resolveObject (native : NativeType) :
    (resolveObject declare native).TracesTo policy := by
  cases native with
  | absent => exact traces_pure _
  | known facts =>
      simp only [resolveObject]
      split
      · exact (traces_resolveCompound traces facts).bind fun _ => traces_pure _
      · exact traces_pure _

end

section

variable {declare : Declare}

mutual

theorem traces_resolve (traces : declare.TracesTo policy) : (native : NativeType) →
    (resolve declare native).TracesTo policy
  | .absent => traces_unsupported _ _
  | .known facts pointee element named result canonical arguments => by
      rw [resolve]
      split
      · exact traces_pure _
      · exact traces_unsupported _ _
      split
      case h_1 => exact (traces_resolve traces pointee).bind fun _ => traces_pure _
      case h_2 => exact traces_resolveObject traces pointee
      case h_3 | h_4 => exact (traces_resolve traces element).bind fun _ => traces_pure _
      case h_5 => exact traces_resolve traces named
      case h_6 => -- typedefs
        split
        · exact traces_resolveTypedef traces _
        split
        · exact traces_throw nofun
        · exact traces_resolve traces canonical
      case h_7 | h_8 | h_9 => exact traces_resolveCompound traces facts
      case h_10 => exact (traces_resolve traces result).bind fun _ => traces_pure _
      case h_11 => -- function prototypes
        split
        · exact traces_unsupported _ _
        refine (traces_resolveAll traces arguments 0).bind fun params => ?_
        exact (traces_resolve traces result).bind fun _ => traces_finishFunction facts params _
      case h_12 => -- unexposed types
        split
        · exact traces_unsupported _ _
        · exact traces_resolve traces canonical
      case h_13 => exact traces_unsupported _ _

theorem traces_resolveAll (traces : declare.TracesTo policy) : (natives : TypeTrees TypeKind) →
    (index : Nat) → (resolveAll declare index natives).TracesTo policy
  | .nil, _ => traces_pure _
  | .cons first rest, index => by
      rw [resolveAll]
      refine (traces_resolve traces first).bind fun type => ?_
      exact (traces_resolveAll traces rest (index + 1)).bind fun _ => traces_pure _

end

end

/-! Records and enumerations. -/

theorem traces_makeOpaque (fuel : Nat) (usr problem : String) :
    (makeOpaque fuel usr problem).TracesTo policy := by
  induction fuel generalizing usr problem with
  | zero => exact traces_throw nofun
  | succ fuel induction =>
      refine (traces_amend _ _).bind fun _ => (traces_lookup? usr).bind fun found => ?_
      refine (traces_diagnose _ _ _ _).bind fun _ => traces_getStore.bind fun store => ?_
      refine traces_forM _ fun holder => (traces_lookup? holder).bind fun d => ?_
      cases d with
      | none => exact traces_pure _
      | some d =>
          refine traces_getStore.bind fun store => ?_
          split
          · exact traces_pure _
          · exact (traces_debug _ _).bind fun _ => induction _ _

theorem traces_buildMember (kind : SelectionKind) (record : String) (index : Nat) (c : Cursor)
    (type : CType) :
    (buildMember (policy.selection kind) record index c type).TracesTo policy := by
  unfold buildMember
  split
  · refine (traces_renameMember kind record c.spelling).bind fun name => ?_
    exact (traces_docOf c).bind fun _ => traces_pure _
  · exact (traces_docOf c).bind fun _ => traces_pure _

theorem traces_buildConstant (kind : SelectionKind) (usr enumeration : String) (number : Nat) :
    (buildConstant (policy.selection kind) usr enumeration number).TracesTo policy :=
  (traces_cursor number).bind fun _ => (traces_renameMember kind _ _).bind fun _ =>
    (traces_docOf _).bind fun _ => traces_amend _ _

theorem traces_buildEnumeration (number : Nat) : (buildEnumeration number).TracesTo policy := by
  refine (traces_cursor number).bind fun c => .reading ?_
  refine (traces_cursor _).bind fun definition => (traces_nameOf c).bind fun nativeName => ?_
  refine (traces_renameUnlessEmpty .enums nativeName).bind fun name => ?_
  refine (traces_docOf _).bind fun doc => (traces_publish _).bind fun _ => ?_
  refine (traces_debug _ _).bind fun _ => (traces_childrenOf _ _).bind fun children => ?_
  exact traces_forM _ fun child => traces_buildConstant .enums _ _ child

theorem exists_recordSelection (policy : Policy) (kind : CursorKind) :
    ∃ own, recordSelection policy kind = policy.selection own := by
  unfold recordSelection
  split
  · exact ⟨.unions, rfl⟩
  · exact ⟨.structs, rfl⟩

section

variable {declare : Declare} (traces : declare.TracesTo policy)
include traces

theorem traces_buildMembers (kind : SelectionKind) (record : String) (index : Nat)
    (fields : List Nat) :
    (buildMembers declare (policy.selection kind) record index fields).TracesTo policy := by
  induction fields generalizing index with
  | nil => exact traces_pure _
  | cons number rest induction =>
      refine (traces_cursor number).bind fun c => ?_
      split
      · exact traces_pure _
      refine (traces_resolve traces c.type).bind fun type => traces_getStore.bind fun store => ?_
      split
      · exact traces_pure _
      refine (traces_buildMember kind record index c type).bind fun member => ?_
      refine (induction (index + 1)).bind fun members => ?_
      cases members with
      | error => exact traces_pure _
      | ok => exact traces_pure _

theorem traces_completeTypedef (usr : String) (native : NativeType) :
    (completeTypedef declare usr native).TracesTo policy :=
  (traces_resolve traces native).bind fun _ => traces_amend _ _

theorem traces_buildTypedef (number : Nat) : (buildTypedef declare number).TracesTo policy := by
  refine (traces_cursor number).bind fun c => .reading ?_
  refine (traces_rename .typedefs c.spelling).bind fun name => (traces_docOf c).bind fun doc => ?_
  refine (traces_publish _).bind fun _ => (traces_debug _ _).bind fun _ => ?_
  refine traces_read.bind fun forest => ?_
  dsimp only
  split
  · exact (traces_nameByTypedef _ _).bind fun _ => traces_completeTypedef traces _ _
  · exact traces_completeTypedef traces _ _

theorem traces_layRecord (kind : SelectionKind) (record usr : String) (fields : List Nat)
    (logged : String → String) :
    (layRecord declare (policy.selection kind) record usr fields logged).TracesTo policy := by
  refine (traces_buildMembers traces kind _ _ _).bind fun members => ?_
  cases members with
  | ok members => exact traces_amend _ _
  | error problem =>
      refine (traces_debug _ _).bind fun _ => traces_getStore.bind fun store => ?_
      exact traces_makeOpaque _ _ _

theorem traces_buildRecord (number : Nat) : (buildRecord declare number).TracesTo policy := by
  refine (traces_cursor number).bind fun c => ?_
  dsimp only
  generalize (if (c.definition.isNone && c.isDefinition) = true then some number
    else c.definition) = definition
  obtain ⟨kind, selection⟩ := exists_recordSelection policy c.kind
  refine (traces_nameOf c).bind fun nativeName => .reading ?_
  rw [selection]
  refine (traces_renameUnlessEmpty kind nativeName).bind fun name => ?_
  refine (traces_cursor _).bind fun documented => (traces_docOf _).bind fun doc => ?_
  refine (traces_publish _).bind fun _ => ?_
  cases definition with
  | none => exact traces_debug _ _
  | some defined =>
      refine (traces_debug _ _).bind fun _ => .reading ?_
      refine (traces_cursor defined).bind fun record => ?_
      obtain ⟨kind, selection⟩ := exists_recordSelection policy record.kind
      rw [selection]
      exact (traces_childrenOf _ _).bind fun fields => traces_layRecord traces kind _ _ _ _

/-! Interfaces. -/

theorem traces_resolveParameter (frameNumber : Nat) (c : Cursor) :
    (resolveParameter declare frameNumber c).TracesTo policy := by
  refine (traces_resolve traces c.type).bind fun type => traces_getStore.bind fun store => ?_
  split
  · exact (traces_changeFrame _ _).bind fun _ => traces_pure _
  split
  · exact (traces_changeFrame _ _).bind fun _ => traces_pure _
  · exact traces_pure _

theorem traces_methodParameters (frameNumber : Nat) (owner : String) (index : Nat)
    (arguments : List Nat) :
    (methodParameters declare frameNumber owner index arguments).TracesTo policy := by
  induction arguments generalizing index with
  | nil => exact traces_pure _
  | cons number rest induction =>
      refine (traces_cursor number).bind fun c => ?_
      refine (traces_resolveParameter traces frameNumber c).bind fun type => .reading ?_
      exact traces_collectParameter .interfaces (induction (index + 1))

theorem traces_buildMethod (owner : String) (number : Nat) :
    (buildMethod declare owner number).TracesTo policy := by
  refine (traces_cursor number).bind fun c => traces_withFrame fun frameNumber => ?_
  refine (traces_resolve traces c.result).bind fun result => ?_
  refine (traces_methodParameters traces frameNumber owner 0 c.arguments).bind fun params => ?_
  refine (traces_frame frameNumber).bind fun found => traces_getStore.bind fun store => ?_
  split
  · exact (traces_diagnose _ _ _ _).bind fun _ => traces_pure _
  split
  · exact (traces_diagnose _ _ _ _).bind fun _ => traces_pure _
  refine .reading ((traces_renameMember .interfaces _ _).bind fun name => ?_)
  exact (traces_docOf c).bind fun _ => traces_pure _

theorem traces_buildInterfacePart (usr owner : String) (child : Nat) :
    (buildInterfacePart declare usr owner child).TracesTo policy := by
  refine (traces_cursor child).bind fun c => ?_
  split
  · exact (traces _ _).bind fun _ => traces_amend _ _
  · exact traces_pure _
  split
  · refine (traces_buildMethod traces owner child).bind fun method => ?_
    cases method with
    | none => exact traces_pure _
    | some method => exact traces_amend _ _
  · exact traces_pure _

theorem traces_buildInterface (number : Nat) :
    (buildInterface declare number).TracesTo policy := by
  refine (traces_cursor number).bind fun c => .reading ?_
  refine (traces_rename .interfaces c.spelling).bind fun name => ?_
  refine (traces_cursor _).bind fun documented => (traces_docOf _).bind fun doc => ?_
  refine (traces_publish _).bind fun _ => ?_
  split
  · exact traces_debug _ _
  · refine (traces_debug _ _).bind fun _ => (traces_cursor _).bind fun interface => ?_
    exact traces_forM _ fun child => traces_buildInterfacePart traces _ _ child

theorem traces_build (form : Form) (number : Nat) :
    (build declare form number).TracesTo policy := by
  cases form with
  | typedef => exact traces_buildTypedef traces number
  | record => exact traces_buildRecord traces number
  | enumeration => exact traces_buildEnumeration number
  | interface => exact traces_buildInterface traces number

end

theorem traces_declareWithin (fuel : Nat) : Declare.TracesTo (declareWithin fuel) policy := by
  induction fuel with
  | zero => exact fun form number => traces_throw nofun
  | succ fuel induction =>
      intro form number
      refine (traces_cursor number).bind fun c => traces_getStore.bind fun store => ?_
      split
      · exact traces_pure _
      · refine (traces_withFrame fun _ => traces_build induction form number).bind fun _ => ?_
        exact traces_pure _

theorem traces_declare : Declare.TracesTo declare policy := fun form number =>
  traces_read.bind fun forest => traces_declareWithin (forest.size + 2) form number

/-! Functions. -/

theorem traces_functionParameters (frameNumber : Nat) (owner : String) (index : Nat)
    (arguments : List Nat) :
    (functionParameters frameNumber owner index arguments).TracesTo policy := by
  induction arguments generalizing index with
  | nil => exact traces_pure _
  | cons number rest induction =>
      refine (traces_cursor number).bind fun c => (traces_debug _ _).bind fun _ => ?_
      refine (traces_resolveParameter traces_declare frameNumber c).bind fun type => ?_
      refine traces_getStore.bind fun store => ?_
      dsimp only
      split
      · exact (traces_debug _ _).bind fun _ =>
          .reading (traces_collectParameter .functions (induction (index + 1)))
      · exact .reading (traces_collectParameter .functions (induction (index + 1)))

theorem traces_publishFunctions (frameNumber : Nat) (published : List Declaration) :
    (publishFunctions frameNumber published).TracesTo policy := by
  induction published with
  | nil => exact traces_pure _
  | cons d rest induction =>
      have noted : Step.TracesTo
          (do note frameNumber d.usr; publishFunctions frameNumber rest) policy :=
        (traces_changeFrame _ _).bind fun _ => induction
      refine traces_getStore.bind fun store => ?_
      dsimp only
      split
      · exact (traces_publish d).bind fun _ => noted
      · exact noted

theorem matching_exposure (name : String) :
    FailsOnly SelectionError.IsMatch (exposure policy name) :=
  (Selection.matching_exposesAddress _ _).bind fun _ =>
    (Selection.matching_includes _ _ _).bind fun _ =>
      (Selection.matching_includes _ _ _).bind fun _ => .ok _

theorem traces_refuse (source logged name usr : String) (reason : Reason) (message : String) :
    (refuse source logged name usr reason message).TracesTo policy :=
  (traces_debug _ _).bind fun _ => (traces_diagnose _ _ _ _).bind fun _ =>
    (traces_drop _).bind fun _ => traces_pure _

theorem traces_bindFunctions (c : Cursor) (signatures : List CallSignature) (frameNumber : Nat)
    (result : CType) (params : List Parameter) :
    (bindFunctions c signatures frameNumber result params).TracesTo policy :=
  (traces_docOf c).bind fun _ => .reading <| (traces_rename .functions _).bind fun _ =>
    (traces_matching (matching_exposure _)).bind fun _ =>
    (traces_publishFunctions _ _).bind fun _ => (traces_frame _).bind fun _ => traces_pure _

theorem traces_addFunction (c : Cursor) (signatures : List CallSignature) (ignored : Bool)
    (frameNumber : Nat) :
    (addFunction c signatures ignored frameNumber).TracesTo policy := by
  refine (traces_debug _ _).bind fun _ => ?_
  refine (traces_resolve traces_declare c.result).bind fun result => ?_
  refine (traces_functionParameters _ _ _ _).bind fun params => ?_
  refine traces_getStore.bind fun store => (traces_frame frameNumber).bind fun f => ?_
  split
  · exact traces_refuse _ _ _ _ _ _
  · dsimp only
    split
    · exact (traces_diagnose _ _ _ _).bind fun _ => traces_bindFunctions _ _ _ _ _
    · exact traces_bindFunctions _ _ _ _ _

theorem traces_visitFunction (number : Nat) : (visitFunction number).TracesTo policy := by
  refine (traces_cursor number).bind fun c => .reading ?_
  generalize policy.signatures.specialize c.spelling c.type.isVariadic = specialized
  obtain ⟨signatures, ignored⟩ := specialized
  refine traces_withFrame fun frameNumber => traces_getStore.bind fun store => ?_
  refine (traces_matching (Selection.matching_includes _ _ _)).bind fun included => ?_
  split
  · exact traces_pure _
  split
  · exact traces_pure _
  refine (traces_isDropped _).bind fun dropped => ?_
  split
  · exact traces_pure _
  · exact traces_addFunction _ _ _ _

/-! Compounds. -/

theorem traces_visitRecord (number : Nat) : (visitRecord number).TracesTo policy := by
  refine (traces_cursor number).bind fun c => traces_withFrame fun _ => ?_
  refine (traces_published? _ _).bind fun found => ?_
  split
  · exact traces_pure _
  split
  · exact traces_pure _
  refine .reading ((traces_matching (Selection.matching_includes _ _ _)).bind fun included => ?_)
  split
  · exact (traces_buildRecord traces_declare number).bind fun _ => traces_pure _
  · exact traces_pure _

theorem traces_visitConstants (numbers : List Nat) :
    (visitConstants numbers).TracesTo policy := by
  induction numbers with
  | nil => exact traces_pure _
  | cons number rest induction =>
      refine (traces_cursor number).bind fun c => .reading ?_
      refine (traces_published? _ _).bind fun found => ?_
      split
      · exact induction.bind fun _ => traces_pure _
      refine (traces_matching (Selection.matching_includes _ _ _)).bind fun included => ?_
      split
      · exact induction
      refine (traces_rename .unnamedEnums c.spelling).bind fun name => ?_
      refine (traces_docOf c).bind fun doc => (traces_publish _).bind fun _ => ?_
      exact (traces_debug _ _).bind fun _ => induction.bind fun _ => traces_pure _

theorem traces_visitEnumeration (number : Nat) : (visitEnumeration number).TracesTo policy := by
  refine (traces_cursor number).bind fun c => traces_withFrame fun _ => ?_
  split
  · refine traces_get.bind fun s => ?_
    split
    · exact traces_pure _
    · refine (traces_childrenOf _ _).bind fun children => ?_
      exact traces_visitConstants children
  refine (traces_published? _ _).bind fun found => ?_
  split
  · exact traces_pure _
  refine .reading ((traces_matching (Selection.matching_includes _ _ _)).bind fun included => ?_)
  split
  · exact (traces_buildEnumeration number).bind fun _ => traces_pure _
  · exact traces_pure _

theorem traces_visitInterface (number : Nat) : (visitInterface number).TracesTo policy := by
  refine (traces_cursor number).bind fun c => traces_withFrame fun _ => ?_
  refine (traces_published? _ _).bind fun found => ?_
  split
  · exact traces_pure _
  refine .reading ((traces_matching (Selection.matching_includes _ _ _)).bind fun included => ?_)
  split
  · exact (traces_buildInterface traces_declare number).bind fun _ => traces_pure _
  · exact traces_pure _

/-! Typedefs, globals and macro constants. -/

theorem traces_addTypedef (number : Nat) (c : Cursor) : (addTypedef number c).TracesTo policy := by
  refine (traces_buildTypedef traces_declare number).bind fun _ => ?_
  refine traces_getStore.bind fun store => ?_
  split
  · refine (traces_debug _ _).bind fun _ => ?_
    exact (traces_diagnose _ _ _ _).bind fun _ => traces_pure _
  · exact traces_pure _

theorem traces_visitTypedef (number : Nat) : (visitTypedef number).TracesTo policy := by
  refine (traces_cursor number).bind fun c => traces_withFrame fun _ => ?_
  refine (traces_published? _ _).bind fun found => ?_
  split
  · exact traces_pure _
  split
  · exact (traces_debug _ _).bind fun _ => traces_pure _
  refine .reading ((traces_matching (Selection.matching_includes _ _ _)).bind fun included => ?_)
  split
  · exact traces_addTypedef number c
  · exact traces_pure _

theorem traces_addGlobal (c : Cursor) : (addGlobal c).TracesTo policy := by
  refine (traces_debug _ _).bind fun _ => ?_
  refine (traces_resolve traces_declare c.type).bind fun type => ?_
  refine traces_getStore.bind fun store => ?_
  split
  · exact traces_refuse _ _ _ _ _ _
  · refine .reading ((traces_rename .globals c.spelling).bind fun name => ?_)
    refine (traces_docOf c).bind fun doc => ?_
    refine (traces_matching (Selection.matching_exposesAddress _ _)).bind fun exposes => ?_
    exact (traces_publish _).bind fun _ => traces_pure _

theorem traces_visitGlobal (number : Nat) : (visitGlobal number).TracesTo policy := by
  refine (traces_cursor number).bind fun c => traces_withFrame fun _ => ?_
  refine (traces_published? _ _).bind fun found => ?_
  split
  · exact traces_pure _
  split
  · exact traces_pure _
  refine .reading ((traces_matching (Selection.matching_includes _ _ _)).bind fun included => ?_)
  split
  · exact traces_pure _
  refine (traces_isDropped _).bind fun dropped => ?_
  split
  · exact traces_pure _
  · exact traces_addGlobal c

theorem traces_addMacro (c : Cursor) : (addMacro c).TracesTo policy := by
  unfold addMacro
  dsimp only
  split
  · exact traces_throw nofun
  · exact (traces_debug _ _).bind fun _ => traces_pure _
  · refine .reading ((traces_rename .macros c.spelling).bind fun name => ?_)
    refine (traces_docOf c).bind fun doc => (traces_publish _).bind fun _ => ?_
    exact (traces_debug _ _).bind fun _ => traces_pure _

theorem traces_visitMacro (number : Nat) : (visitMacro number).TracesTo policy := by
  refine (traces_cursor number).bind fun c => traces_withFrame fun _ => ?_
  refine (traces_published? _ _).bind fun found => ?_
  split
  · exact traces_pure _
  split
  · exact traces_pure _
  refine .reading ((traces_matching (Selection.matching_includes _ _ _)).bind fun included => ?_)
  split
  · exact traces_pure _
  · exact traces_addMacro c

/-! All together. -/

theorem traces_visit (number : Nat) : (visit number).TracesTo policy := by
  refine (traces_cursor number).bind fun c => ?_
  split
  · exact traces_visitFunction number
  · exact traces_visitRecord number
  · exact traces_visitRecord number
  · exact traces_visitEnumeration number
  · exact traces_visitTypedef number
  · exact traces_visitGlobal number
  · exact traces_visitMacro number
  · exact traces_visitInterface number
  · exact (traces_debug _ _).bind fun _ => traces_pure _

theorem traces_visitAll (top : List Nat) : (visitAll top).TracesTo policy := by
  induction top with
  | nil => exact traces_pure _
  | cons number rest induction => exact (traces_visit number).bind fun _ => induction

theorem traces_nameAnonymous : nameAnonymous.TracesTo policy := traces_modify fun _ => rfl

theorem traces_runAll (top : List Nat) : (runAll top).TracesTo policy := by
  refine traces_read.bind fun forest => .bind (traces_modify fun _ => by rfl) fun _ => ?_
  refine (traces_visitAll top).bind fun _ => traces_get.bind fun s => ?_
  have ended : Step.TracesTo
      (do nameAnonymous
          let bindings := emitted (← getStore)
          debug "parser" ("Parsed " ++ toString bindings.length ++ " declarations, " ++
            toString (← get).diagnostics.length ++ " diagnostics")
          return bindings) policy :=
    traces_nameAnonymous.bind fun _ => traces_getStore.bind fun _ =>
      traces_get.bind fun _ => (traces_debug _ _).bind fun _ => traces_pure _
  dsimp only
  split
  · refine (traces_throw ?_).bind fun _ => ended
    exact nofun
  · exact ended

/-- A run fails for want of a text only at a replacement of its policy that is none. -/
theorem misfit_of_runAll {forest : Forest} {top : List Nat} {policy : Policy} {replacement : Json}
    (failed : ((runAll top).run forest { policy }).1 =
      .error (.selection (.notText replacement))) : policy.Misfit replacement := by
  have ensured := traces_runAll top forest { policy } rfl
  unfold Step.Ensures at ensured
  split at ensured
  · rename_i ran
    rw [ran] at failed
    cases failed
  · rename_i error after ran
    rw [ran] at failed
    exact ensured.2 replacement (Except.error.inj failed)

end LuaBinder.Session
