import LuaBinder.Proofs.Header.Reference
import LuaBinder.Proofs.Session.Interface
import LuaBinder.Proofs.Session.Sources

namespace LuaBinder

open Header

/-! What a build may do to a session, told by what each of its parts may do. A relation
that every part keeps is kept by the whole, wherever the whole ends. -/

/-- The line tells that a record has been published. -/
def LogRecord.tellsRecord (line : LogRecord) : Bool :=
  line.source == "ffi_gen.struct" && "++++".toList.isPrefixOf line.message.toList

theorem LogRecord.tellsRecord_of_source {level : LogLevel} {source message : String}
    (other : source ≠ "ffi_gen.struct") :
    (⟨level, source, message⟩ : LogRecord).tellsRecord = false := by
  simp [tellsRecord, other]

/-- C has tags for declarations of such a kind. -/
def DeclarationKind.isTagged : DeclarationKind → Bool
  | struct | union | enumeration => true
  | _ => false

/-- What the log tells of a record when it is published. -/
def Header.Forest.recordLine (forest : Forest) (number : Nat) : LogRecord :=
  let c := forest.cursor number
  let word := (Session.recordKind c.kind).declarationKind.name
  ⟨.debug, "ffi_gen.struct",
    match forest.recordDefinition number with
    | none => "++++ Adding opaque " ++ word ++ ": " ++ c.describe
    | some _ => "++++ Adding " ++ word ++ ": " ++ c.describe⟩

@[simp] theorem Header.Forest.tellsRecord_recordLine (forest : Forest) (number : Nat) :
    (forest.recordLine number).tellsRecord = true := by
  unfold Forest.recordLine LogRecord.tellsRecord
  cases forest.recordDefinition number <;> simp [List.isPrefixOf]

theorem Store.body?_push_self {store : Store} {d : Declaration} (fresh : d.usr ∉ store.keys) :
    (store.push d).body? d.usr = some d.body := by
  simp [body?_push fresh]

namespace Session

open Store

/-- Records and enumerations are built from declarations of their forms. -/
def Suits (forest : Forest) (form : Form) (number : Nat) : Prop :=
  form = .record ∨ form = .enumeration → formOf? (forest.cursor number).kind = some form

theorem kind_of_suits {forest : Forest} {number : Nat} (suits : Suits forest .enumeration number) :
    (forest.cursor number).kind = .enumeration := by
  have formed := suits (.inr rfl)
  revert formed
  cases (forest.cursor number).kind <;> simp [formOf?]

/-- What a session calls a declaration: an anonymous one has the name that a typedef has given. -/
def nameFor (s : Session) (c : Cursor) : String :=
  if c.anonymous then ((s.typedefNamed.find? (·.1 == c.usr)).map (·.2)).getD "" else c.spelling

/-- A record or an enumeration is called what the session calls the declaration that it is
published for. -/
def Titles (forest : Forest) (s : Session) (d : Declaration) : Prop :=
  d.kind.isTagged = true → ∃ number, (forest.cursor number).usr = d.usr ∧
    (forest.cursor number).kind.published? = some d.kind ∧
    d.nativeName = s.nameFor (forest.cursor number)

/-- The manner of builds. -/
structure Conduct (forest : Forest) extends Manner where
  throws (error : Error) (s : Session) : bad error s s
  selects := fun error => throws (.selection error)
  /-- What is logged, noted of a frame, or kept for the names of typedefs. -/
  logs (s : Session) {line : LogRecord} : line.tellsRecord = false →
    good s { s with log := s.log ++ [line] }
  marks (s : Session) (number : Nat) {change : Frame → Frame} :
    (∀ f, (change f).number = f.number ∧ (change f).declarations = f.declarations) →
    good s { s with context := s.context.modify number change }
  names (s : Session) {number tag : Nat} :
    anonymousTag? forest (forest.cursor number).underlying = some tag →
    s.typedefNamed.any (·.1 == (forest.cursor tag).usr) = false →
    good s { s with typedefNamed :=
      s.typedefNamed ++ [((forest.cursor tag).usr, (forest.cursor number).spelling)] }
  /-- A frame is left, or its end is met too early. -/
  leaves {s after : Session} {name : String} {popped : Frame} {context : Context} :
    good (s.entered name) after → after.context.pop s.frames name = .ok (popped, context) →
    good s { after with context }
  misses {raised : Error} {s after : Session} {name : String} :
    good (s.entered name) after → bad raised s after
  unwinds {error raised : Error} {s after : Session} {name : String} (context : Context) :
    bad error (s.entered name) after → bad raised s { after with context }
  /-- A method is refused. -/
  refuses (s : Session) {number : Nat} {d : Diagnostic} :
    (forest.cursor number).kind.isMethod = true → d.usr = (forest.cursor number).usr →
    d.reason = .incompleteByValue ∨ d.reason = .unimplementedType →
    good s { s with diagnostics := s.diagnostics ++ [d] }
  /-- Declarations that are neither records nor functions. -/
  publishes (s : Session) {d : Declaration} : d.usr ∉ s.store.keys → d.isRecord = false →
    isFunction d = false → Titles forest s d → good s { s with store := s.store.push d }
  elaborates (s : Session) (usr : String) {change : Body → Body} :
    (∀ body : Body, body.Elaborates (change body)) →
    good s { s with store := s.store.amendBody usr change }
  typedefs {s middle : Session} {usr : String} (type : CType) :
    good s middle → s.store.body? usr = some (.typedef none) →
    good middle
      { middle with store := middle.store.amendBody usr fun _ => .typedef (some type) }
  /-- A record is published, and gets its members or loses its layout. -/
  opens (s : Session) (number : Nat) (d : Declaration) {kind : RecordKind} :
    d.usr = (forest.cursor number).usr → d.usr ∉ s.store.keys →
    d.body = .record kind (forest.recordDefinition number).isNone [] → Titles forest s d →
    good s { s with store := s.store.push d, log := s.log ++ [forest.recordLine number] }
  lays {s opened middle : Session} {usr : String} {kind : RecordKind} (members : List Member) :
    usr ∉ s.store.keys → good s opened → opened.store.body? usr = some (.record kind false []) →
    good opened middle →
    good s { middle with store := middle.store.amendBody usr (setMembers members) }
  clears {s opened middle : Session} {usr : String} {kind : RecordKind} (fuel : Nat)
    (problem : String) :
    usr ∉ s.store.keys → good s opened → opened.store.body? usr = some (.record kind false []) →
    good opened middle →
    (makeOpaque fuel usr problem).Ensures forest middle (fun _ after => good s after)
      fun error after => bad error s after

instance {forest : Forest} : CoeOut (Conduct forest) Manner := ⟨Conduct.toManner⟩

variable {forest : Forest} {conduct : Conduct forest} {s middle : Session}

open Step (keeps_pure keeps_modify keeps_forM)

theorem Step.keeps_throw (error : Error) : (throw error : Step α).Keeps forest conduct :=
  conduct.throws error

open Step (keeps_throw)

theorem keeps_debug {source : String} (message : String)
    (other : "ffi_gen." ++ source ≠ "ffi_gen.struct") :
    (debug source message).Keeps forest conduct :=
  keeps_modify fun s => conduct.logs s (LogRecord.tellsRecord_of_source other)

/-- A diagnostic is told in the log, too. -/
theorem ensures_diagnose_of_allowed {name usr message : String} {reason : Reason}
    (allowed : conduct.good s
      { s with diagnostics := s.diagnostics ++ [⟨name, usr, reason, message⟩] }) :
    (diagnose name usr reason message).Ensures forest s
      (fun _ after => conduct.good s after) fun error after => conduct.bad error s after :=
  conduct.trans allowed (conduct.logs _ (LogRecord.tellsRecord_of_source (by decide)))

theorem titles_of_untagged {d : Declaration} (untagged : d.kind.isTagged = false) :
    Titles forest s d := fun tagged => absurd (untagged ▸ tagged) Bool.false_ne_true

theorem run_nameOf (c : Cursor) (s : Session) :
    (nameOf c).run forest s = (.ok (s.nameFor c), s) := by
  unfold nameOf nameFor
  split <;> rfl

theorem renameUnlessEmpty_reads {manner : Manner} (selection : Selection) (name : String) :
    (renameUnlessEmpty selection name).Ensures forest s (fun _ after => after = s)
      fun error after => manner.bad error s after := by
  unfold renameUnlessEmpty
  split
  · exact rfl
  · cases selection.rename name with
    | ok answer => exact rfl
    | error error => exact manner.selects error s

theorem keeps_publish {d : Declaration} (other : d.isRecord = false)
    (unbound : isFunction d = false) (titles : ∀ s, Titles forest s d) :
    (publish d).Keeps forest conduct := by
  intro s
  refine ensures_publish (fun fresh => ?_) fun _ => conduct.throws _ s
  exact conduct.publishes s fresh other unbound (titles s)

theorem keeps_amend {change : Body → Body} (usr : String)
    (elaborates : ∀ body : Body, body.Elaborates (change body)) :
    (amend usr change).Keeps forest conduct := by
  intro s
  rw [ensures_amend, modify_eq_amendBody]
  exact conduct.elaborates s usr elaborates

theorem keeps_nameByTypedef {number tag : Nat}
    (tagged : anonymousTag? forest (forest.cursor number).underlying = some tag) :
    (nameByTypedef (forest.cursor tag).usr (forest.cursor number).spelling).Keeps
      forest conduct := by
  refine keeps_modify fun s => ?_
  split
  · exact conduct.refl s
  · rename_i unnamed
    exact conduct.names s tagged (Bool.eq_false_iff.mpr unnamed)

theorem keeps_changeFrame (number : Nat) {change : Frame → Frame}
    (keeps : ∀ f, (change f).number = f.number ∧ (change f).declarations = f.declarations) :
    (changeFrame number change).Keeps forest conduct :=
  keeps_modify fun s => conduct.marks s number keeps

/-- The frame of the step is popped whatever happens, or its end is an error itself. -/
theorem keeps_withFrame {name : String} {body : Nat → Step α}
    (inside : ∀ number, (body number).Keeps forest conduct) :
    (withFrame name body).Keeps forest conduct := by
  intro s
  simp only [withFrame, Step.ensures_bind, ensures_pushFrame, Step.ensures_tryCatch,
    Step.ensures_map, Step.ensures_pure]
  refine (inside s.frames (s.entered name)).imp (fun value after begun => ?_)
    fun error after failed => ?_
  all_goals
    simp only [popFrame, Step.ensures_bind, ensures_get]
    split
  · rename_i popped context found
    exact conduct.leaves begun found
  · exact conduct.misses begun
  · rename_i popped context found
    exact conduct.unwinds context failed
  · exact conduct.unwinds after.context failed

/-! Types. -/

theorem keeps_unsupported (spelling reason : String) :
    (unsupported spelling reason).Keeps forest conduct :=
  (keeps_debug _ (by simp)).bind fun _ => keeps_pure _

theorem keeps_finishFunction (facts : TypeFacts TypeKind) (params : List (String × CType))
    (result : CType) : (finishFunction facts params result).Keeps forest conduct := by
  refine .look (·.store) (fun _ => rfl) fun s => ?_
  split
  · exact keeps_pure _
  · exact keeps_unsupported _ _

/-- Declaring keeps the conduct, whatever is declared. -/
def Declare.Keeps (declare : Declare) (conduct : Conduct forest) : Prop :=
  ∀ form number, Suits forest form number → (declare form number).Keeps forest conduct

theorem keeps_cursor {number : Nat} {next : Cursor → Step α}
    (rest : (next (forest.cursor number)).Keeps forest conduct) :
    (cursor number >>= next).Keeps forest conduct :=
  .look (fun _ => forest.cursor number) (fun _ => rfl) fun _ => rest

theorem keeps_childrenOf {number : Nat} {kind : CursorKind} {next : List Nat → Step α}
    (rest : ∀ children, (next children).Keeps forest conduct) :
    (childrenOf number kind >>= next).Keeps forest conduct :=
  .look (fun _ => (forest.cursor number).children.filter fun child =>
    (forest.cursor child).kind == kind) (fun _ => rfl) fun _ => rest _

section

variable {declare : Declare} (keeps : declare.Keeps conduct)
include keeps

theorem keeps_resolveCompound (facts : TypeFacts TypeKind) :
    (resolveCompound declare facts).Keeps forest conduct := by
  unfold resolveCompound
  split
  · exact keeps_unsupported _ _
  · refine keeps_cursor ?_
    dsimp only
    split
    · rename_i formed
      exact (keeps _ _ fun _ => formed).bind fun _ => keeps_pure _
    · exact keeps_unsupported _ _

theorem keeps_resolveTypedef (number : Nat) :
    (resolveTypedef declare number).Keeps forest conduct := by
  refine keeps_cursor ?_
  split
  · exact keeps_pure _
  · exact (keeps _ _ (by simp [Suits])).bind fun _ => keeps_pure _

theorem keeps_resolveObject (native : NativeType) :
    (resolveObject declare native).Keeps forest conduct := by
  cases native with
  | absent => exact keeps_pure _
  | known facts =>
      simp only [resolveObject]
      split
      · exact (keeps_resolveCompound keeps facts).bind fun _ => keeps_pure _
      · exact keeps_pure _

omit keeps in
mutual

theorem keeps_resolve (keeps : declare.Keeps conduct) : (native : NativeType) →
    (resolve declare native).Keeps forest conduct
  | .absent => keeps_unsupported _ _
  | .known facts pointee element named result canonical arguments => by
      rw [resolve]
      split
      · exact keeps_pure _
      · exact keeps_unsupported _ _
      split
      case h_1 => exact (keeps_resolve keeps pointee).bind fun _ => keeps_pure _
      case h_2 => exact keeps_resolveObject keeps pointee
      case h_3 | h_4 => exact (keeps_resolve keeps element).bind fun _ => keeps_pure _
      case h_5 => exact keeps_resolve keeps named
      case h_6 => -- typedefs
        split
        · exact keeps_resolveTypedef keeps _
        split
        · exact keeps_throw _
        · exact keeps_resolve keeps canonical
      case h_7 | h_8 | h_9 => exact keeps_resolveCompound keeps facts
      case h_10 => exact (keeps_resolve keeps result).bind fun _ => keeps_pure _
      case h_11 => -- function prototypes
        split
        · exact keeps_unsupported _ _
        refine (keeps_resolveAll keeps arguments 0).bind fun params => ?_
        exact (keeps_resolve keeps result).bind fun _ => keeps_finishFunction facts params _
      case h_12 => -- unexposed types
        split
        · exact keeps_unsupported _ _
        · exact keeps_resolve keeps canonical
      case h_13 => exact keeps_unsupported _ _

theorem keeps_resolveAll (keeps : declare.Keeps conduct) :
    (natives : TypeTrees TypeKind) → (index : Nat) →
    (resolveAll declare index natives).Keeps forest conduct
  | .nil, _ => keeps_pure _
  | .cons first rest, index => by
      rw [resolveAll]
      refine (keeps_resolve keeps first).bind fun type => ?_
      exact (keeps_resolveAll keeps rest (index + 1)).bind fun _ => keeps_pure _

end

/-! Records. -/

omit keeps in
theorem keeps_buildMember (selection : Selection) (record : String) (index : Nat)
    (c : Cursor) (type : CType) :
    (buildMember selection record index c type).Keeps forest conduct := by
  unfold buildMember
  split
  · refine (keeps_selected _).bind fun _ => ?_
    exact (keeps_docOf c).bind fun _ => keeps_pure _
  · exact (keeps_docOf c).bind fun _ => keeps_pure _

theorem keeps_buildMembers (selection : Selection) (record : String) (index : Nat)
    (fields : List Nat) :
    (buildMembers declare selection record index fields).Keeps forest conduct := by
  induction fields generalizing index with
  | nil => exact keeps_pure _
  | cons number rest induction =>
      refine keeps_cursor ?_
      split
      · exact keeps_pure _
      refine (keeps_resolve keeps _).bind fun type => ?_
      refine .look (·.store) (fun _ => rfl) fun s => ?_
      split
      · exact keeps_pure _
      refine (keeps_buildMember _ _ _ _ _).bind fun member => ?_
      refine (induction (index + 1)).bind fun members => ?_
      split <;> exact keeps_pure _

omit keeps in
theorem titles_record {number : Nat} (record : formOf? (forest.cursor number).kind = some .record)
    (name doc : String) (incomplete : Bool) :
    Titles forest s { usr := (forest.cursor number).usr, name, doc,
                      nativeName := s.nameFor (forest.cursor number),
                      body := .record (recordKind (forest.cursor number).kind) incomplete [] } := by
  refine fun _ => ⟨number, rfl, ?_, rfl⟩
  exact (Sources.isCompound_of_formOf? record).1

theorem keeps_buildRecord (number : Nat)
    (record : formOf? (forest.cursor number).kind = some .record) :
    (buildRecord declare number).Keeps forest conduct := by
  intro s
  refine .look rfl (.look (run_nameOf _ s) (.look rfl ?_))
  refine .bind (renameUnlessEmpty_reads _ _) fun name _ same => .look rfl (.look rfl ?_)
  obtain rfl := same.symm
  rw [Step.ensures_bind]
  refine ensures_publish (fun fresh => ?_) fun _ => conduct.throws _ s
  -- what the conduct says of the open record has to hold when its members are known
  have opens := conduct.opens s number _ rfl fresh rfl (titles_record record name
    (if s.policy.comments then
      (forest.cursor ((forest.recordDefinition number).getD number)).doc else "") _)
  simp only [Header.Forest.recordLine, Header.Forest.recordDefinition] at opens
  dsimp only
  split
  · rename_i unknown
    simpa only [ensures_debug, unknown, String.reduceAppend] using opens
  · rename_i defined known
    rw [Step.ensures_bind, ensures_debug]
    have own := body?_push_self fresh
    simp only [known, String.reduceAppend] at opens own ⊢
    refine .look rfl (.look rfl (.look rfl ?_))
    refine Step.Ensures.bind ((keeps_buildMembers keeps _ _ _ _ _).imp (fun _ _ begun => begun)
      fun _ _ failed => conduct.fails opens failed) fun members middle begun => ?_
    cases members with
    | ok members =>
        rw [ensures_amend, modify_eq_amendBody]
        exact conduct.lays members fresh opens own begun
    | error problem =>
        rw [Step.ensures_bind, ensures_debug]
        refine .look rfl (conduct.clears _ problem fresh opens own ?_)
        refine conduct.trans begun (conduct.logs middle ?_)
        simp [LogRecord.tellsRecord, List.isPrefixOf]

/-! Typedefs and enumerations. -/

/-- A typedef stands for nothing until its type is known. -/
theorem keeps_completeTypedef {usr : String} (native : NativeType)
    (begun : conduct.good s middle) (own : s.store.body? usr = some (.typedef none)) :
    (completeTypedef declare usr native).Ensures forest middle
      (fun _ after => conduct.good s after) fun error after => conduct.bad error s after := by
  refine .bind (.onward begun (keeps_resolve keeps native middle)) fun type after further => ?_
  rw [ensures_amend, modify_eq_amendBody (fun _ => Body.typedef (some type))]
  exact conduct.trans further (conduct.typedefs type further own)

theorem keeps_buildTypedef (number : Nat) : (buildTypedef declare number).Keeps forest conduct := by
  refine keeps_cursor (.look (·.policy) (fun _ => rfl) fun s => ?_)
  refine (keeps_selected _).bind fun name => (keeps_docOf _).bind fun doc => ?_
  intro s
  rw [Step.ensures_bind]
  refine ensures_publish (fun fresh => ?_) fun _ => conduct.throws _ s
  have own := body?_push_self fresh
  refine Step.Ensures.onward (conduct.publishes s fresh rfl rfl (titles_of_untagged rfl)) ?_
  refine Step.Ensures.bind (keeps_debug _ (by simp) _) fun _ told begun => .look rfl ?_
  dsimp only
  split
  · rename_i tag tagged
    refine .bind (.onward begun (keeps_nameByTypedef tagged told)) fun _ named further => ?_
    exact keeps_completeTypedef keeps _ further own
  · exact keeps_completeTypedef keeps _ begun own

omit keeps in
theorem keeps_buildConstant (selection : Selection) (usr enumeration : String) (number : Nat) :
    (buildConstant selection usr enumeration number).Keeps forest conduct := by
  refine keeps_cursor ((keeps_selected _).bind fun name => ?_)
  exact (keeps_docOf _).bind fun doc => keeps_amend usr (elaborates_addConstant _)

omit keeps in
theorem keeps_buildEnumeration (number : Nat)
    (enumeration : (forest.cursor number).kind = .enumeration) :
    (buildEnumeration number).Keeps forest conduct := by
  intro s
  refine .look rfl (.look rfl (.look rfl (.look (run_nameOf _ s) ?_)))
  refine .bind (renameUnlessEmpty_reads _ _) fun name _ same => .look rfl ?_
  obtain rfl := same.symm
  refine Step.Ensures.bind (show Step.Ensures _ forest s (fun _ after => conduct.good s after) _ from
    ensures_publish (fun fresh => ?_) fun _ => conduct.throws _ s) fun _ middle begun => ?_
  · refine conduct.publishes s fresh rfl rfl fun _ => ⟨number, rfl, ?_, rfl⟩
    rw [enumeration]
    rfl
  · refine Step.Ensures.onward begun (((keeps_debug _ (by simp)).bind fun _ =>
      keeps_childrenOf fun children => ?_) middle)
    exact keeps_forM _ fun child _ => keeps_buildConstant _ _ _ _

/-! Interfaces. -/

theorem keeps_resolveParameter (frameNumber : Nat) (c : Cursor) :
    (resolveParameter declare frameNumber c).Keeps forest conduct := by
  refine (keeps_resolve keeps c.type).bind fun type => ?_
  refine .look (·.store) (fun _ => rfl) fun s => ?_
  split
  · refine Step.Keeps.bind (keeps_changeFrame _ ?_) fun _ => keeps_pure _
    exact fun _ => ⟨rfl, rfl⟩
  split
  · refine Step.Keeps.bind (keeps_changeFrame _ ?_) fun _ => keeps_pure _
    exact fun _ => ⟨rfl, rfl⟩
  · exact keeps_pure _

omit keeps in
theorem keeps_collectParameter {selection : Selection} {owner spelling : String} {index : Nat}
    {type : CType} {collect : Step (List Parameter)} (collects : collect.Keeps forest conduct) :
    (collectParameter selection owner spelling index type collect).Keeps forest conduct :=
  (keeps_parameterName _ _ _ _).bind fun _ => collects.bind fun _ => keeps_pure _

theorem keeps_methodParameters (frameNumber : Nat) (owner : String) (index : Nat)
    (arguments : List Nat) :
    (methodParameters declare frameNumber owner index arguments).Keeps forest conduct := by
  induction arguments generalizing index with
  | nil => exact keeps_pure _
  | cons number rest induction =>
      refine keeps_cursor ((keeps_resolveParameter keeps frameNumber _).bind fun type => ?_)
      exact .look (·.policy) (fun _ => rfl) fun s => keeps_collectParameter (induction (index + 1))

theorem keeps_buildMethod (owner : String) (number : Nat)
    (isMethod : (forest.cursor number).kind.isMethod = true) :
    (buildMethod declare owner number).Keeps forest conduct := by
  refine keeps_cursor (keeps_withFrame fun frameNumber => ?_)
  refine (keeps_resolve keeps _).bind fun result => ?_
  refine (keeps_methodParameters keeps _ _ _ _).bind fun params => ?_
  refine .look (fun s => (s.context.find? (·.number == frameNumber)).getD
    { number := frameNumber, name := "" }) (fun _ => rfl) fun s => ?_
  refine .look (·.store) (fun _ => rfl) fun s => ?_
  have refuses {title message : String} {reason : Reason}
      (refusal : reason = .incompleteByValue ∨ reason = .unimplementedType) :
      (do diagnose title (forest.cursor number).usr reason message
          return (none : Option Method)).Keeps forest conduct := by
    refine Step.Keeps.bind (fun s => ?_) fun _ => keeps_pure _
    exact ensures_diagnose_of_allowed (conduct.refuses s isMethod rfl refusal)
  split
  · exact refuses (.inl rfl)
  split
  · exact refuses (.inr rfl)
  refine .look (·.policy) (fun _ => rfl) fun s => ?_
  refine (keeps_selected _).bind fun name => ?_
  exact (keeps_docOf _).bind fun doc => keeps_pure _

theorem keeps_buildInterfacePart (usr owner : String) (child : Nat) :
    (buildInterfacePart declare usr owner child).Keeps forest conduct := by
  refine keeps_cursor ?_
  split
  · refine (keeps _ _ (by simp [Suits])).bind fun parent => ?_
    exact keeps_amend usr (elaborates_setSuperclass parent)
  · exact keeps_pure _
  split
  · rename_i isMethod
    refine (keeps_buildMethod keeps owner child isMethod).bind fun method => ?_
    split
    · exact keeps_amend usr (elaborates_addMethod _)
    · exact keeps_pure _
  · exact keeps_pure _

theorem keeps_buildInterface (number : Nat) :
    (buildInterface declare number).Keeps forest conduct := by
  refine keeps_cursor (.look (·.policy) (fun _ => rfl) fun s => ?_)
  refine (keeps_selected _).bind fun name => keeps_cursor ?_
  refine (keeps_docOf _).bind fun doc => ?_
  refine (keeps_publish rfl rfl fun _ => titles_of_untagged rfl).bind fun _ => ?_
  split
  · exact keeps_debug _ (by simp)
  · refine (keeps_debug _ (by simp)).bind fun _ => keeps_cursor ?_
    exact keeps_forM _ fun child _ => keeps_buildInterfacePart keeps _ _ child

theorem keeps_build {form : Form} {number : Nat} (suits : Suits forest form number) :
    (build declare form number).Keeps forest conduct := by
  cases form with
  | typedef => exact keeps_buildTypedef keeps number
  | record => exact keeps_buildRecord keeps number (suits (.inl rfl))
  | enumeration => exact keeps_buildEnumeration number (kind_of_suits suits)
  | interface => exact keeps_buildInterface keeps number

end

/-! Records that lose their layout. -/

/-- Clearing records keeps to a manner that allows it, and to tell of it. -/
theorem keeps_makeOpaque (manner : Manner) (deep : ∀ s, manner.bad .tooDeep s s)
    (clears : ∀ (s : Session) usr,
      manner.good s { s with store := s.store.amendBody usr clearRecord })
    (tells : ∀ (s : Session) (d : Diagnostic), d.reason = .unsupportedMember →
      manner.good s { s with diagnostics := s.diagnostics ++ [d] })
    (logs : ∀ (s : Session) line, manner.good s { s with log := s.log ++ [line] })
    (fuel : Nat) (usr problem : String) : (makeOpaque fuel usr problem).Keeps forest manner := by
  induction fuel generalizing usr problem with
  | zero => exact fun s => deep s
  | succ fuel induction =>
      have cleared : (amend usr clearRecord).Keeps forest manner := by
        intro s
        rw [ensures_amend, modify_eq_amendBody]
        exact clears s usr
      refine cleared.bind fun _ => ?_
      refine .look (fun s => s.store.lookup? usr) (fun _ => rfl) fun s => ?_
      refine Step.Keeps.bind (fun s => manner.trans (tells s _ rfl) (logs _ _)) fun _ => ?_
      refine .look (·.store) (fun _ => rfl) fun s => ?_
      refine keeps_forM _ fun holder _ => ?_
      refine .look (fun s => s.store.lookup? holder) (fun _ => rfl) fun s => ?_
      split
      · exact keeps_pure _
      refine .look (·.store) (fun _ => rfl) fun s => ?_
      split
      · exact keeps_pure _
      · exact Step.Keeps.bind (fun s => logs s _) fun _ => induction _ _

/-! All together. -/

theorem keeps_declareWithin (fuel : Nat) : Declare.Keeps (declareWithin fuel) conduct := by
  induction fuel with
  | zero => exact fun _ _ _ => keeps_throw _
  | succ fuel induction =>
      intro form number suits
      refine keeps_cursor (.look (·.store) (fun _ => rfl) fun s => ?_)
      split
      · exact keeps_pure _
      · exact (keeps_withFrame fun _ => keeps_build induction suits).bind
          fun _ => keeps_pure _

theorem keeps_declare : Declare.Keeps declare conduct := fun form number suits =>
  .look (fun _ => forest) (fun _ => rfl) fun _ => keeps_declareWithin _ form number suits

theorem keeps_functionParameters (frameNumber : Nat) (owner : String) (index : Nat)
    (arguments : List Nat) :
    (functionParameters frameNumber owner index arguments).Keeps forest conduct := by
  induction arguments generalizing index with
  | nil => exact keeps_pure _
  | cons argument rest induction =>
      refine keeps_cursor ((keeps_debug _ (by simp)).bind fun _ => ?_)
      refine (keeps_resolveParameter keeps_declare frameNumber _).bind fun type => ?_
      refine .look (·.store) (fun _ => rfl) fun s => ?_
      dsimp only
      split
      · exact (keeps_debug _ (by simp)).bind fun _ =>
          .look (·.policy) (fun _ => rfl) fun s => keeps_collectParameter (induction (index + 1))
      · exact .look (·.policy) (fun _ => rfl) fun s =>
          keeps_collectParameter (induction (index + 1))

end Session

end LuaBinder
