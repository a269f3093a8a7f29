import LuaBinder.Generation
import LuaBinder.Proofs.LuaModule.Faults
import LuaBinder.Proofs.Policy.Acceptance
import LuaBinder.Proofs.Session.Tracing

namespace LuaBinder.Generation

/-! Values of a policy that do not fit where they are used: what a library cannot be generated for
stems from one of them, or from something else than the type of a value. -/

/-- A value is not of the type that it is used as. -/
def Fault.IsMisfit : Fault → Prop
  | .session (.selection (.notText _)) => True
  | .text fault => fault.IsLibrary
  | _ => False

instance : DecidablePred Fault.IsMisfit
  | .session (.selection (.notText _)) => isTrue trivial
  | .text fault => inferInstanceAs (Decidable fault.IsLibrary)
  | .session (.selection (.template _)) | .session (.selection (.match _))
  | .session (.duplicate _) | .session (.context _) | .session (.literal _)
  | .session .tooDeep | .header _ | .file _ => isFalse id

/-- A replacement or the library of the policy does not fit. -/
inductive Fault.StemsFrom (policy : Policy) : Fault → Prop
  | replacement {replacement : Json} (misfit : policy.Misfit replacement) :
      StemsFrom policy (.session (.selection (.notText replacement)))
  | library {fault : LuaModule.Fault} (own : fault.IsLibrary)
      (other : ¬ policy.native.library.IsLoadable) : StemsFrom policy (.text fault)

/-- Whatever does not fit stems from the policy. -/
def Fault.Fair (policy : Policy) (fault : Fault) : Prop := fault.IsMisfit → fault.StemsFrom policy

variable {policy : Policy}

theorem not_stemsFrom_of_typed (typed : policy.IsTyped) (fault : Fault) :
    ¬ fault.StemsFrom policy := by
  rintro (misfit | ⟨own, other⟩)
  · exact typed.no_misfit _ misfit
  · exact other (Json.isLoadable_of_text typed.library)

/-! The steps of the work. -/

def Work.FailsOnly (sort : Fault → Prop) (work : Work α) : Prop :=
  ∀ space, LuaBinder.FailsOnly sort (work.run space).1

variable {sort : Fault → Prop}

theorem Work.FailsOnly.bind {work : Work α} {next : α → Work β} (first : work.FailsOnly sort)
    (second : ∀ value, (next value).FailsOnly sort) : (work >>= next).FailsOnly sort := by
  intro space
  have begun := first space
  change LuaBinder.FailsOnly sort (ExceptT.bindCont next (work.run space).1
    (work.run space).2).1
  revert begun
  rcases work.run space with ⟨_ | value, after⟩
  · exact fun begun => .error (begun _ rfl)
  · exact fun _ => second value after

theorem pure_fails (value : α) : (pure value : Work α).FailsOnly sort := fun _ => .ok value

theorem throw_fails {fault : Fault} (own : sort fault) : (throw fault : Work α).FailsOnly sort :=
  fun _ => .error own

theorem get_fails : (get : Work Workspace).FailsOnly sort := fun _ => .ok _

theorem modify_fails (change : Workspace → Workspace) :
    (modify change : Work Unit).FailsOnly sort := fun _ => .ok _

theorem forM_fails {step : α → Work Unit} (items : List α)
    (each : ∀ item, (step item).FailsOnly sort) : (items.forM step).FailsOnly sort := by
  induction items with
  | nil => exact pure_fails ()
  | cons item rest induction => exact (each item).bind fun _ => induction

theorem lift_fails {wrap : ε → Fault} {value : Except ε α}
    (fails : LuaBinder.FailsOnly (fun error => sort (wrap error)) value) :
    (lift wrap value).FailsOnly sort := by
  cases value with
  | ok value => exact pure_fails value
  | error error => exact throw_fails (fails error rfl)

theorem say_fails (line : String) : (say line).FailsOnly sort := modify_fails _

/-! Generating a library. -/

variable {policy : Policy}

theorem fair_file (error : FileError) : (Fault.file error).Fair policy := False.elim

theorem ensureOutput_fails (path : String) : (ensureOutput path).FailsOnly (Fault.Fair policy) := by
  refine get_fails.bind fun space => ?_
  refine (modify_fails _).bind fun _ => ?_
  split
  · exact throw_fails (fair_file _)
  · exact pure_fails ()

theorem writeText_fails (path text : String) :
    (writeText path text).FailsOnly (Fault.Fair policy) := by
  refine get_fails.bind fun space => ?_
  exact (lift_fails fun error _ => fair_file error).bind fun _ => modify_fails _

theorem writeModule_fails (path : String) {text : Except LuaModule.Fault String}
    (fair : LuaBinder.FailsOnly (fun fault => (Fault.text fault).Fair policy) text) :
    (writeModule path text).FailsOnly (Fault.Fair policy) :=
  (writeText_fails path "").bind fun _ => (lift_fails fair).bind fun _ => writeText_fails path _

theorem bind_fails (frontEnd : FrontEnd) (policy : Policy) :
    LuaBinder.FailsOnly (Fault.Fair policy) (Generation.bind frontEnd policy) := by
  refine (FailsOnly.mapError fun _ _ => False.elim).bind fun found => ?_
  refine FailsOnly.bind (.mapError fun error failed misfit => ?_) fun usrs => .ok _
  cases error with
  | selection found =>
      cases found with
      | notText replacement => exact .replacement (Session.misfit_of_runAll failed)
      | _ => exact misfit.elim
  | _ => exact misfit.elim

theorem moduleText_fails (store : Store) (bindings : List LuaModule.Binding) :
    LuaBinder.FailsOnly (fun fault => (Fault.text fault).Fair policy)
      (LuaModule.moduleText store policy.native bindings) := by
  intro fault failed own
  refine .library own fun loadable => ?_
  exact LuaModule.besideLibrary_moduleText loadable fault failed own

theorem stubText_fails (store : Store) (bindings : List LuaModule.Binding) :
    LuaBinder.FailsOnly (fun fault => (Fault.text fault).Fair policy)
      (LuaModule.stubText store policy bindings) :=
  fun fault failed own =>
    absurd own (LuaModule.besideLibrary_stubText store policy bindings fault failed)

/-- What does not fit in the course of generating a library stems from the policy. -/
theorem generate_fails (frontEnd : FrontEnd) (policy : Policy) :
    (generate frontEnd policy).FailsOnly (Fault.Fair policy) := by
  refine (say_fails _).bind fun _ => (forM_fails _ fun header => say_fails _).bind fun _ => ?_
  refine (lift_fails (bind_fails frontEnd policy)).bind fun bound => ?_
  refine (ensureOutput_fails _).bind fun _ => ?_
  refine (writeModule_fails _ (moduleText_fails _ _)).bind fun _ => ?_
  refine (writeModule_fails _ (stubText_fails _ _)).bind fun _ => ?_
  exact (forM_fails _ fun line => say_fails line).bind fun _ => pure_fails _

end LuaBinder.Generation

namespace LuaBinder.Policy

open Generation LuaModule

/-! What reading a policy checks, and what becomes of what it does not check: the library and the
replacements may be any values, and they fail where they are used. -/

/-- What becomes of a policy that has been read. -/
structure Outlook (policy : Policy) (value : Json) : Prop where
  typed_iff : policy.IsTyped ↔ value.HasTexts
  /-- A declaration or a member is not renamed for want of a text if the rule for it has none. -/
  rename_iff : ∀ kind name replacement,
    (policy.selection kind).rename name = .error (.notText replacement) ↔
      ∃ rule : RenameRule, rule.IsFirst name (policy.selection kind).renames ∧
        rule.replacement = replacement ∧ ¬ replacement.IsText
  renameMember_iff : ∀ kind owner member replacement,
    (policy.selection kind).renameMember owner member = .error (.notText replacement) ↔
      ∃ rule : RenameRule,
        rule.IsFirstFor owner member (policy.selection kind).memberRenames ∧
          rule.replacement = replacement ∧ ¬ replacement.IsText
  /-- A module fails at a library that cannot be loaded, once its declarations are written. -/
  library_iff : ∀ store bindings,
    (∃ fault, fault.IsLibrary ∧ moduleText store policy.native bindings = .error fault) ↔
      (∃ declarations, cdef store bindings = .ok declarations) ∧
        ¬ policy.native.library.IsLoadable
  stems : ∀ frontEnd space fault, ((generate frontEnd policy).run space).1 = .error fault →
    fault.IsMisfit → fault.StemsFrom policy
  fits : policy.IsTyped → ∀ frontEnd space fault,
    ((generate frontEnd policy).run space).1 = .error fault → ¬ fault.IsMisfit

theorem isTyped_iff {policy : Policy} {value : Json} (same : policy.Matches value)
    (library : policy.native.library = value.library) : policy.IsTyped ↔ value.HasTexts := by
  constructor
  · intro typed
    exact ⟨library ▸ typed.library, fun kind => same kind ▸ typed.replacements kind⟩
  · intro texts
    exact ⟨library ▸ texts.library, fun kind => (same kind).symm ▸ texts.replacements kind⟩

/-- A policy is read exactly if its value has the form that is asked for, and otherwise there is a
fault or a pattern that cannot be handled. The form asks nothing of the library and of replacements:
the policy is typed only if these are texts. Then nothing that is generated later fails for a value
that does not fit; otherwise that is what renaming and writing the module fail with. -/
theorem all_but_texts_checked (value : Json) :
    ((∃ policy, ofJson value = .ok policy) ↔ value.IsPolicy) ∧
      (∀ error, ofJson value = .error error →
        error.Blames fun source => ∃ kind, source ∈ (value.selection kind).patterns) ∧
      ∀ policy, ofJson value = .ok policy → policy.Outlook value := by
  have judges := judges_ofJson value
  refine ⟨judges.exists_iff, fun error => judges.blames_of_error, fun policy read => ?_⟩
  obtain ⟨same, library⟩ := judges.right_of_ok read
  exact
    { typed_iff := isTyped_iff same library
      rename_iff := fun _ _ _ => Selection.rename_eq_notText_iff
      renameMember_iff := fun _ _ _ _ => Selection.renameMember_eq_notText_iff
      library_iff := fun _ _ => moduleText_fails_at_library_iff
      stems := fun frontEnd space fault => generate_fails frontEnd policy space fault
      fits := fun typed frontEnd space fault failed misfit =>
        not_stemsFrom_of_typed typed fault
          (generate_fails frontEnd policy space fault failed misfit) }

/-- Numbers where texts belong. -/
def numbered : Json :=
  .object [("native", .object [("library", .int 42)]),
    ("structs", .object [("rename", .object [("S", .int 1)]),
      ("member-rename", .object [("s", .object [("x", .int 7)])])])]

/-- A text that refers to a group which is not there. -/
def misnumbered : Json :=
  .object [("native", .object [("library", .string "z")]),
    ("structs", .object [("rename", .object [("S", .string "\\2")])])]

/-- A pattern that cannot be handled. -/
def overlong : Json :=
  .object [("structs", .object [("include", .array [.string "a\x7b4294967296\x7d"])])]

/-- What a value is read as. -/
def readAs (value : Json) : Policy := (ofJson value).toOption.getD {}

theorem ofJson_readAs (value : Json) (accepted : (ofJson value).isOk = true) :
    ofJson value = .ok (readAs value) := by
  unfold readAs
  cases read : ofJson value with
  | ok policy => rfl
  | error error =>
      rw [read] at accepted
      cases accepted

/-- `struct S;` -/
def oneStruct : FrontEnd := fun _ =>
  .ok (⟨#[{ kind := .struct, spelling := "S", usr := "c:S" }]⟩, [0])

/-- The number that is no text, if that is what is wrong. -/
def blamed? : Except SelectionError α → Option Int
  | .error (.notText (.int number)) => some number
  | _ => none

theorem eq_notText_of_blamed? {result : Except SelectionError α} {number : Int}
    (blamed : blamed? result = some number) : result = .error (.notText (.int number)) := by
  unfold blamed? at blamed
  split at blamed
  · rw [Option.some.inj blamed]
  · cases blamed

def unhandled? : Except Error α → Option Pattern.PatternError
  | .error (.pattern problem) => some problem
  | _ => none

theorem eq_pattern_of_unhandled? {result : Except Error α} {problem : Pattern.PatternError}
    (unhandled : unhandled? result = some problem) : result = .error (.pattern problem) := by
  unfold unhandled? at unhandled
  split at unhandled
  · rw [Option.some.inj unhandled]
  · cases unhandled

/-- Whether a failure is one of a value that does not fit. -/
def misfits? : Except Generation.Fault α → Option Bool
  | .error fault => some (decide fault.IsMisfit)
  | .ok _ => none

theorem exists_of_misfits? (result : Except Generation.Fault α) (asked : Bool)
    (misfits : misfits? result = some asked) :
    ∃ fault, result = .error fault ∧ (fault.IsMisfit ↔ asked = true) := by
  unfold misfits? at misfits
  split at misfits
  · rename_i fault
    exact ⟨fault, rfl, by rw [← Option.some.inj misfits, decide_eq_true_iff]⟩
  · cases misfits

/-- Numbers are accepted where texts belong, and each of them fails where it is used. Texts may fail
as well, yet not for their type. And not all that is refused has a fault of its own. -/
theorem numbered_accepted :
    (ofJson numbered = .ok (readAs numbered) ∧ ¬ (readAs numbered).IsTyped ∧
      (readAs numbered).structs.rename "S" = .error (.notText (.int 1)) ∧
      (readAs numbered).structs.renameMember "s" "x" = .error (.notText (.int 7)) ∧
      (∃ fault, fault.IsLibrary ∧ moduleText {} (readAs numbered).native [] = .error fault) ∧
      ∃ fault, ((generate oneStruct (readAs numbered)).run {}).1 = .error fault ∧
        fault.StemsFrom (readAs numbered)) ∧
    (ofJson misnumbered = .ok (readAs misnumbered) ∧ (readAs misnumbered).IsTyped ∧
      ∃ fault, ((generate oneStruct (readAs misnumbered)).run {}).1 = .error fault ∧
        ¬ fault.IsMisfit) ∧
    ¬ overlong.IsPolicy ∧ ofJson overlong = .error (.pattern .repeatTooLarge) ∧
      Error.Blames (.pattern .repeatTooLarge) fun source =>
        ∃ kind, source ∈ (overlong.selection kind).patterns := by
  have read := ofJson_readAs numbered (by decide +kernel)
  have again := ofJson_readAs misnumbered (by decide +kernel)
  obtain ⟨-, -, outlook⟩ := all_but_texts_checked numbered
  have seen := outlook _ read
  have fitting := (all_but_texts_checked misnumbered).2.2 _ again
  have typed : (readAs misnumbered).IsTyped := by
    rw [fitting.typed_iff]
    refine ⟨.inr ⟨"z", rfl⟩, fun kind replacement listed => ?_⟩
    cases kind <;> cases listed
    · exact ⟨_, rfl⟩
    · contradiction
  have failed : ofJson overlong = .error (.pattern .repeatTooLarge) :=
    eq_pattern_of_unhandled? (by decide +kernel)
  obtain ⟨accepted, blames, -⟩ := all_but_texts_checked overlong
  refine ⟨⟨read, ?_, ?_, ?_, ?_, ?_⟩, ⟨again, typed, ?_⟩, fun form => ?_, failed,
    blames _ failed⟩
  · rw [seen.typed_iff]
    rintro ⟨same | ⟨text, same⟩, -⟩ <;> cases same
  · exact eq_notText_of_blamed? (by decide +kernel)
  · exact eq_notText_of_blamed? (by decide +kernel)
  · refine (seen.library_iff {} []).mpr ⟨⟨_, rfl⟩, fun loadable => ?_⟩
    have library : (readAs numbered).native.library = .int 42 :=
      ((judges_ofJson numbered).right_of_ok read).2
    rw [library] at loadable
    cases loadable
    contradiction
  · obtain ⟨fault, failed, misfit⟩ := exists_of_misfits?
      ((generate oneStruct (readAs numbered)).run {}).1 true
      (by decide +kernel)
    exact ⟨fault, failed, seen.stems _ _ _ failed (misfit.mpr rfl)⟩
  · obtain ⟨fault, failed, -⟩ := exists_of_misfits?
      ((generate oneStruct (readAs misnumbered)).run {}).1 false
      (by decide +kernel)
    exact ⟨fault, failed, fitting.fits typed _ _ _ failed⟩
  · obtain ⟨policy, accepted⟩ := accepted.mpr form
    cases accepted.symm.trans failed

end LuaBinder.Policy
