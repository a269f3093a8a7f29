import LuaBinder.Proofs.Session.Answer
import LuaBinder.Proofs.Session.Resolution

namespace LuaBinder

open Header Session
open Answer (Given AllGiven)

/-! Types are resolved as the store answers at the end, and records are laid out as it
answers then. -/

namespace Store

variable {store grown : Store}

/-! What a store answers is not changed by what is published later. -/

namespace Grows

theorem isUsableSignature (grows : store.Grows grown) (closed : store.Closed)
    {params : List (String × CType)} {result : CType} (each : ∀ p ∈ params, store.Knows p.2)
    (known : store.Knows result) :
    isUsableSignature grown params result = isUsableSignature store params result := by
  unfold Session.isUsableSignature
  rw [grows.isUnsupported closed known, Bool.eq_iff_iff, Bool.and_eq_true, Bool.and_eq_true,
    List.all_eq_true, List.all_eq_true]
  refine and_congr_left fun _ => forall₂_congr fun p listed => ?_
  rw [grows.isUnsupported closed (each p listed), grows.isIncomplete closed (each p listed)]

theorem ofFunction (grows : store.Grows grown) (closed : store.Closed)
    {facts : TypeFacts (TypeKind × Option Target)} {params : List (String × Answer)}
    {result : Answer} (each : ∀ p ∈ params, store.Knows p.2.type)
    (known : store.Knows result.type) :
    Answer.ofFunction grown facts params result = Answer.ofFunction store facts params result := by
  unfold Answer.ofFunction
  dsimp only
  rw [grows.isUsableSignature closed (List.forall_mem_map.mpr each) known]

mutual

theorem ofType (grows : store.Grows grown) (closed : store.Closed) : (type : ReportedType) →
    (Answer.ofType store type).asked ⊆ store.keys →
    Answer.ofType grown type = Answer.ofType store type
  | .absent, _ => rfl
  | .known facts pointee element named result canonical arguments, asked => by
      rw [Answer.ofType] at asked ⊢
      rw [Answer.ofType]
      split
      · rfl
      · rfl
      rename_i unknown accepted
      simp only [unknown, accepted] at asked
      split <;> rename_i kind <;> simp only [kind] at asked
      · rw [grows.ofType closed pointee asked]
      · rfl
      · rw [grows.ofType closed element asked]
      · rw [grows.ofType closed element asked]
      · exact grows.ofType closed named asked
      · split
        · rfl
        · rename_i undeclared
          simp only [undeclared] at asked
          exact grows.ofType closed canonical asked
      · rfl
      · rfl
      · rfl
      · rw [grows.ofType closed result asked]
      · split
        · rfl
        · rename_i fixed
          simp only [fixed] at asked
          obtain ⟨askedParams, askedResult⟩ := List.append_subset.mp asked
          rw [grows.ofTypes closed 0 arguments askedParams, grows.ofType closed result askedResult]
          refine grows.ofFunction closed (fun p listed key mentioned => ?_) fun key mentioned => ?_
          · exact askedParams (List.mem_flatMap.mpr
              ⟨p, listed, Answer.mentions_ofTypes 0 arguments p listed mentioned⟩)
          · exact askedResult (Answer.mentions_ofType result mentioned)
      · split
        · rfl
        · rename_i exposed
          simp only [exposed] at asked
          exact grows.ofType closed canonical asked
      · rfl

theorem ofTypes (grows : store.Grows grown) (closed : store.Closed) : (index : Nat) →
    (types : TypeTrees (TypeKind × Option Target)) →
    (Answer.ofTypes store index types).flatMap (·.2.asked) ⊆ store.keys →
    Answer.ofTypes grown index types = Answer.ofTypes store index types
  | _, .nil, _ => rfl
  | index, .cons first rest, asked => by
      rw [Answer.ofTypes, List.flatMap_cons, List.append_subset] at asked
      rw [Answer.ofTypes, Answer.ofTypes, grows.ofType closed first asked.1,
        grows.ofTypes closed (index + 1) rest asked.2]

end

theorem given (grows : store.Grows grown) (closed : store.Closed) {type : CType}
    {native : ReportedType} (given : Given (Answer.ofType store native) type store) :
    Given (Answer.ofType grown native) type grown := by
  rw [Given, grows.ofType closed native given.2]
  exact ⟨given.1, List.Subset.trans given.2 (prefix_keys grows.entries).subset⟩

theorem allGiven (grows : store.Grows grown) (closed : store.Closed) {index : Nat}
    {natives : TypeTrees (TypeKind × Option Target)} {params : List (String × CType)}
    (all : AllGiven (Answer.ofTypes store index natives) params store) :
    AllGiven (Answer.ofTypes grown index natives) params grown := by
  rw [grows.ofTypes closed index natives all.asked]
  exact all.keys (prefix_keys grows.entries).subset

end Grows

end Store

namespace Session

open Store

variable {forest : Forest} {reach : Nat → Prop} {s : Session} {declare : Declare}

/-- The step gives what the store that it leaves answers. -/
def Answers (forest : Forest) (s : Session) (step : Step CType) (answer : Store → Answer) :
    Prop :=
  Runs forest s step (fun type grown => Given (answer grown) type grown) fun _ => True

theorem answers_unsupported {spelling reason : String} :
    Answers forest s (unsupported spelling reason) fun _ => .unsupported spelling reason :=
  Runs.bind (.of_quiet (quiet_debug _ _) trivial)
    fun _ _ _ _ => .pure ⟨rfl, List.nil_subset _⟩

theorem Answers.map {step : Step CType} {answer : Store → Answer} (change : CType → CType)
    (answers : Answers forest s step answer) :
    Answers forest s (do return change (← step)) fun view => (answer view).map change :=
  Runs.bind answers fun _ _ _ given => .pure ⟨congrArg change given.1, given.2⟩

theorem Answers.of_eq {step : Step CType} {answer other : Store → Answer}
    (answers : Answers forest s step other) (same : ∀ view, answer view = other view) :
    Answers forest s step answer := funext same ▸ answers

section

variable (declares : Declares forest declare) (sound : s.Sound)
include declares sound

theorem resolve_grows (native : NativeType) :
    Runs forest s (resolve declare native) (fun _ grown => s.store.Grows grown)
      fun _ => True := by
  have resolves : Resolves forest (fun _ => True) _ s (resolve declare native) :=
    resolves_type declares (fun _ _ _ _ => trivial) native s sound fun _ _ => trivial
  exact (Runs.imp resolves fun _ _ gives => gives.built.grows sound.closed).imp_bad
    fun _ _ => trivial

theorem resolveAll_grows (index : Nat) (natives : TypeTrees TypeKind) :
    Runs forest s (resolveAll declare index natives) (fun _ grown => s.store.Grows grown)
      fun _ => True := by
  have resolves : Runs forest s (resolveAll declare index natives) _
      (s.store.Extends forest fun _ => True) :=
    resolves_all declares (fun _ _ _ _ => trivial) natives index s sound fun _ _ => trivial
  exact (resolves.imp fun _ _ given => given.1.grows sound.closed).imp_bad fun _ _ => trivial

theorem answers_declare {form : Form} {number : Nat} {wrap : String → CType} {answer : Answer}
    (fits : form.Fits (forest.cursor number).kind)
    (type : answer.type = wrap (forest.cursor number).usr)
    (asked : answer.asked = [(forest.cursor number).usr]) :
    Answers forest s (do return wrap (← declare form number)) fun _ => answer := by
  refine Runs.bind ((declares form number s sound fits).imp_bad fun _ _ => trivial) ?_
  intro usr middle _ declared
  obtain rfl := declared.same
  refine .pure ⟨type.symm, fun key found => ?_⟩
  rw [asked] at found
  exact List.mem_singleton.mp found ▸ declared.published

theorem resolveCompound_answers (facts : TypeFacts TypeKind) :
    Answers forest s (resolveCompound declare facts) fun _ =>
      .ofCompound (forest.reportFacts facts) := by
  unfold resolveCompound Answer.ofCompound Forest.reportFacts
  cases declared : facts.declaration with
  | none => exact answers_unsupported
  | some number =>
      refine Runs.look rfl ?_
      dsimp only [Option.map_some, Forest.target]
      cases formed : formOf? (forest.cursor number).kind with
      | none => exact answers_unsupported
      | some form => exact answers_declare declares sound (fun same => same ▸ formed) rfl rfl

theorem resolveTypedef_answers (number : Nat) :
    Answers forest s (resolveTypedef declare number) fun _ =>
      .ofTypedef (forest.target number) := by
  refine Runs.look rfl ?_
  unfold Answer.ofTypedef Forest.target
  dsimp only
  cases Primitive.wellKnown? (forest.cursor number).spelling with
  | some primitive => exact .pure ⟨rfl, List.nil_subset _⟩
  | none => exact answers_declare declares sound (by simp [Form.Fits]) rfl rfl

theorem resolveObject_answers (native : NativeType) :
    Answers forest s (resolveObject declare native) fun _ =>
      .ofObject (forest.reportType native) := by
  cases native with
  | absent => exact .pure ⟨rfl, List.nil_subset _⟩
  | known facts =>
      rw [Forest.reportType_known]
      have same : (forest.reportFacts facts).kind.1 = facts.kind := rfl
      simp only [resolveObject, Answer.ofObject, same]
      split
      · exact (resolveCompound_answers declares sound facts).map fun type => .pointer type false
      · exact .pure ⟨rfl, List.nil_subset _⟩

end

theorem finishFunction_answers {facts : TypeFacts TypeKind} {answers : List (String × Answer)}
    {outcome : Answer} {params : List (String × CType)} {result : CType}
    (all : AllGiven answers params s.store) (given : Given outcome result s.store) :
    Runs forest s (finishFunction facts params result)
      (fun type grown => grown = s.store ∧
        Given (.ofFunction s.store (forest.reportFacts facts) answers outcome) type s.store)
      fun _ => True := by
  obtain ⟨rfl, askedParams⟩ := all
  obtain ⟨rfl, askedResult⟩ := given
  have published := List.append_subset.mpr ⟨askedParams, askedResult⟩
  refine Runs.look rfl ?_
  unfold Answer.ofFunction
  dsimp only
  split
  · exact .pure ⟨rfl, rfl, published⟩
  · exact Runs.bind (.of_quiet (quiet_debug _ _) trivial)
      fun _ _ _ same => .pure ⟨same, rfl, published⟩

mutual

/-- A type is resolved as the store answers once all that it asks for is published. -/
theorem resolve_answers (declares : Declares forest declare) : (native : NativeType) →
    (s : Session) → s.Sound → (answer : Store → Answer) →
    (∀ view, answer view = .ofType view (forest.reportType native)) →
    Answers forest s (resolve declare native) answer
  | .absent, _, _, answer, own => by
      obtain rfl : answer = _ := funext own
      exact answers_unsupported
  | .known facts pointee element named result canonical arguments, s, sound, answer, own => by
      simp only [Forest.reportType_known, Answer.ofType, Forest.reportFacts,
        Forest.isConst_reportType, Forest.kind_reportType, Forest.isNone_facts?_reportType]
        at own
      -- the answer is kept apart, so that only the resolution is split
      rw [resolve]
      split
      · rename_i primitive known
        simp only [known] at own
        exact .of_eq (.pure ⟨rfl, List.nil_subset _⟩) own
      · rename_i reason unknown refused
        simp only [unknown, refused] at own
        exact answers_unsupported.of_eq own
      rename_i unknown accepted
      simp only [unknown, accepted] at own
      split
      case h_1 kind => -- pointers
        simp only [kind] at own
        have inner := resolve_answers declares pointee s sound _ fun _ => rfl
        exact (inner.map fun type => .pointer type pointee.isConst).of_eq own
      case h_2 kind => -- pointers to objects
        simp only [kind] at own
        exact (resolveObject_answers declares sound pointee).of_eq own
      case h_3 kind =>
        simp only [kind] at own
        have inner := resolve_answers declares element s sound _ fun _ => rfl
        exact (inner.map fun type => .array type (some facts.count)).of_eq own
      case h_4 kind =>
        simp only [kind] at own
        have inner := resolve_answers declares element s sound _ fun _ => rfl
        exact (inner.map fun type => .array type none).of_eq own
      case h_5 kind => -- elaborated types
        simp only [kind] at own
        exact resolve_answers declares named s sound _ own
      case h_6 kind => -- typedefs
        simp only [kind] at own
        split
        · rename_i number declared
          simp only [declared, Option.map_some] at own
          exact (resolveTypedef_answers declares sound number).of_eq own
        · rename_i undeclared
          simp only [undeclared, Option.map_none] at own
          split
          · exact ⟨Kept.refl s, trivial⟩
          · exact resolve_answers declares canonical s sound _ own
      case h_7 kind | h_8 kind | h_9 kind =>
        simp only [kind] at own
        have compound := resolveCompound_answers declares sound facts
        rw [Forest.reportFacts, kind] at compound
        exact compound.of_eq own
      case h_10 kind => -- functions without a prototype
        simp only [kind] at own
        have inner := resolve_answers declares result s sound _ fun _ => rfl
        exact (inner.map fun type => .function type .nil false).of_eq own
      case h_11 kind => -- function prototypes
        simp only [kind] at own
        split
        · rename_i variadic
          simp only [variadic, if_true] at own
          exact answers_unsupported.of_eq own
        rename_i fixed
        simp only [fixed] at own
        have first := resolveAll_answers declares arguments 0 s sound
        refine Runs.bind (Runs.and first (resolveAll_grows declares sound 0 arguments)) ?_
        intro params middle kept given
        obtain ⟨all, grows⟩ := given
        have sound := sound.of_kept kept grows.closed
        have second := resolve_answers declares result middle sound _ fun _ => rfl
        refine Runs.bind (Runs.and second (resolve_grows declares sound result)) ?_
        intro type after _ given
        obtain ⟨given, grows⟩ := given
        refine (finishFunction_answers (grows.allGiven sound.closed all) given).imp ?_
        rintro _ _ ⟨rfl, given⟩
        exact own _ ▸ given
      case h_12 kind => -- unexposed types
        simp only [kind] at own
        split
        · rename_i unexposed
          simp only [unexposed, if_true] at own
          exact answers_unsupported.of_eq own
        · rename_i exposed
          simp only [exposed] at own
          exact resolve_answers declares canonical s sound _ own
      case h_13 => -- all others
        refine answers_unsupported.of_eq fun view => (own view).trans ?_
        split
        case h_13 => rfl
        all_goals contradiction

theorem resolveAll_answers (declares : Declares forest declare) :
    (natives : TypeTrees TypeKind) → (index : Nat) → (s : Session) → s.Sound →
    Runs forest s (resolveAll declare index natives)
      (fun params grown =>
        AllGiven (Answer.ofTypes grown index (forest.reportTypes natives)) params grown)
      fun _ => True
  | .nil, _, _, _ => .pure ⟨rfl, List.nil_subset _⟩
  | .cons first rest, index, s, sound => by
      rw [resolveAll]
      have here := resolve_answers declares first s sound _ fun _ => rfl
      refine Runs.bind (Runs.and here (resolve_grows declares sound first)) ?_
      intro type middle kept given
      obtain ⟨given, grows⟩ := given
      have sound := sound.of_kept kept grows.closed
      have later := resolveAll_answers declares rest (index + 1) middle sound
      refine Runs.bind (Runs.and later (resolveAll_grows declares sound _ rest)) ?_
      intro params after _ more
      obtain ⟨all, grows⟩ := more
      obtain ⟨rfl, asked⟩ := grows.given sound.closed given
      exact .pure ⟨congrArg _ all.types, List.append_subset.mpr ⟨asked, all.asked⟩⟩

end

/-! Members. -/

theorem buildMember_runs {bad : Store → Prop} {selection : Selection} {record : String}
    {index field : Nat} {type : CType} (failed : bad s.store) :
    Runs forest s (buildMember selection record index (forest.cursor field) type)
      (fun m grown => grown = s.store ∧ m.type = type ∧ m.nativeName = forest.memberName field)
      bad := by
  unfold buildMember Forest.memberName
  split
  · rename_i named
    refine Runs.bind (.of_quiet (quiet_selected _) failed) fun _ _ _ same => ?_
    exact Runs.look rfl (.pure ⟨same, rfl, (if_pos named).symm⟩)
  · rename_i nameless
    exact Runs.look rfl (.pure ⟨rfl, rfl, (if_neg nameless).symm⟩)

/-- The fields are laid out as members, or one of them has no layout. -/
def LaysOut (forest : Forest) (fields : List Nat) (view : Store) :
    Except String (List Member) → Prop
  | .ok members =>
      (Layout.ofFields view (fields.map forest.reportField)).types =
          some (members.map (·.type)) ∧
        members.map (·.nativeName) = fields.map forest.memberName
  | .error _ => (Layout.ofFields view (fields.map forest.reportField)).types = none

theorem LaysOut.lays {number defined : Nat} {view : Store} {members : List Member}
    (laid : LaysOut forest (forest.fieldNumbers defined) view (.ok members))
    (formed : formOf? (forest.cursor number).kind = some .record)
    (found : forest.recordDefinition number = some defined) :
    forest.Lays number view members where
  formed := formed
  types := by rw [Forest.layout_report view found, laid.1]
  names := by
    intro other same
    obtain rfl := Option.some.inj (found.symm.trans same)
    exact laid.2

theorem LaysOut.hides {number defined : Nat} {view : Store} {problem : String}
    (laid : LaysOut forest (forest.fieldNumbers defined) view (.error problem))
    (formed : formOf? (forest.cursor number).kind = some .record)
    (found : forest.recordDefinition number = some defined) : forest.Hides number view where
  formed := formed
  unlaid := by rw [Forest.layout_report view found, laid]

section

variable {view : Store} {field : Nat} {rest : List Nat} {type : CType}

theorem ofFields_cons (plain : (forest.cursor field).bitfield = false) :
    Layout.ofFields view ((field :: rest).map forest.reportField) =
      .before view (.ofType view (forest.reportType (forest.cursor field).type))
        (.ofFields view (rest.map forest.reportField)) := by
  rw [List.map_cons, Forest.reportField, plain, Layout.ofFields]

theorem laysOut_of_problem {problem name : String}
    (plain : (forest.cursor field).bitfield = false)
    (given : Given (Answer.ofType view (forest.reportType (forest.cursor field).type)) type view)
    (found : memberProblem? view name type = some problem) :
    LaysOut forest (field :: rest) view (.error problem) := by
  have lost : (memberProblem? view "" type).isSome = true := by
    rw [← isSome_memberProblem? name "" rfl rfl, found]
    rfl
  rw [LaysOut, ofFields_cons plain, Layout.before, ← given.1, if_pos lost]

theorem LaysOut.cons {result : Except String (List Member)} {m : Member} {name : String}
    (plain : (forest.cursor field).bitfield = false)
    (given : Given (Answer.ofType view (forest.reportType (forest.cursor field).type)) type view)
    (fine : memberProblem? view name type = none) (sameType : m.type = type)
    (sameName : m.nativeName = forest.memberName field)
    (others : LaysOut forest rest view result) :
    LaysOut forest (field :: rest) view (result.map (m :: ·)) := by
  have kept : ¬ (memberProblem? view "" type).isSome = true := by
    rw [← isSome_memberProblem? name "" rfl rfl, fine]
    simp
  cases result with
  | error problem =>
      rw [LaysOut] at others
      rw [Except.map, LaysOut, ofFields_cons plain, Layout.before, ← given.1, if_neg kept, others]
      rfl
  | ok members =>
      obtain ⟨types, names⟩ := others
      rw [Except.map, LaysOut, ofFields_cons plain, Layout.before, ← given.1, if_neg kept, types]
      exact ⟨by simp [sameType], by simp [sameName, names]⟩

end

/-- The members are laid out as the store answers in the end. What stops them does so even
when more is published. -/
theorem buildMembers_lays (declares : Declares forest declare) (selection : Selection)
    (record : String) (fields : List Nat) (index : Nat) (s : Session) (sound : s.Sound) :
    Runs forest s (buildMembers declare selection record index fields)
      (fun result grown => s.store.Grows grown ∧ LaysOut forest fields grown result)
      fun _ => True := by
  induction fields generalizing index s with
  | nil => exact .pure ⟨.refl sound.closed, rfl, rfl⟩
  | cons field rest induction =>
      refine Runs.look rfl ?_
      split
      · rename_i bitfield
        refine .pure ⟨.refl sound.closed, ?_⟩
        rw [LaysOut, List.map_cons, Forest.reportField, bitfield, Layout.ofFields]
      rename_i plain
      rw [Bool.not_eq_true] at plain
      have answers := resolve_answers declares (forest.cursor field).type s sound _ fun _ => rfl
      refine Runs.bind (Runs.and answers (resolve_grows declares sound _)) ?_
      intro type resolved kept given
      obtain ⟨given, grows⟩ := given
      have sound := sound.of_kept kept grows.closed
      refine Runs.look rfl ?_
      split
      · rename_i problem found
        exact .pure ⟨grows, laysOut_of_problem plain given found⟩
      rename_i fine
      refine Runs.bind (buildMember_runs trivial) fun m named kept same => ?_
      obtain ⟨same, sameType, sameName⟩ := same
      have others := induction (index + 1) named (sound.of_kept kept (same ▸ sound.closed))
      rw [same] at others
      refine Runs.bind others fun result after _ later => ?_
      obtain ⟨more, others⟩ := later
      have known : resolved.store.Knows type := fun key mentioned =>
        given.2 (Answer.mentions_ofType _ (given.1 ▸ mentioned))
      have fine : memberProblem? after.store (forest.cursor field).spelling type = none := by
        unfold memberProblem? at fine ⊢
        rwa [more.isUnsupported sound.closed known, more.isIncomplete sound.closed known]
      have laid := LaysOut.cons plain (more.given sound.closed given) fine sameType sameName others
      cases result with
      | ok members => exact .pure ⟨grows.trans more, laid⟩
      | error problem => exact .pure ⟨grows.trans more, laid⟩

end Session

end LuaBinder
