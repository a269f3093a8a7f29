import LuaBinder.Proofs.Session.Fares.Resolving

namespace LuaBinder

open Header Session

namespace Sources

variable {sources : Sources} {s : Session} {bound number : Nat} {declare : Declare}
  {key : String} {type : CType}

/-! Bodies. -/

theorem yields_of_cursor {native : NativeType}
    (own : native ∈ (sources.forest.cursor number).types)
    (resolution : Resolution sources.forest native type) : sources.Yields type :=
  ⟨native, parts_of_cursor own, resolution⟩

theorem Describes.blank {body : Body} (presented : sources.Presents key body.kind)
    (silent : body.types = []) (parentless : body.superclass? = none)
    (valueless : body.values = []) : sources.Describes key body where
  presented := presented
  yielded := by simp [silent]
  parent := by simp [parentless]
  extra := fun f same => by simp [same, Body.values] at valueless
  underlying := fun type found => by
    have member := Body.mem_types_of_underlying? found
    simp [silent] at member
  object := fun type const exposed same => by simp [same, Body.types] at silent

theorem Describes.setMembers {body : Body} {members : List Member}
    (describes : sources.Describes key body)
    (yielded : ∀ m ∈ members, sources.Yields m.type) :
    sources.Describes key (setMembers members body) := by
  cases body with
  | record =>
      exact
        { presented := describes.presented
          yielded := by simpa [Session.setMembers, Body.types] using yielded
          parent := by simp [Session.setMembers, Body.superclass?]
          extra := by simp [Session.setMembers]
          underlying := by simp [Session.setMembers, Body.underlying?]
          object := by simp [Session.setMembers] }
  | _ => exact describes

theorem Describes.addConstant {body : Body} (constant : EnumConstant)
    (describes : sources.Describes key body) :
    sources.Describes key (addConstant constant body) := by
  cases body with
  | enumeration => exact .blank describes.presented rfl rfl rfl
  | _ => exact describes

theorem Describes.setSuperclass {body : Body} {superclass : String}
    (describes : sources.Describes key body)
    (presented : sources.Presents superclass .interface) :
    sources.Describes key (setSuperclass superclass body) := by
  cases body with
  | interface =>
      exact
        { presented := describes.presented
          yielded := describes.yielded
          parent := by simpa [Session.setSuperclass, Body.superclass?] using presented
          extra := by simp [Session.setSuperclass]
          underlying := by simp [Session.setSuperclass, Body.underlying?]
          object := by simp [Session.setSuperclass] }
  | _ => exact describes

theorem Describes.addMethod {body : Body} {method : Method}
    (describes : sources.Describes key body)
    (yielded : ∀ type ∈ method.result :: method.params.map (·.type), sources.Yields type) :
    sources.Describes key (addMethod method body) := by
  cases body with
  | interface incomplete superclass methods =>
      refine
        { presented := describes.presented
          yielded := fun type member => ?_
          parent := describes.parent
          extra := by simp [Session.addMethod]
          underlying := by simp [Session.addMethod, Body.underlying?]
          object := by simp [Session.addMethod] }
      simp only [Session.addMethod, Body.types, List.flatMap_append, List.flatMap_singleton,
        List.mem_append] at member
      exact member.elim (describes.yielded type) (yielded type)
  | _ => exact describes

theorem Describes.typedef (usr : (sources.forest.cursor number).usr = key)
    (presented : sources.Presents key .typedef)
    (resolution : Resolution sources.forest (sources.forest.cursor number).underlying type) :
    sources.Describes key (.typedef (some type)) where
  presented := presented
  yielded := by
    simpa [Body.types] using yields_of_cursor (Cursor.underlying_mem_types _) resolution
  parent := by simp [Body.superclass?]
  extra := by simp
  underlying := by simpa [Body.underlying?] using ⟨number, usr, resolution⟩
  object := by simp

/-! Typedefs. -/

section

variable (serves : sources.Serves bound declare)
include serves

theorem completeTypedef_fares (ready : sources.Ready bound s)
    (requested : sources.Requests .typedef number) :
    sources.Fares s (completeTypedef declare (sources.forest.cursor number).usr
      (sources.forest.cursor number).underlying) fun _ => True := by
  refine (resolve_fares serves _ (parts_of_cursor (Cursor.underlying_mem_types _)) s
    ready).bind fun type _ _ _ resolution => .amend fun _ _ => ?_
  exact .typedef rfl requested resolution

theorem buildTypedef_fares (ready : sources.Ready (bound + 1) s)
    (fresh : sources.OneKind → (sources.forest.cursor number).usr ∉ s.store.keys)
    (requested : sources.Requests .typedef number) :
    sources.Fares s (buildTypedef declare number) fun _ => True := by
  refine .look rfl (.look rfl ?_)
  refine .bind_quiet (quiet_selected _) fun name named kept same => ?_
  refine .look rfl ?_
  refine .bind_publish (same ▸ fresh) (.blank requested rfl rfl rfl) ?_
  intro begun keeps absent published
  rw [same] at absent published
  have ready := ready.published (kept.trans keeps) rfl absent published
  refine .bind_quiet (quiet_debug _ _) fun _ logged kept same => ?_
  have ready := ready.after kept (same ▸ .refl _)
  refine .look rfl ?_
  split
  · refine .bind_quiet (quiet_nameByTypedef _ _) fun _ current kept same => ?_
    exact completeTypedef_fares serves (ready.after kept (same ▸ .refl _)) requested
  · exact completeTypedef_fares serves ready requested

end

/-! Records. -/

theorem buildMember_fares {selection : Selection} {record : String} {index : Nat}
    {c : Cursor} :
    sources.Fares s (buildMember selection record index c type) fun m => m.type = type := by
  unfold buildMember
  split
  · exact .bind_quiet (quiet_selected _) fun _ _ _ _ => .look rfl (.pure rfl)
  · exact .look rfl (.pure rfl)

theorem buildMembers_fares (serves : sources.Serves bound declare) (selection : Selection)
    (record : String) (fields : List Nat) (index : Nat) (s : Session)
    (ready : sources.Ready bound s) :
    sources.Fares s (buildMembers declare selection record index fields) fun result =>
      ∀ members, result = .ok members → ∀ m ∈ members, sources.Yields m.type := by
  induction fields generalizing index s with
  | nil => exact .pure (by simp)
  | cons field rest induction =>
      refine .look rfl ?_
      split
      · exact .pure (by simp)
      have own := Cursor.type_mem_types (sources.forest.cursor field)
      refine (resolve_fares serves _ (parts_of_cursor own) s ready).bind ?_
      intro type resolved kept progress resolution
      have ready := ready.after kept progress
      refine .look rfl ?_
      split
      · exact .pure (by simp)
      refine buildMember_fares.bind fun member named kept progress sameType => ?_
      refine (induction (index + 1) named (ready.after kept progress)).bind ?_
      intro result after _ _ each
      split
      · rename_i members
        refine .pure fun all found m listed => ?_
        obtain rfl := Except.ok.inj found
        rcases List.mem_cons.mp listed with rfl | listed
        · exact sameType ▸ yields_of_cursor own resolution
        · exact each members rfl m listed
      · exact .pure (by simp)

theorem makeOpaque_fares {usr problem : String} :
    sources.Fares s (makeOpaque (s.store.size + 1) usr problem) fun _ => True := by
  refine ((makeOpaque_ensures _ usr problem s).and
    (makeOpaque_succeeds_of_size usr problem s)).imp ?_ ?_
  · intro _ after given
    obtain ⟨⟨kept, cleared, result, -⟩, -⟩ := given
    exact ⟨kept, trivial, result ▸ .clear⟩
  · exact fun _ _ failed => failed.2.elim

theorem layRecord_fares (serves : sources.Serves bound declare) (ready : sources.Ready bound s)
    (selection : Selection) (record : String) (defined : Nat) (logged : String → String) :
    sources.Fares s (layRecord declare selection record (sources.forest.cursor number).usr
      (sources.forest.fieldNumbers defined) logged) fun _ => True := by
  refine (buildMembers_fares serves _ _ _ _ _ ready).bind ?_
  intro result built _ _ each
  split
  · rename_i members
    exact .amend fun _ describes => describes.setMembers (each members rfl)
  · refine .bind_quiet (quiet_debug _ _) fun _ _ _ _ => ?_
    exact .look rfl makeOpaque_fares

theorem buildRecord_fares (serves : sources.Serves bound declare)
    (ready : sources.Ready (bound + 1) s)
    (fresh : sources.OneKind → (sources.forest.cursor number).usr ∉ s.store.keys)
    (requested : sources.Requests .record number) :
    sources.Fares s (buildRecord declare number) fun _ => True := by
  refine .look rfl ?_
  refine .bind_quiet (quiet_nameOf _) fun nativeName named kept same => ?_
  refine .look rfl ?_
  refine .bind_quiet (quiet_renameUnlessEmpty _ _) fun name renamed kept' same' => ?_
  rw [same] at same'
  have kept := kept.trans kept'
  refine .look rfl (.look rfl ?_)
  generalize (if (sources.forest.cursor number).definition.isNone &&
      (sources.forest.cursor number).isDefinition then some number
    else (sources.forest.cursor number).definition) = definition
  refine .bind_publish (same' ▸ fresh) (.blank requested rfl rfl rfl) ?_
  intro begun keeps absent published
  rw [same'] at absent published
  have ready := ready.published (kept.trans keeps) rfl absent published
  cases definition with
  | none => exact .of_quiet (quiet_debug _ _)
  | some defined =>
      refine .bind_quiet (quiet_debug _ _) fun _ logged kept same => ?_
      have ready := ready.after kept (same ▸ .refl _)
      exact .look rfl (.look rfl (.look rfl (layRecord_fares serves ready _ _ _ _)))

/-! Enumerations. -/

theorem buildEnumeration_fares
    (fresh : sources.OneKind → (sources.forest.cursor number).usr ∉ s.store.keys)
    (requested : sources.Requests .enumeration number) :
    sources.Fares s (buildEnumeration number) fun _ => True := by
  refine .look rfl (.look rfl (.look rfl ?_))
  refine .bind_quiet (quiet_nameOf _) fun nativeName named _ same => ?_
  refine .bind_quiet (quiet_renameUnlessEmpty _ _) fun name renamed _ same' => ?_
  rw [same] at same'
  refine .look rfl ?_
  refine .bind_publish (same' ▸ fresh) (.blank requested rfl rfl rfl) fun begun _ _ _ => ?_
  refine .bind_quiet (quiet_debug _ _) fun _ logged _ _ => ?_
  refine .look rfl (.forM fun child _ current _ _ => ?_)
  refine .look rfl (.bind_quiet (quiet_selected _) fun _ _ _ _ => ?_)
  exact .look rfl (.amend fun _ describes => describes.addConstant _)

/-! Parameters of functions and methods. -/

def FaresInside (sources : Sources) (outer s : Session) (step : Step α)
    (good : α → Prop) : Prop :=
  OutcomeInside sources.forest outer s step
    (fun value after => good value ∧ sources.Progress s.store after.store)
    (fun error grown => sources.Raises error ∧ sources.Progress s.store grown)

namespace FaresInside

variable {outer : Session}

theorem of_fares {step : Step α} {good : α → Prop} (fares : sources.Fares s step good)
    (inside : Inside outer s) : sources.FaresInside outer s step good := by
  refine Step.Ensures.imp (OutcomeInside.of_outcome fares inside) ?_ ?_
  · exact fun _ _ given => ⟨given.1, given.2.2⟩
  · exact fun _ _ failed => failed

theorem bind {step : Step α} {next : α → Step β} {good : α → Prop} {good' : β → Prop}
    (first : sources.FaresInside outer s step good)
    (second : ∀ value middle, Inside outer middle →
      sources.Progress s.store middle.store → good value →
      sources.FaresInside outer middle (next value) good') :
    sources.FaresInside outer s (step >>= next) good' := by
  refine OutcomeInside.bind first fun value middle inside given => ?_
  obtain ⟨result, progress⟩ := given
  refine Step.Ensures.imp (second value middle inside progress result) ?_ ?_
  all_goals
    intro _ after given
    exact ⟨given.1, given.2.1, progress.trans given.2.2⟩

theorem pure {value : α} {good : α → Prop} (inside : Inside outer s) (result : good value) :
    sources.FaresInside outer s (Pure.pure value) good := ⟨inside, result, .refl _⟩

theorem look {step : Step α} {next : α → Step β} {good : β → Prop} {value : α}
    (answers : step.run sources.forest s = (.ok value, s))
    (rest : sources.FaresInside outer s (next value) good) :
    sources.FaresInside outer s (step >>= next) good := OutcomeInside.look answers rest

theorem bind_quiet {step : Step α} {next : α → Step β} {good : β → Prop}
    (quiet : step.Quiet) (inside : Inside outer s)
    (second : ∀ value middle, Inside outer middle →
      sources.Progress s.store middle.store →
      sources.FaresInside outer middle (next value) good) :
    sources.FaresInside outer s (step >>= next) good :=
  (of_fares (.of_quiet quiet) inside).bind
    fun value middle inside progress _ => second value middle inside progress

theorem changeFrame {change : Frame → Frame} (inside : Inside outer s)
    (framed : outer.Framed) (keeps : ∀ f, (change f).number = f.number) :
    sources.FaresInside outer s (changeFrame outer.frames change) fun _ => True := by
  have changed : OutcomeInside sources.forest outer s (Session.changeFrame outer.frames change)
      _ fun _ _ => False := .changeFrame inside framed keeps
  unfold FaresInside OutcomeInside
  refine Step.Ensures.imp changed ?_ ?_
  · intro _ after given
    exact ⟨given.1, trivial, given.2.1 ▸ .refl _⟩
  · exact fun _ _ failed => failed.2.elim

theorem withFrame {name : String} {body : Nat → Step α} {good : α → Prop}
    (inside : sources.FaresInside outer (outer.entered name) (body outer.frames) good) :
    sources.Fares outer (withFrame name body) good := OutcomeInside.withFrame inside

end FaresInside

theorem Ready.within {outer middle : Session} (ready : sources.Ready bound s)
    (framed : outer.Framed) (inside : Inside outer middle)
    (progress : sources.Progress s.store middle.store) : sources.Ready bound middle where
  framed := inside.framed framed
  enough := Nat.lt_of_le_of_lt
    (Forest.unpublished_sublist progress.keys.subset).length_le ready.enough

theorem resolveParameter_fares {outer : Session} (serves : sources.Serves bound declare)
    (framed : outer.Framed) (ready : sources.Ready bound s) (inside : Inside outer s) :
    sources.FaresInside outer s
      (resolveParameter declare outer.frames (sources.forest.cursor number))
      sources.Yields := by
  have own := Cursor.type_mem_types (sources.forest.cursor number)
  refine FaresInside.bind (.of_fares (resolve_fares serves _ (parts_of_cursor own) s ready)
    inside) ?_
  intro type resolved inside _ resolution
  have yields := yields_of_cursor own resolution
  refine .look rfl ?_
  split
  · exact .bind (.changeFrame inside framed fun _ => rfl)
      fun _ _ inside _ _ => .pure inside yields
  split
  · exact .bind (.changeFrame inside framed fun _ => rfl)
      fun _ _ inside _ _ => .pure inside yields
  · exact .pure inside yields

theorem collectParameter_fares {outer : Session} {collect : Step (List Parameter)}
    (selection : Selection) (owner spelling : String) (index : Nat) (inside : Inside outer s)
    (yields : sources.Yields type)
    (others : ∀ named, Inside outer named → sources.Progress s.store named.store →
      sources.FaresInside outer named collect fun params =>
        ∀ p ∈ params, sources.Yields p.type) :
    sources.FaresInside outer s (collectParameter selection owner spelling index type collect)
      fun params => ∀ p ∈ params, sources.Yields p.type := by
  refine .bind_quiet (quiet_parameterName _ _ _ _) inside fun name named inside progress => ?_
  refine (others named inside progress).bind fun params _ inside _ each => ?_
  refine .pure inside fun p member => ?_
  rcases List.mem_cons.mp member with rfl | member
  · exact yields
  · exact each p member

theorem methodParameters_fares {outer : Session} (serves : sources.Serves bound declare)
    (framed : outer.Framed) (owner : String) (arguments : List Nat) (index : Nat)
    (s : Session) (ready : sources.Ready bound s) (inside : Inside outer s) :
    sources.FaresInside outer s (methodParameters declare outer.frames owner index arguments)
      fun params => ∀ p ∈ params, sources.Yields p.type := by
  induction arguments generalizing index s with
  | nil => exact .pure inside (by simp)
  | cons argument rest induction =>
      refine .look rfl ?_
      refine (resolveParameter_fares serves framed ready inside).bind ?_
      intro type resolved inside progress yields
      have ready := ready.within framed inside progress
      refine .look rfl (collectParameter_fares _ _ _ _ inside yields ?_)
      intro named inside progress
      exact induction (index + 1) named (ready.within framed inside progress) inside

/-! Interfaces. -/

section

variable (serves : sources.Serves bound declare)
include serves

theorem buildMethod_fares {owner : String} {child : Nat} (ready : sources.Ready bound s) :
    sources.Fares s (buildMethod declare owner child) fun method =>
      ∀ m ∈ method, ∀ type ∈ m.result :: m.params.map (·.type), sources.Yields type := by
  refine Fares.look rfl (FaresInside.withFrame ?_)
  have inside := inside_entered s (owner ++ "." ++ (sources.forest.cursor child).spelling)
  have own := Cursor.result_mem_types (sources.forest.cursor child)
  refine FaresInside.bind (.of_fares
    (resolve_fares serves _ (parts_of_cursor own) _ (ready.entered _)) inside) ?_
  intro result resolved inside progress resolution
  have framed := ready.framed
  have ready := (ready.entered _).within framed inside progress
  refine (methodParameters_fares serves framed owner _ 0 resolved ready inside).bind ?_
  intro params collected inside _ each
  refine .look rfl (.look rfl ?_)
  have refused (title usr message : String) (reason : Reason) :
      sources.FaresInside s collected
        (do diagnose title usr reason message; return none)
        fun method => ∀ m ∈ (method : Option Method),
          ∀ type ∈ m.result :: m.params.map (·.type), sources.Yields type :=
    .bind_quiet (quiet_diagnose _ _ _ _) inside fun _ _ inside _ => .pure inside (by simp)
  split
  · exact refused _ _ _ _
  split
  · exact refused _ _ _ _
  refine .look rfl (.bind_quiet (quiet_selected _) inside fun name named inside _ => ?_)
  refine .look rfl (.pure inside fun m found type member => ?_)
  cases found
  rcases List.mem_cons.mp member with rfl | member
  · exact yields_of_cursor own resolution
  · obtain ⟨p, listed, rfl⟩ := List.mem_map.mp member
    exact each p listed

theorem buildInterfacePart_fares {usr owner : String} {child : Nat}
    (ready : sources.Ready bound s) :
    sources.Fares s (buildInterfacePart declare usr owner child) fun _ => True := by
  refine .look rfl ?_
  split
  · rename_i superclass kind referenced
    have presented : sources.Presents _ _ := .superclass kind referenced
    refine (serves .interface superclass s ready presented).bind ?_
    rintro parent _ _ _ rfl
    exact .amend fun _ describes => describes.setSuperclass presented
  · exact .pure trivial
  · split
    · refine (buildMethod_fares serves ready).bind fun method _ _ _ each => ?_
      split
      · rename_i method
        exact .amend fun _ describes => describes.addMethod (each method rfl)
      · exact .pure trivial
    · exact .pure trivial

theorem buildInterface_fares (ready : sources.Ready (bound + 1) s)
    (fresh : sources.OneKind → (sources.forest.cursor number).usr ∉ s.store.keys)
    (requested : sources.Requests .interface number) :
    sources.Fares s (buildInterface declare number) fun _ => True := by
  refine .look rfl (.look rfl ?_)
  refine .bind_quiet (quiet_selected _) fun name named kept same => ?_
  refine .look rfl (.look rfl ?_)
  refine .bind_publish (same ▸ fresh) (.blank requested rfl rfl rfl) ?_
  intro begun keeps absent published
  rw [same] at absent published
  have ready := ready.published (kept.trans keeps) rfl absent published
  split
  · exact .of_quiet (quiet_debug _ _)
  · refine .bind_quiet (quiet_debug _ _) fun _ logged kept same => ?_
    have ready := ready.after kept (same ▸ .refl _)
    refine .look rfl (.forM fun child _ current kept progress => ?_)
    exact buildInterfacePart_fares serves (ready.after kept progress)

/-! All together. -/

theorem build_fares (form : Form) (ready : sources.Ready (bound + 1) s)
    (fresh : sources.OneKind → (sources.forest.cursor number).usr ∉ s.store.keys)
    (requested : sources.Requests form number) :
    sources.Fares s (build declare form number) fun _ => True := by
  cases form with
  | typedef => exact buildTypedef_fares serves ready fresh requested
  | record => exact buildRecord_fares serves ready fresh requested
  | enumeration => exact buildEnumeration_fares fresh requested
  | interface => exact buildInterface_fares serves ready fresh requested

end

/-- A nested build is for a USR that is not published yet, so there is one less then. -/
theorem declareWithin_serves (fuel : Nat) : sources.Serves fuel (declareWithin fuel) := by
  induction fuel with
  | zero => exact fun _ _ _ ready _ => absurd ready.enough (Nat.not_lt_zero _)
  | succ fuel induction =>
      intro form number s ready requested
      refine .look rfl (.look rfl ?_)
      split
      · exact .pure rfl
      · rename_i absent
        have fresh : (sources.forest.cursor number).usr ∉ s.store.keys :=
          fun published => absent (Store.contains_iff_mem_keys.mpr published)
        refine (Fares.withFrame (build_fares induction form (ready.entered _)
          (fun _ => fresh) requested)).bind ?_
        exact fun _ _ _ _ _ => .pure rfl

/-- The fuel of a declaration covers all numbers. -/
theorem declare_serves : sources.Serves (sources.forest.size + 2) Session.declare :=
  fun form number s ready requested =>
    .look rfl (declareWithin_serves _ form number s ready requested)

theorem ready_of_framed (framed : s.Framed) (more : Nat) :
    sources.Ready (sources.forest.size + 2 + more) s where
  framed := framed
  enough := by
    have fits := Forest.length_unpublished_le sources.forest s.store
    omega

end Sources

end LuaBinder
