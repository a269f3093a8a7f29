import LuaBinder.Proofs.Session.Fares.Building

namespace LuaBinder

open Header Session

namespace Sources

variable {sources : Sources} {s : Session} {number : Nat} {usr : String} {type : CType}

/-- What is not published as what it is has not been published at all. -/
theorem fresh_of_unpublished {store : Store} {kind : DeclarationKind}
    {ok : Declaration → Bool} (described : sources.Describe store)
    (presented : sources.Presents usr kind)
    (absent : ¬ ((store.lookup? usr).filter ok).isSome = true)
    (accepts : ∀ d : Declaration, d.kind = kind → ok d = true) :
    sources.OneKind → usr ∉ store.keys := by
  intro oneKind published
  obtain ⟨body, found⟩ := Store.exists_body? published
  obtain ⟨d, located, rfl⟩ := Option.map_eq_some_iff.mp found
  have same := oneKind usr _ _ (described.body? found).presented presented
  exact absent (by simp [located, accepts d same])

/-- What a visit starts from. -/
structure Settled (sources : Sources) (s : Session) : Prop extends Sound s where
  described : sources.Describe s.store
  configured : s.policy ∈ sources.policies

namespace Settled

theorem entered (settled : sources.Settled s) (name : String) :
    sources.Settled (s.entered name) :=
  ⟨settled.toSound.entered name, settled.described, settled.configured⟩

theorem after {middle : Session} (settled : sources.Settled s) (kept : Kept s middle)
    (same : middle.store = s.store) : sources.Settled middle :=
  ⟨settled.toSound.of_kept kept (same ▸ settled.closed), same ▸ settled.described,
    kept.policy ▸ settled.configured⟩

end Settled

/-! Compounds. -/

theorem isCompound_of_kind {d : Declaration} (compound : d.kind.IsCompound) :
    d.isCompound = true := by
  unfold Declaration.kind at compound
  unfold Declaration.isCompound
  cases body : d.body with
  | record | enumeration | interface => rfl
  | _ => simp [body, Body.kind, DeclarationKind.IsCompound] at compound

theorem visitRecord_fares (settled : sources.Settled s)
    (formed : formOf? (sources.forest.cursor number).kind = some .record) :
    sources.Fares s (visitRecord number) fun _ => True := by
  refine .look rfl (.withFrame (.look rfl ?_))
  have settled := settled.entered (sources.forest.cursor number).spelling
  split
  · exact .pure trivial
  rename_i absent
  have requested := requests_of_formOf? formed
  have fresh := fresh_of_unpublished settled.described requested absent fun d same =>
    isCompound_of_kind (same ▸ (isCompound_of_formOf? formed).2)
  split
  · exact .pure trivial
  refine .look rfl (.bind_quiet (quiet_selected _) fun chosen current kept same => ?_)
  split
  · refine (buildRecord_fares declare_serves
      (ready_of_framed (settled.framed.of_kept kept) 1) (same ▸ fresh) requested).bind ?_
    exact fun _ _ _ _ _ => .pure trivial
  · exact .pure trivial

theorem visitInterface_fares (settled : sources.Settled s)
    (kind : (sources.forest.cursor number).kind = .interface) :
    sources.Fares s (visitInterface number) fun _ => True := by
  refine .look rfl (.withFrame (.look rfl ?_))
  have settled := settled.entered (sources.forest.cursor number).spelling
  split
  · exact .pure trivial
  rename_i absent
  have requested : sources.Requests .interface number := requests_of_formOf? (by rw [kind]; rfl)
  have fresh := fresh_of_unpublished settled.described requested absent fun d same => by
    rw [same]
    rfl
  refine .look rfl (.bind_quiet (quiet_selected _) fun chosen current kept same => ?_)
  split
  · refine (buildInterface_fares declare_serves
      (ready_of_framed (settled.framed.of_kept kept) 1) (same ▸ fresh) requested).bind ?_
    exact fun _ _ _ _ _ => .pure trivial
  · exact .pure trivial

theorem visitConstants_fares (numbers : List Nat)
    (constants : ∀ number ∈ numbers,
      (sources.forest.cursor number).kind.published? = some .constant) (s : Session)
    (described : sources.Describe s.store) :
    sources.Fares s (visitConstants numbers) fun _ => True := by
  induction numbers generalizing s with
  | nil => exact .pure trivial
  | cons number rest induction =>
      have later := induction fun other member =>
        constants other (List.mem_cons_of_mem _ member)
      have presented : sources.Presents _ _ := .cursor (constants number List.mem_cons_self)
      refine .look rfl (.look rfl (.look rfl ?_))
      split
      · exact (later s described).map fun _ _ => trivial
      rename_i absent
      have fresh := fresh_of_unpublished described presented absent fun d same => by
        simpa using same
      refine .bind_quiet (quiet_selected _) fun chosen chosenAt _ sameChosen => ?_
      split
      · exact later chosenAt (sameChosen ▸ described)
      refine .bind_quiet (quiet_selected _) fun name named _ sameNamed => ?_
      have same := sameNamed.trans sameChosen
      refine .look rfl (.bind_publish (same ▸ fresh) (.blank presented rfl rfl rfl) ?_)
      intro begun _ _ published
      have describedBegun : sources.Describe begun.store := by
        rw [published, same]
        exact described.push (.blank presented rfl rfl rfl)
      refine .bind_quiet (quiet_debug _ _) fun _ logged _ sameLogged => ?_
      exact (later logged (sameLogged ▸ describedBegun)).map fun _ _ => trivial

theorem visitEnumeration_fares (settled : sources.Settled s)
    (kind : (sources.forest.cursor number).kind = .enumeration) :
    sources.Fares s (visitEnumeration number) fun _ => True := by
  refine .look rfl (.withFrame ?_)
  have settled := settled.entered (sources.forest.cursor number).spelling
  split
  · refine .look rfl ?_
    split
    · exact .pure trivial
    · refine .look rfl (visitConstants_fares _ (fun child member => ?_) _ settled.described)
      have constant := (List.mem_filter.mp member).2
      rw [beq_iff_eq] at constant
      rw [constant]
      rfl
  refine .look rfl ?_
  split
  · exact .pure trivial
  rename_i absent
  have requested : sources.Requests .enumeration number :=
    requests_of_formOf? (by rw [kind]; rfl)
  have fresh := fresh_of_unpublished settled.described requested absent fun d same => by
    rw [same]
    rfl
  refine .look rfl (.bind_quiet (quiet_selected _) fun chosen current kept same => ?_)
  split
  · exact (buildEnumeration_fares (same ▸ fresh) requested).bind
      fun _ _ _ _ _ => .pure trivial
  · exact .pure trivial

/-! Typedefs, globals and macro constants. -/

theorem visitTypedef_fares (settled : sources.Settled s)
    (kind : (sources.forest.cursor number).kind = .typedef) :
    sources.Fares s (visitTypedef number) fun _ => True := by
  refine .look rfl (.withFrame (.look rfl ?_))
  have settled := settled.entered (sources.forest.cursor number).spelling
  split
  · exact .pure trivial
  rename_i absent
  have requested : sources.Requests .typedef number := .cursor (by rw [kind]; rfl)
  have fresh := fresh_of_unpublished settled.described requested absent fun d same => by
    rw [Declaration.isTypedef, same]
    rfl
  split
  · exact .bind_quiet (quiet_debug _ _) fun _ _ _ _ => .pure trivial
  refine .look rfl (.bind_quiet (quiet_selected _) fun chosen current kept same => ?_)
  split
  · refine (buildTypedef_fares declare_serves
      (ready_of_framed (settled.framed.of_kept kept) 1) (same ▸ fresh) requested).bind ?_
    intro _ built _ _ _
    refine .look rfl ?_
    split
    · exact .bind_quiet (quiet_debug _ _) fun _ _ _ _ =>
        .bind_quiet (quiet_diagnose _ _ _ _) fun _ _ _ _ => .pure trivial
    · exact .pure trivial
  · exact .pure trivial

/-- Resolving types publishes no values. -/
theorem fresh_of_valueless {store grown : Store} {reach : Nat → Prop}
    (described : sources.Describe grown) (presented : sources.Presents usr .global)
    (extended : store.Extends sources.forest reach grown)
    (fresh : sources.OneKind → usr ∉ store.keys) : sources.OneKind → usr ∉ grown.keys := by
  intro oneKind published
  obtain ⟨body, found⟩ := Store.exists_body? published
  have same := oneKind usr _ _ (described.body? found).presented presented
  have valueless := extended.valueless usr body found (fresh oneKind)
  cases body with
  | global => simp [Body.values] at valueless
  | record kind => cases kind <;> simp [Body.kind, RecordKind.declarationKind] at same
  | _ => simp [Body.kind] at same

/-- While a type is resolved, no values are published. -/
theorem Fares.bind_resolve {native : NativeType} {next : CType → Step β} {good : β → Prop}
    (settled : sources.Settled s) (own : native ∈ (sources.forest.cursor number).types)
    (second : ∀ type middle, Kept s middle → sources.Progress s.store middle.store →
      s.store.Extends sources.forest (sources.forest.Leads number) middle.store →
      Resolution sources.forest native type → sources.Fares middle (next type) good) :
    sources.Fares s (resolve declare native >>= next) good := by
  have resolves := resolves_type declare_declares (onward_leads number) native s
    settled.toSound fun _ found =>
      (Forest.Leads.refl _ number).reference (Cursor.mem_references_of_type own found)
  have fares := resolve_fares declare_serves native (parts_of_cursor own) s
    (ready_of_framed settled.framed 0)
  refine Step.ensures_bind.mpr ((Step.Ensures.and fares resolves).imp ?_ ?_)
  · intro type middle given
    obtain ⟨⟨kept, resolution, progress⟩, -, gives⟩ := given
    refine Step.Ensures.imp (second type middle kept progress
      (gives.built.extended settled.closed (onward_leads number)) resolution) ?_ ?_
    all_goals
      intro _ after given
      exact ⟨kept.trans given.1, given.2.1, progress.trans given.2.2⟩
  · exact fun _ _ failed => failed.1

theorem addGlobal_fares (settled : sources.Settled s)
    (kind : (sources.forest.cursor number).kind = .global)
    (fresh : sources.OneKind → (sources.forest.cursor number).usr ∉ s.store.keys) :
    sources.Fares s (addGlobal (sources.forest.cursor number)) fun _ => True := by
  refine .bind_quiet (quiet_debug _ _) fun _ begun kept same => ?_
  have settled := settled.after kept same
  rw [← same] at fresh
  have presented : sources.Presents (sources.forest.cursor number).usr .global :=
    .cursor (by rw [kind]; rfl)
  refine .bind_resolve settled (Cursor.type_mem_types _) ?_
  intro type resolved _ progress extended resolution
  have fresh := fresh_of_valueless (progress.described settled.described) presented extended fresh
  refine .look rfl ?_
  split
  · exact .of_quiet (quiet_refuse _ _ _ _ _ _)
  · refine .look rfl (.bind_quiet (quiet_selected _) fun name named _ sameNamed => ?_)
    refine .look rfl (.bind_quiet (quiet_selected _) fun exposed chosen _ sameChosen => ?_)
    have same := sameChosen.trans sameNamed
    refine .bind_publish (same ▸ fresh) ?_ fun _ _ _ _ => .pure trivial
    exact
      { presented := presented
        yielded := by
          simpa [Body.types] using yields_of_cursor (Cursor.type_mem_types _) resolution
        parent := by simp [Body.superclass?]
        extra := by simp
        underlying := by simp [Body.underlying?]
        object := by
          rintro type' const' exposed' same
          cases same
          exact ⟨number, rfl, kind, rfl, resolution⟩ }

theorem visitGlobal_fares (settled : sources.Settled s)
    (kind : (sources.forest.cursor number).kind = .global) :
    sources.Fares s (visitGlobal number) fun _ => True := by
  refine .look rfl (.withFrame (.look rfl ?_))
  have settled := settled.entered (sources.forest.cursor number).spelling
  split
  · exact .pure trivial
  rename_i absent
  have presented : sources.Presents _ _ := .cursor (show _ = some .global by rw [kind]; rfl)
  have fresh := fresh_of_unpublished settled.described presented absent fun d same => by
    rw [same]
    rfl
  split
  · exact .pure trivial
  refine .look rfl (.bind_quiet (quiet_selected _) fun chosen current kept same => ?_)
  split
  · exact .pure trivial
  refine .look rfl ?_
  split
  · exact .pure trivial
  · exact addGlobal_fares (settled.after kept same) kind (same ▸ fresh)

theorem visitMacro_fares (settled : sources.Settled s)
    (kind : (sources.forest.cursor number).kind = .macroDefinition) :
    sources.Fares s (visitMacro number) fun _ => True := by
  refine .look rfl (.withFrame (.look rfl ?_))
  have settled := settled.entered (sources.forest.cursor number).spelling
  split
  · exact .pure trivial
  rename_i absent
  have presented : sources.Presents _ _ := .cursor (show _ = some .constant by rw [kind]; rfl)
  have fresh := fresh_of_unpublished settled.described presented absent fun d same => by
    rw [same]
    rfl
  split
  · exact .pure trivial
  refine .look rfl (.bind_quiet (quiet_selected _) fun chosen current _ same => ?_)
  split
  · exact .pure trivial
  simp only [addMacro]
  split
  · exact .throw trivial
  · exact .bind_quiet (quiet_debug _ _) fun _ _ _ _ => .pure trivial
  · refine .look rfl (.bind_quiet (quiet_selected _) fun name named _ sameNamed => ?_)
    have same := sameNamed.trans same
    refine .look rfl (.bind_publish (same ▸ fresh) (.blank presented rfl rfl rfl) ?_)
    intro _ _ _ _
    exact .bind_quiet (quiet_debug _ _) fun _ _ _ _ => .pure trivial

/-! Functions. -/

theorem functionParameters_fares {outer : Session} (framed : outer.Framed) (owner : String)
    (arguments : List Nat) (index : Nat) (s : Session) (inside : Inside outer s) :
    sources.FaresInside outer s (functionParameters outer.frames owner index arguments)
      fun params => ∀ p ∈ params, sources.Yields p.type := by
  induction arguments generalizing index s with
  | nil => exact .pure inside (by simp)
  | cons argument rest induction =>
      refine .look rfl (.bind_quiet (quiet_debug _ _) inside fun _ logged inside _ => ?_)
      refine (resolveParameter_fares declare_serves framed
        (ready_of_framed (inside.framed framed) 0) inside).bind ?_
      intro type resolved inside progress yields
      have collects (selection : Selection) (current : Session) (inside : Inside outer current) :=
        collectParameter_fares selection owner (sources.forest.cursor argument).spelling index
          inside yields fun named inside _ => induction (index + 1) named inside
      refine .look rfl ?_
      split
      · refine .bind_quiet (quiet_debug _ _) inside fun _ logged inside _ => ?_
        exact .look rfl (collects _ logged inside)
      · exact .look rfl (collects _ resolved inside)

/-- A binding is looked for before it is published. -/
theorem publishFunctions_fares {outer : Session} (framed : outer.Framed)
    (ds : List Declaration) (s : Session) (inside : Inside outer s)
    (describes : ∀ d ∈ ds, sources.Describes d.usr d.body) :
    sources.FaresInside outer s (publishFunctions outer.frames ds) fun _ => True := by
  induction ds generalizing s with
  | nil => exact .pure inside trivial
  | cons d rest induction =>
      have notes (current : Session) (inside : Inside outer current) :
          sources.FaresInside outer current
            (do note outer.frames d.usr; publishFunctions outer.frames rest)
            fun _ => True := by
        refine .bind (.changeFrame inside framed fun _ => rfl) fun _ noted inside _ _ => ?_
        exact induction noted inside fun other member =>
          describes other (List.mem_cons_of_mem _ member)
      refine .look rfl ?_
      split
      · rename_i absent
        have fresh : d.usr ∉ s.store.keys := fun published => by
          simp [Store.contains_iff_mem_keys.mpr published] at absent
        have publishes : sources.Fares s (publish d) fun _ => True := by
          rw [← bind_pure (publish d)]
          exact .bind_publish (fun _ => fresh) (describes d List.mem_cons_self)
            fun _ _ _ _ => .pure trivial
        exact (FaresInside.of_fares publishes inside).bind
          fun _ current inside _ _ => notes current inside
      · exact notes s inside

theorem bindFunctions_fares {outer : Session} {signatures : List CallSignature}
    {policy : Policy} {result : CType} {params : List Parameter} (framed : outer.Framed)
    (inside : Inside outer s) (kind : (sources.forest.cursor number).kind = .function)
    (configured : policy ∈ sources.policies)
    (bound : ∀ signature ∈ signatures, signature ∈ (policy.signatures.specialize
      (sources.forest.cursor number).spelling
      (sources.forest.cursor number).type.isVariadic).1)
    (yields : ∀ type ∈ result :: params.map (·.type), sources.Yields type) :
    sources.FaresInside outer s
      (bindFunctions (sources.forest.cursor number) signatures outer.frames result params)
      fun _ => True := by
  refine .look rfl (.look rfl ?_)
  refine .bind_quiet (quiet_selected _) inside fun name named inside _ => ?_
  refine .bind_quiet (quiet_selected _) inside fun exposure chosen inside _ => ?_
  refine (publishFunctions_fares framed _ chosen inside fun d member => ?_).bind
    fun _ published inside _ _ => .look rfl (.pure inside trivial)
  obtain ⟨signature, listed, rfl⟩ := List.mem_map.mp member
  exact
    { presented := .function kind configured (bound signature listed)
      yielded := yields
      parent := by simp [bindFunction, Body.superclass?]
      extra := by
        intro f same p appended
        obtain rfl := Body.function.inj same
        obtain ⟨⟨type, index⟩, listed', rfl⟩ := List.mem_map.mp appended
        exact ⟨policy, configured, appends_of_specialize (bound signature listed)
          (List.fst_mem_of_mem_zipIdx listed')⟩
      underlying := by simp [bindFunction, Body.underlying?]
      object := by simp [bindFunction] }

theorem addFunction_fares {outer : Session} {signatures : List CallSignature} {ignored : Bool}
    {policy : Policy} (framed : outer.Framed) (inside : Inside outer s)
    (kind : (sources.forest.cursor number).kind = .function)
    (configured : policy ∈ sources.policies)
    (bound : ∀ signature ∈ signatures, signature ∈ (policy.signatures.specialize
      (sources.forest.cursor number).spelling
      (sources.forest.cursor number).type.isVariadic).1) :
    sources.FaresInside outer s
      (addFunction (sources.forest.cursor number) signatures ignored outer.frames)
      fun _ => True := by
  refine .bind_quiet (quiet_debug _ _) inside fun _ begun inside _ => ?_
  have own := Cursor.result_mem_types (sources.forest.cursor number)
  refine FaresInside.bind (.of_fares (resolve_fares declare_serves _ (parts_of_cursor own) _
    (ready_of_framed (inside.framed framed) 0)) inside) ?_
  intro result resolved inside _ resolution
  refine (functionParameters_fares framed _ _ 0 resolved inside).bind ?_
  intro params collected inside _ each
  refine .look rfl (.look rfl ?_)
  split
  · exact .of_fares (.of_quiet (quiet_refuse _ _ _ _ _ _)) inside
  have yields : ∀ type ∈ result :: params.map (·.type), sources.Yields type := by
    intro type member
    rcases List.mem_cons.mp member with rfl | member
    · exact yields_of_cursor own resolution
    · obtain ⟨p, listed, rfl⟩ := List.mem_map.mp member
      exact each p listed
  split
  · exact .bind_quiet (quiet_diagnose _ _ _ _) inside fun _ current inside _ =>
      bindFunctions_fares framed inside kind configured bound yields
  · exact bindFunctions_fares framed inside kind configured bound yields

theorem visitFunction_fares (settled : sources.Settled s)
    (kind : (sources.forest.cursor number).kind = .function) :
    sources.Fares s (visitFunction number) fun _ => True := by
  refine Fares.look rfl (Fares.look rfl ?_)
  split
  rename_i signatures ignored specialized
  refine FaresInside.withFrame ?_
  have inside := inside_entered s (sources.forest.cursor number).spelling
  refine .look rfl (.bind_quiet (quiet_selected _) inside fun chosen current inside _ => ?_)
  split
  · exact .pure inside trivial
  split
  · exact .pure inside trivial
  refine .look rfl ?_
  split
  · exact .pure inside trivial
  · exact addFunction_fares settled.framed inside kind settled.configured
      fun signature member => by rw [specialized]; exact member

/-! Visits and runs. -/

theorem visit_fares (settled : sources.Settled s) (number : Nat) :
    sources.Fares s (visit number) fun _ => True := by
  refine .look rfl ?_
  split
  case h_1 kind => exact visitFunction_fares settled kind
  case h_2 kind => exact visitRecord_fares settled (by rw [kind]; rfl)
  case h_3 kind => exact visitRecord_fares settled (by rw [kind]; rfl)
  case h_4 kind => exact visitEnumeration_fares settled kind
  case h_5 kind => exact visitTypedef_fares settled kind
  case h_6 kind => exact visitGlobal_fares settled kind
  case h_7 kind => exact visitMacro_fares settled kind
  case h_8 kind => exact visitInterface_fares settled kind
  case h_9 => exact .bind_quiet (quiet_debug _ _) fun _ _ _ _ => .pure trivial

end Sources

end LuaBinder
