import LuaBinder.Proofs.Session.Declaring

namespace LuaBinder.Session

open Header Store

variable {forest : Forest} {s : Session} {declare : Declare} {number : Nat}
  {store grown : Store} {type : CType} {usr : String}

/-! Parameters of functions and methods. -/

theorem resolveParameter_runs {reach : Nat → Prop} {outer : Session} {c : Cursor}
    (declares : Declares forest declare) (onward : Onward forest reach)
    (inside : Inside outer s) (sound : outer.Sound) (closed : s.store.Closed)
    (leads : ∀ number ∈ c.type.declarations, reach number) :
    RunsInside forest outer s (resolveParameter declare outer.frames c)
      (fun type after => s.store.Gives forest reach c.type.HasBareFunction type after.store ∧
        (after.Clean ↔ s.Clean ∧ after.store.Passable type))
      (s.store.Extends forest reach) := by
  have resolves := resolves_type declares onward c.type s (inside.sound sound closed) leads
  refine RunsInside.bind (.of_runs resolves inside) ?_
  intro type middle within given
  obtain ⟨kept, gives⟩ := given
  refine RunsInside.look rfl ?_
  split
  · rename_i incomplete
    refine RunsInside.bind (.changeFrame within sound fun _ => rfl) ?_
    intro _ after insideAfter given
    obtain ⟨same, marked⟩ := given
    refine .pure insideAfter ⟨same ▸ gives, fun clean => ?_, fun given => ?_⟩
    · obtain ⟨f, -, flags⟩ := marked clean
      exact absurd flags.1 (by simp)
    · exact absurd (same ▸ given.2.complete) (by simp [incomplete])
  split
  · rename_i unsupported
    refine RunsInside.bind (.changeFrame within sound fun _ => rfl) ?_
    intro _ after insideAfter given
    obtain ⟨same, marked⟩ := given
    refine .pure insideAfter ⟨same ▸ gives, fun clean => ?_, fun given => ?_⟩
    · obtain ⟨f, -, flags⟩ := marked clean
      exact absurd flags.2 (by simp)
    · exact absurd (same ▸ given.2.supported) (by simp [unsupported])
  · rename_i complete supported
    have passable : middle.store.Passable type :=
      ⟨by simpa using supported, by simpa using complete⟩
    exact .pure within ⟨gives, by simp [kept.clean_iff, passable]⟩

/-- Parameters that have been resolved; the frame is left unmarked if values can be passed
through all of them. -/
structure Parameters (forest : Forest) (reach : Nat → Prop) (bare : Prop) (s : Session)
    (params : List Parameter) (after : Session) : Prop where
  built : Builds forest reach s.store after.store
  resolved : ∀ p ∈ params, after.store.Resolved bare p.type
  passable : after.Clean ↔ s.Clean ∧ ∀ p ∈ params, after.store.Passable p.type

namespace Parameters

variable {reach : Nat → Prop} {bare : Prop} {params : List Parameter}
  {after resolved named : Session}

theorem nil : Parameters forest reach bare s [] s where
  built := .refl _
  resolved := by simp
  passable := by simp

theorem cons {p : Parameter} (closed : s.store.Closed)
    (gives : s.store.Gives forest reach bare p.type resolved.store)
    (passable : resolved.Clean ↔ s.Clean ∧ resolved.store.Passable p.type)
    (kept : Kept resolved named) (same : named.store = resolved.store)
    (others : Parameters forest reach bare named params after) :
    Parameters forest reach bare s (p :: params) after := by
  have grows := gives.built.grows closed
  have built : Builds forest reach resolved.store after.store := same ▸ others.built
  have later := built.grows grows.closed
  exact
    { built := gives.built.trans built
      resolved := by
        intro q member
        rcases List.mem_cons.mp member with rfl | member
        · exact later.resolved grows.closed gives.resolved
        · exact others.resolved q member
      passable := by
        rw [others.passable, kept.clean_iff, passable, List.forall_mem_cons,
          later.passable_iff grows.closed gives.resolved.known, and_assoc] }

end Parameters

theorem collectParameter_runs {reach : Nat → Prop} {bare : Prop}
    {outer resolved current : Session} {collect : Step (List Parameter)}
    (selection : Selection) (owner spelling : String) (index : Nat)
    (onward : Onward forest reach)
    (closed : s.store.Closed) (gives : s.store.Gives forest reach bare type resolved.store)
    (passable : resolved.Clean ↔ s.Clean ∧ resolved.store.Passable type)
    (kept : Kept resolved current) (same : current.store = resolved.store)
    (inside : Inside outer current)
    (others : ∀ named, Inside outer named → named.store.Closed →
      RunsInside forest outer named collect (Parameters forest reach bare named)
        (named.store.Extends forest reach)) :
    RunsInside forest outer current (collectParameter selection owner spelling index type collect)
      (Parameters forest reach bare s) (s.store.Extends forest reach) := by
  have extended : s.store.Extends forest reach current.store :=
    same ▸ gives.built.extended closed onward
  refine RunsInside.bind (.of_runs (.of_quiet (quiet_parameterName _ _ _ _) extended) inside) ?_
  intro name named insideNamed given
  obtain ⟨kept', same'⟩ := given
  have rest := others named insideNamed (same' ▸ extended.closed)
  refine RunsInside.bind (rest.imp_bad fun _ failed => extended.trans (same' ▸ failed)) ?_
  intro params after insideAfter parameters
  exact .pure insideAfter
    (.cons closed gives passable (kept.trans kept') (same'.trans same) parameters)

theorem methodParameters_runs {outer : Session} (declares : Declares forest declare)
    (sound : outer.Sound) (owner : String) (arguments : List Nat)
    (index : Nat) (s : Session) (inside : Inside outer s) (closed : s.store.Closed)
    (leads : ∀ argument ∈ arguments, forest.Leads number argument) :
    RunsInside forest outer s (methodParameters declare outer.frames owner index arguments)
      (Parameters forest (forest.Leads number) (forest.LeadsToBareFunction number) s)
      (s.store.Extends forest (forest.Leads number)) := by
  induction arguments generalizing index s with
  | nil => exact .pure inside .nil
  | cons argument rest induction =>
      have reached := leads argument List.mem_cons_self
      have own : (forest.cursor argument).type ∈ (forest.cursor argument).types := by
        simp [Cursor.types]
      refine RunsInside.look rfl ?_
      refine RunsInside.bind (resolveParameter_runs declares (onward_leads number) inside
        sound closed fun _ found =>
          reached.reference (Cursor.mem_references_of_type own found)) ?_
      intro type resolved within given
      obtain ⟨gives, passable⟩ := given
      refine RunsInside.look rfl ?_
      exact collectParameter_runs _ _ _ _ (onward_leads number) closed
        (gives.imp fun bare => ⟨argument, reached, _, own, bare⟩) passable (.refl _) rfl within
        fun named inside closed => induction (index + 1) named inside closed
          fun other later => leads other (List.mem_cons_of_mem _ later)

/-! Interfaces. -/

theorem Inside.clean_iff {outer : Session} (inside : Inside outer s) :
    s.Clean ↔
      ((s.context.find? (·.number == outer.frames)).getD
        { number := outer.frames, name := "" }).incompleteParameter = false ∧
      ((s.context.find? (·.number == outer.frames)).getD
        { number := outer.frames, name := "" }).unsupportedParameter = false := by
  obtain ⟨f, context, number⟩ := inside.context
  simp [Clean, context, number]

theorem buildMethod_runs {owner : String} {child : Nat} (declares : Declares forest declare)
    (sound : s.Sound) (reached : forest.Leads number child) :
    Runs forest s (buildMethod declare owner child)
      (fun method grown => Builds forest (forest.Leads number) s.store grown ∧
        ∀ m ∈ method, ∀ type ∈ m.result :: m.params.map (·.type),
          grown.Resolved (forest.LeadsToBareFunction number) type ∧ grown.Passable type)
      (s.store.Extends forest (forest.Leads number)) := by
  refine Runs.look rfl (RunsInside.withFrame ?_)
  have inside := inside_entered s (owner ++ "." ++ (forest.cursor child).spelling)
  have own : (forest.cursor child).result ∈ (forest.cursor child).types := by
    simp [Cursor.types]
  have resolves := resolves_type declares (onward_leads number) (forest.cursor child).result
    _ (inside.sound sound sound.closed) fun _ found =>
      reached.reference (Cursor.mem_references_of_type own found)
  refine RunsInside.bind (.of_runs resolves inside) ?_
  intro result resolved within given
  obtain ⟨-, gives⟩ := given
  have extended := gives.built.extended sound.closed (onward_leads number)
  have collects := methodParameters_runs declares sound owner
    (forest.cursor child).arguments 0 resolved within extended.closed fun argument member =>
      reached.reference (Cursor.mem_references_of_argument member)
  refine RunsInside.bind (collects.imp_bad fun _ failed => extended.trans failed) ?_
  intro params collected insideAfter parameters
  have whole := gives.built.trans parameters.built
  have extended := whole.extended sound.closed (onward_leads number)
  refine RunsInside.look rfl (RunsInside.look rfl ?_)
  have refused (title usr message : String) (reason : Reason) :
      RunsInside forest s collected
        (do diagnose title usr reason message; return none)
        (fun method after => Builds forest (forest.Leads number) s.store after.store ∧
          ∀ m ∈ (method : Option Method), ∀ type ∈ m.result :: m.params.map (·.type),
            after.store.Resolved (forest.LeadsToBareFunction number) type ∧
              after.store.Passable type)
        (s.store.Extends forest (forest.Leads number)) := by
    refine RunsInside.bind (.of_runs (.of_quiet (quiet_diagnose _ _ _ _) extended)
      insideAfter) ?_
    intro _ after inside given
    obtain ⟨-, same⟩ := given
    exact .pure inside ⟨same ▸ whole, by simp⟩
  split
  · exact refused _ _ _ _
  rename_i complete
  split
  · exact refused _ _ _ _
  rename_i supported
  simp only [Bool.or_eq_true, not_or, Bool.not_eq_true] at complete supported
  have passable := parameters.passable.mp (insideAfter.clean_iff.mpr ⟨complete.2, supported.2⟩)
  refine RunsInside.look rfl ?_
  refine RunsInside.bind (.of_runs (.of_quiet (quiet_selected _) extended) insideAfter) ?_
  intro name named insideNamed given
  obtain ⟨-, same⟩ := given
  refine RunsInside.look rfl (.pure insideNamed ⟨same ▸ whole, ?_⟩)
  intro m found type member
  cases found
  rw [same]
  rcases List.mem_cons.mp member with rfl | member
  · refine ⟨?_, supported.1, complete.1⟩
    refine ((parameters.built.grows (gives.built.grows sound.closed).closed).resolved
      (gives.built.grows sound.closed).closed gives.resolved).imp fun bare => ?_
    exact ⟨child, reached, _, own, bare⟩
  · obtain ⟨p, listed, rfl⟩ := List.mem_map.mp member
    exact ⟨parameters.resolved p listed, passable.2 p listed⟩

theorem elaborates_addMethod (method : Method) (body : Body) :
    body.Elaborates (addMethod method body) := by
  cases body with
  | interface => exact .interface _ _ _ _ _
  | _ => exact .same _

theorem elaborates_setSuperclass (superclass : String) (body : Body) :
    body.Elaborates (setSuperclass superclass body) := by
  cases body with
  | interface => exact .interface _ _ _ _ _
  | _ => exact .same _

theorem mem_mentions_addMethod {method : Method} {body : Body} {key : String}
    (mentioned : key ∈ (addMethod method body).mentions) :
    key ∈ body.mentions ∨
      ∃ type ∈ method.result :: method.params.map (·.type), key ∈ type.mentions := by
  cases body with
  | interface =>
      simp only [addMethod, Body.mentions, Body.types, Body.superclass?, List.flatMap_append,
        List.flatMap_singleton, List.mem_append] at mentioned ⊢
      rcases mentioned with (mentioned | mentioned) | mentioned
      · exact .inl (.inl mentioned)
      · exact .inr (List.mem_flatMap.mp mentioned)
      · exact .inl (.inr mentioned)
  | _ => exact .inl mentioned

theorem mem_mentions_setSuperclass {superclass : String} {body : Body} {key : String}
    (mentioned : key ∈ (setSuperclass superclass body).mentions) :
    key ∈ body.mentions ∨ key = superclass := by
  cases body with
  | interface =>
      simp only [setSuperclass, Body.mentions, Body.types, Body.superclass?,
        List.mem_append, Option.toList_some, List.mem_singleton] at mentioned ⊢
      exact mentioned.imp_left .inl
  | _ => exact .inl mentioned

theorem buildInterfacePart_runs {owner : String} {child : Nat}
    (declares : Declares forest declare) (sound : s.Sound) (closed : store.Closed)
    (fresh : usr ∉ store.keys) (reached : forest.Leads number child)
    (declared : Declared forest .interface number store usr s.store) :
    Runs forest s (buildInterfacePart declare usr owner child)
      (fun _ grown => Declared forest .interface number store usr grown)
      (store.Extends forest (forest.Leads number)) := by
  have extended := declared.built.extended closed (onward_leads number)
  refine Runs.look rfl ?_
  split
  · rename_i superclass _ found
    have leads := reached.reference (Cursor.mem_references_of_referenced found)
    refine Runs.bind ((declares .interface superclass s sound (by simp [Form.Fits])).rebase extended
      fun _ further => leads.trans further) fun parent grown _ inner => ?_
    refine Runs.amend.imp fun _ _ changed => ?_
    rw [changed]
    refine (declared.grow closed fresh (by simp)
      (inner.built.mono fun _ further => leads.trans further)).elaborate fresh (by simp)
      (elaborates_setSuperclass parent) fun body other mentioned => ?_
    rcases mem_mentions_setSuperclass mentioned with mentioned | rfl
    · exact .inl mentioned
    · exact .inr inner.published
  · exact .pure declared
  · split
    · refine Runs.bind ((buildMethod_runs declares sound reached).rebase extended
        fun _ leads => leads) ?_
      intro method grown _ given
      obtain ⟨built, each⟩ := given
      have declared := declared.grow closed fresh (by simp) built
      split
      · rename_i method
        refine Runs.amend.imp fun _ _ changed => ?_
        rw [changed]
        refine declared.elaborate fresh (by simp) (elaborates_addMethod method)
          fun body other mentioned => ?_
        refine (mem_mentions_addMethod mentioned).imp_right ?_
        intro given
        obtain ⟨type, member, mentioned⟩ := given
        exact (each method rfl type member).1.known other mentioned
      · exact .pure declared
    · exact .pure declared

theorem buildInterface_runs (declares : Declares forest declare) (sound : s.Sound) :
    Runs forest s (buildInterface declare number)
      (fun _ grown =>
        Declared forest .interface number s.store (forest.cursor number).usr grown)
      (s.store.Extends forest (forest.Leads number)) := by
  have unchanged : s.store.Extends forest (forest.Leads number) s.store := .refl sound.closed
  refine Runs.look rfl (Runs.look rfl ?_)
  refine Runs.bind (.of_quiet (quiet_selected _) unchanged) fun name named kept same => ?_
  refine Runs.look rfl (Runs.look rfl ?_)
  refine Runs.bind (.publish (same ▸ unchanged)) ?_
  intro _ begun keeps given
  obtain ⟨fresh, published⟩ := given
  rw [same] at fresh published
  have declared : Declared forest .interface number s.store (forest.cursor number).usr
      begun.store := by
    rw [published]
    exact .blank rfl fresh (.interface _) (by simp) (by simp [Declaration.isRecord])
  have extended := declared.built.extended sound.closed (onward_leads number)
  split
  · exact (Runs.of_quiet (quiet_debug _ _) extended).imp fun _ _ same => same ▸ declared
  · rename_i defined found
    have leads : forest.Leads number defined :=
      (Forest.Leads.refl forest number).reference (Cursor.mem_references_of_definition found)
    refine Runs.bind (.of_quiet (quiet_debug _ _) extended) fun _ logged kept' same => ?_
    refine Runs.look rfl (Runs.forM (same ▸ declared) ?_)
    intro child member current kept'' declared
    have closed := (declared.built.grows sound.closed).closed
    exact buildInterfacePart_runs declares
      (sound.of_kept (((kept.trans keeps).trans kept').trans kept'') closed) sound.closed fresh
      (leads.reference (Cursor.mem_references_of_child member)) declared

/-! All together. -/

theorem build_runs (declares : Declares forest declare) (form : Form) (sound : s.Sound)
    (fits : form.Fits (forest.cursor number).kind) :
    Runs forest s (build declare form number)
      (fun _ grown => Declared forest form number s.store (forest.cursor number).usr grown)
      (s.store.Extends forest (forest.Leads number)) := by
  cases form with
  | typedef => exact buildTypedef_runs declares sound
  | record => exact buildRecord_runs declares sound (fits rfl)
  | enumeration => exact buildEnumeration_runs sound
  | interface => exact buildInterface_runs declares sound

theorem Declared.of_published {form : Form}
    (published : (forest.cursor number).usr ∈ store.keys) :
    Declared forest form number store (forest.cursor number).usr store where
  built := .refl _
  same := rfl
  published := published
  heads := .refl
  records := fun _ _ _ _ _ _ complete absent =>
    absurd (mem_keys_of_body? complete.choose_spec) absent
  own := fun _ => .refl _

/-- What is published already is left alone, anything else is built in its own frame. -/
theorem declareWithin_declares (fuel : Nat) : Declares forest (declareWithin fuel) := by
  induction fuel with
  | zero => exact fun _ _ s sound _ => ⟨Kept.refl s, .refl sound.closed⟩
  | succ fuel induction =>
      intro form number s sound fits
      refine Runs.look rfl (Runs.look rfl ?_)
      split
      · rename_i published
        exact .pure (.of_published (contains_iff_mem_keys.mp published))
      · refine Runs.bind (Runs.withFrame (build_runs induction form (sound.entered _) fits)) ?_
        exact fun _ _ _ declared => .pure declared

theorem declare_declares : Declares forest Session.declare :=
  fun form number s sound fits =>
    Runs.look rfl (declareWithin_declares _ form number s sound fits)

end LuaBinder.Session
