import LuaBinder.Proofs.Session.Nesting

namespace LuaBinder

open Header Session

/-! Resolved types, layer by layer. -/

namespace Store

variable {forest : Forest} {reach : Nat → Prop} {bare weaker : Prop}
  {store middle grown : Store} {type result : CType} {key : String}
  {params : List (String × CType)} {const variadic : Bool} {length : Option Int}

namespace Resolved

theorem of_silent (silent : type.mentions = []) : store.Resolved bare type where
  known := fun key mentioned => by simp [silent] at mentioned
  usable := fun _ key found => by
    simpa [silent] using type.typedefs_subset_mentions found

theorem compound (published : key ∈ store.keys) : store.Resolved bare (.compound key) where
  known := fun _ mentioned => List.mem_singleton.mp mentioned ▸ published
  usable := fun _ _ found => by simp [CType.typedefs] at found

theorem typedef (published : key ∈ store.keys) : store.Resolved bare (.typedef key) where
  known := fun _ mentioned => List.mem_singleton.mp mentioned ▸ published
  usable := fun supported _ found => .inl (List.mem_singleton.mp found ▸ supported)

theorem pointer (resolved : store.Resolved bare type) :
    store.Resolved bare (.pointer type const) := ⟨resolved.known, resolved.usable⟩

theorem array (resolved : store.Resolved bare type) :
    store.Resolved bare (.array type length) := ⟨resolved.known, resolved.usable⟩

theorem function (resolved : store.Resolved bare result)
    (each : ∀ p ∈ params, store.Resolved bare p.2)
    (usable : isUsableSignature store params result = true) :
    store.Resolved bare (.function result (.ofList params) variadic) where
  known := by
    intro key mentioned
    rcases List.mem_append.mp mentioned with mentioned | mentioned
    · exact resolved.known key mentioned
    · obtain ⟨p, member, mentioned⟩ := Params.mem_mentions_ofList.mp mentioned
      exact (each p member).known key mentioned
  usable := by
    intro _ key found
    simp only [isUsableSignature, Bool.and_eq_true, List.all_eq_true, Bool.not_eq_true']
      at usable
    rcases List.mem_append.mp found with found | found
    · refine (resolved.usable usable.2 key found).imp_right fun hidden => ⟨hidden.1, ?_⟩
      exact CType.mem_bareTypedefs_function (.inl hidden.2)
    · obtain ⟨p, member, found⟩ := Params.mem_typedefs_ofList.mp found
      refine ((each p member).usable (usable.1 p member).1 key found).imp_right
        fun hidden => ⟨hidden.1, ?_⟩
      exact CType.mem_bareTypedefs_function (.inr ⟨p, member, hidden.2⟩)

/-- Without a prototype the result is not checked. -/
theorem bareFunction (resolved : store.Resolved weaker result) (holds : bare) :
    store.Resolved bare (.function result .nil variadic) where
  known := by
    intro key mentioned
    exact resolved.known key (by simpa [CType.mentions, Params.mentions] using mentioned)
  usable := fun _ key found =>
    .inr ⟨holds, by simpa [CType.typedefs, Params.typedefs, CType.bareTypedefs] using found⟩

end Resolved

/-- Declarations have been built, and a type that refers to them is known. -/
structure Gives (forest : Forest) (reach : Nat → Prop) (bare : Prop) (store : Store)
    (type : CType) (grown : Store) : Prop where
  built : Builds forest reach store grown
  resolved : grown.Resolved bare type
  heads : store.HeadsRecords forest type grown

namespace Gives

theorem imp (gives : store.Gives forest reach bare type grown) (implied : bare → weaker) :
    store.Gives forest reach weaker type grown :=
  ⟨gives.built, gives.resolved.imp implied, gives.heads⟩

theorem layer (built : Builds forest reach store grown) (resolved : grown.Resolved bare type)
    (other : ∀ key, type ≠ .compound key ∧ type ≠ .typedef key) :
    store.Gives forest reach bare type grown :=
  ⟨built, resolved, headsRecords_of_layer other⟩

theorem pointer (gives : store.Gives forest reach bare type grown) :
    store.Gives forest reach bare (.pointer type const) grown :=
  layer gives.built gives.resolved.pointer (by simp)

theorem array (gives : store.Gives forest reach bare type grown) :
    store.Gives forest reach bare (.array type length) grown :=
  layer gives.built gives.resolved.array (by simp)

end Gives

end Store

namespace Session

open Store

variable {forest : Forest} {reach : Nat → Prop} {base : Store} {s : Session}
  {declare : Declare}

/-! Types are resolved by declaring what they refer to. -/

/-- A declaration is published with all that it leads to. -/
structure Declared (forest : Forest) (form : Form) (number : Nat) (store : Store)
    (usr : String) (grown : Store) : Prop where
  built : Builds forest (forest.Leads number) store grown
  same : (forest.cursor number).usr = usr
  published : usr ∈ grown.keys
  heads : store.Heads forest usr grown
  records : form = .typedef → store.HeadsRecords forest (.typedef usr) grown
  /-- Whatever else is built for a record is built inside its own build. -/
  own : form = .record → Builds forest (· = number) store grown

/-- Records are only declared where a struct or a union stands. -/
def Form.Fits (form : Form) (kind : CursorKind) : Prop :=
  form = .record → formOf? kind = some .record

def Declares (forest : Forest) (declare : Declare) : Prop :=
  ∀ form number s, s.Sound → form.Fits (forest.cursor number).kind →
    Runs forest s (declare form number) (Declared forest form number s.store)
      (s.store.Extends forest (forest.Leads number))

/-- Whatever leads on from such declarations leads to one. -/
def Onward (forest : Forest) (reach : Nat → Prop) : Prop :=
  ∀ source target, reach source → forest.Leads source target → reach target

theorem onward_leads (number : Nat) : Onward forest (forest.Leads number) :=
  fun _ _ => Forest.Leads.trans

/-- The step gives a type and builds what it refers to. -/
def Resolves (forest : Forest) (reach : Nat → Prop) (bare : Prop) (s : Session)
    (step : Step CType) : Prop :=
  Runs forest s step (s.store.Gives forest reach bare) (s.store.Extends forest reach)

theorem Resolves.imp {bare weaker : Prop} {step : Step CType}
    (resolves : Resolves forest reach bare s step) (implied : bare → weaker) :
    Resolves forest reach weaker s step :=
  Runs.imp resolves fun _ _ gives => gives.imp implied

theorem Resolves.map {bare : Prop} {step : Step CType} {wrap : CType → CType}
    (resolves : Resolves forest reach bare s step)
    (wrapped : ∀ type grown, s.store.Gives forest reach bare type grown →
      s.store.Gives forest reach bare (wrap type) grown) :
    Resolves forest reach bare s (do return wrap (← step)) :=
  Runs.bind resolves fun type _ _ gives => .pure (wrapped type _ gives)

theorem resolves_pure {bare : Prop} {type : CType} (silent : type.mentions = []) :
    Resolves forest reach bare s (pure type) :=
  .pure
    { built := .refl _
      resolved := .of_silent silent
      heads := fun _ _ _ _ _ complete absent =>
        absurd (mem_keys_of_body? complete.choose_spec) absent }

theorem resolves_unsupported {bare : Prop} {spelling reason : String} (sound : s.Sound) :
    Resolves forest reach bare s (unsupported spelling reason) := by
  refine Runs.bind (.of_quiet (quiet_debug _ _) (.refl sound.closed)) ?_
  intro _ middle _ same
  have resolves : Resolves forest reach bare middle
      (pure (.unsupported (reason ++ ": " ++ spelling))) := resolves_pure rfl
  rw [Resolves, same] at resolves
  exact resolves

theorem resolves_function {bare : Prop} {facts : TypeFacts TypeKind}
    {params : List (String × CType)} {result : CType} {store : Store}
    (extended : store.Extends forest reach s.store)
    (built : Builds forest reach store s.store) (resolved : s.store.Resolved bare result)
    (each : ∀ p ∈ params, s.store.Resolved bare p.2) :
    Runs forest s (finishFunction facts params result) (store.Gives forest reach bare)
      (store.Extends forest reach) := by
  refine Runs.look rfl ?_
  split
  · rename_i usable
    exact .pure (.layer built (resolved.function each usable) (by simp))
  · refine Runs.bind (.of_quiet (quiet_debug _ _) extended) ?_
    intro _ middle _ same
    exact .pure (same ▸ .layer built (.of_silent rfl) (by simp))

section

variable (declares : Declares forest declare) (onward : Onward forest reach)
include declares onward

theorem resolves_declare {bare : Prop} {form : Form} {number : Nat} {wrap : String → CType}
    (sound : s.Sound) (fits : form.Fits (forest.cursor number).kind) (reached : reach number)
    (wrapped : ∀ usr grown, Declared forest form number s.store usr grown →
      grown.Resolved bare (wrap usr) ∧ s.store.HeadsRecords forest (wrap usr) grown) :
    Resolves forest reach bare s (do return wrap (← declare form number)) := by
  refine Runs.bind ((declares form number s sound fits).rebase (.refl sound.closed)
    fun target leads => onward number target reached leads) ?_
  intro usr middle _ declared
  exact .pure
    { built := declared.built.mono fun target leads => onward number target reached leads
      resolved := (wrapped usr _ declared).1
      heads := (wrapped usr _ declared).2 }

theorem resolves_compound {bare : Prop} {facts : TypeFacts TypeKind} (sound : s.Sound)
    (reached : ∀ number ∈ facts.declaration, reach number) :
    Resolves forest reach bare s (resolveCompound declare facts) := by
  unfold resolveCompound
  split
  · exact resolves_unsupported sound
  · rename_i number found
    refine Runs.look rfl ?_
    dsimp only
    split
    · rename_i form formed
      have fits : form.Fits (forest.cursor number).kind := fun same => same ▸ formed
      refine resolves_declare declares onward sound fits (reached number found) ?_
      intro usr grown declared
      exact ⟨.compound declared.published, declared.heads.headsRecords⟩
    · exact resolves_unsupported sound

theorem resolves_typedef {bare : Prop} {number : Nat} (sound : s.Sound)
    (reached : reach number) :
    Resolves forest reach bare s (resolveTypedef declare number) := by
  refine Runs.look rfl ?_
  split
  · exact resolves_pure rfl
  · refine resolves_declare declares onward sound (by simp [Form.Fits]) reached ?_
    intro usr grown declared
    exact ⟨.typedef declared.published, declared.records rfl⟩

theorem resolves_object {bare : Prop} {type : NativeType} (sound : s.Sound)
    (reached : ∀ number ∈ type.declarations, reach number) :
    Resolves forest reach bare s (resolveObject declare type) := by
  cases type with
  | absent => exact resolves_pure rfl
  | known facts =>
      simp only [resolveObject]
      split
      · refine (resolves_compound declares onward sound ?_).map fun _ _ => Gives.pointer
        intro number found
        exact reached number (by simp [TypeTree.declarations, Option.mem_def.mp found])
      · exact resolves_pure rfl

end

mutual

theorem resolves_type (declares : Declares forest declare) (onward : Onward forest reach) :
    (type : NativeType) → (s : Session) → s.Sound →
    (∀ number ∈ type.declarations, reach number) →
    Resolves forest reach type.HasBareFunction s (resolve declare type)
  | .absent, s, sound, _ => resolves_unsupported sound
  | .known facts pointee element named result canonical arguments, s, sound, reached => by
      simp only [TypeTree.declarations, List.mem_append, Option.mem_toList] at reached
      have compound : Resolves forest reach (NativeType.HasBareFunction
          (.known facts pointee element named result canonical arguments)) s
          (resolveCompound declare facts) := resolves_compound declares onward sound
        fun number found => reached number (by simp [Option.mem_def.mp found])
      rw [resolve]
      split
      · exact resolves_pure rfl
      · exact resolves_unsupported sound
      split
      case h_1 => -- pointers
        have inner := resolves_type declares onward pointee s sound fun _ found =>
          reached _ (by simp [found])
        refine (inner.imp fun bare => ?_).map fun _ _ => Gives.pointer
        simp [NativeType.hasBareFunction_known, bare]
      case h_2 => -- pointers to objects
        exact resolves_object declares onward sound fun _ found => reached _ (by simp [found])
      case h_3 | h_4 => -- arrays
        have inner := resolves_type declares onward element s sound fun _ found =>
          reached _ (by simp [found])
        refine (inner.imp fun bare => ?_).map fun _ _ => Gives.array
        simp [NativeType.hasBareFunction_known, bare]
      case h_5 => -- elaborated types
        have inner := resolves_type declares onward named s sound fun _ found =>
          reached _ (by simp [found])
        refine inner.imp fun bare => ?_
        simp [NativeType.hasBareFunction_known, bare]
      case h_6 => -- typedefs
        split
        · rename_i number found
          exact resolves_typedef declares onward sound (reached number (by simp [found]))
        split
        · exact ⟨Kept.refl s, .refl sound.closed⟩
        · have inner := resolves_type declares onward canonical s sound fun _ found =>
            reached _ (by simp [found])
          refine inner.imp fun bare => ?_
          simp [NativeType.hasBareFunction_known, bare]
      case h_7 | h_8 | h_9 => exact compound
      case h_10 kind => -- functions without a prototype
        have inner := resolves_type declares onward result s sound fun _ found =>
          reached _ (by simp [found])
        refine Runs.bind inner fun type middle _ gives => ?_
        refine .pure (.layer gives.built (gives.resolved.bareFunction ?_) (by simp))
        simp [NativeType.hasBareFunction_known, kind]
      case h_11 => -- function prototypes
        split
        · exact resolves_unsupported sound
        have first := resolves_all declares onward arguments 0 s sound fun _ found =>
          reached _ (by simp [found])
        refine Runs.bind first fun params middle kept each => ?_
        have extended := each.1.extended sound.closed onward
        have inner := resolves_type declares onward result middle
          (sound.of_kept kept extended.closed) fun _ found => reached _ (by simp [found])
        refine Runs.bind (inner.rebase extended fun _ reached => reached) ?_
        intro type after _ gives
        refine resolves_function
          (extended.trans (gives.built.extended extended.closed onward))
          (each.1.trans gives.built) (gives.resolved.imp fun bare => ?_) fun p member => ?_
        · simp [NativeType.hasBareFunction_known, bare]
        · refine ((gives.built.grows extended.closed).resolved extended.closed
            (each.2 p member)).imp fun bare => ?_
          simp [NativeType.hasBareFunction_known, bare]
      case h_12 => -- unexposed types
        split
        · exact resolves_unsupported sound
        · have inner := resolves_type declares onward canonical s sound fun _ found =>
            reached _ (by simp [found])
          refine inner.imp fun bare => ?_
          simp [NativeType.hasBareFunction_known, bare]
      case h_13 => exact resolves_unsupported sound

theorem resolves_all (declares : Declares forest declare) (onward : Onward forest reach) :
    (types : TypeTrees TypeKind) → (index : Nat) → (s : Session) →
    s.Sound → (∀ number ∈ types.declarations, reach number) →
    Runs forest s (resolveAll declare index types)
      (fun params grown => Builds forest reach s.store grown ∧
        ∀ p ∈ params, grown.Resolved (.functionNoPrototype ∈ types.kinds) p.2)
      (s.store.Extends forest reach)
  | .nil, _, _, _, _ => .pure ⟨.refl _, by simp⟩
  | .cons first rest, index, s, sound, reached => by
      simp only [TypeTrees.declarations, List.mem_append] at reached
      rw [resolveAll]
      have here := resolves_type declares onward first s sound fun _ found =>
        reached _ (.inl found)
      refine Runs.bind here ?_
      intro type middle kept gives
      have extended := gives.built.extended sound.closed onward
      have later := resolves_all declares onward rest (index + 1) middle
        (sound.of_kept kept extended.closed) fun _ found => reached _ (.inr found)
      refine Runs.bind (later.rebase extended fun _ reached => reached) ?_
      intro params after _ given
      obtain ⟨built, each⟩ := given
      refine .pure ⟨gives.built.trans built, fun p member => ?_⟩
      rcases List.mem_cons.mp member with rfl | member
      · refine ((built.grows extended.closed).resolved extended.closed gives.resolved).imp
          fun bare => ?_
        exact List.mem_append_left _ bare
      · exact (each p member).imp fun bare => List.mem_append_right _ bare

end

end Session

end LuaBinder
