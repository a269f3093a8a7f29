import LuaBinder.Proofs.Policy.Signatures
import LuaBinder.Proofs.Session.Fuel
import LuaBinder.Proofs.Session.Naming
import LuaBinder.Proofs.Session.Sources

namespace LuaBinder

open Header Session

/-! What the sources say of every published declaration, however far it has been built. -/

theorem Declaration.Names.usr {before after : Declaration} (names : before.Names after) :
    after.usr = before.usr := by
  rcases names with rfl | ⟨-, -, name, -, rfl⟩ <;> rfl

namespace Sources

variable {sources : Sources} {store middle grown : Store} {key : String} {body : Body}
  {type : CType} {d : Declaration}

/-- The type is what became of a native type of the sources. -/
def Yields (sources : Sources) (type : CType) : Prop :=
  ∃ native : NativeType, (∀ part ∈ native.parts, sources.Part part) ∧
    Resolution sources.forest native type

/-- A declaration with the USR can have such a body. -/
structure Describes (sources : Sources) (key : String) (body : Body) : Prop where
  presented : sources.Presents key body.kind
  yielded : ∀ type ∈ body.types, sources.Yields type
  parent : ∀ superclass ∈ body.superclass?, sources.Presents superclass .interface
  extra : ∀ f, body = .function f → ∀ p ∈ f.extra,
    ∃ policy ∈ sources.policies, policy.signatures.Appends p.type
  underlying : ∀ type, body.underlying? = some type → ∃ number,
    (sources.forest.cursor number).usr = key ∧
      Resolution sources.forest (sources.forest.cursor number).underlying type
  object : ∀ type const exposed, body = .global type const exposed → ∃ number,
    (sources.forest.cursor number).usr = key ∧ (sources.forest.cursor number).kind = .global ∧
      const = (sources.forest.cursor number).type.isConst ∧
      Resolution sources.forest (sources.forest.cursor number).type type

/-- Every entry stands under its own USR and is described by the sources. -/
def Describe (sources : Sources) (store : Store) : Prop :=
  ∀ entry ∈ store.entries, entry.2.usr = entry.1 ∧ sources.Describes entry.1 entry.2.body

namespace Describe

theorem empty : sources.Describe {} := by simp [Describe]

theorem push (described : sources.Describe store) (describes : sources.Describes d.usr d.body) :
    sources.Describe (store.push d) := by
  intro entry member
  rcases List.mem_append.mp member with member | member
  · exact described entry member
  · obtain rfl := List.mem_singleton.mp member
    exact ⟨rfl, describes⟩

theorem mapBodies {change : String → Body → Body} (described : sources.Describe store)
    (keeps : ∀ key body, sources.Describes key body → sources.Describes key (change key body)) :
    sources.Describe (store.mapBodies change) := by
  intro entry member
  obtain ⟨before, listed, rfl⟩ := List.mem_map.mp member
  obtain ⟨own, describes⟩ := described before listed
  exact ⟨own, keeps _ _ describes⟩

theorem amendBody {change : Body → Body} (described : sources.Describe store)
    (keeps : ∀ body, sources.Describes key body → sources.Describes key (change body)) :
    sources.Describe (store.amendBody key change) := by
  refine described.mapBodies fun other body describes => ?_
  by_cases same : other = key
  · subst same
    simpa using keeps body describes
  · simpa [same] using describes

theorem clear {cleared : List String} (described : sources.Describe store) :
    sources.Describe (store.clear cleared) := by
  refine described.mapBodies fun key body describes => ?_
  split
  · cases body with
    | record => exact ⟨describes.presented, by simp [clearRecord, Body.types],
        by simp [clearRecord, Body.superclass?], by simp [clearRecord],
        by simp [clearRecord, Body.underlying?], by simp [clearRecord]⟩
    | _ => exact describes
  · exact describes

theorem namedAs {named : Store} (described : sources.Describe store)
    (naming : store.NamedAs named) : sources.Describe named := by
  unfold Store.NamedAs at naming
  unfold Describe at described ⊢
  generalize store.entries = before, named.entries = after at naming described ⊢
  induction naming with
  | nil => exact fun _ member => absurd member List.not_mem_nil
  | @cons entry renamed _ _ same _ induction =>
      obtain ⟨key, names⟩ := same
      intro other member
      rcases List.mem_cons.mp member with rfl | member
      · obtain ⟨own, describes⟩ := described entry List.mem_cons_self
        rw [key, names.body, names.usr]
        exact ⟨own, describes⟩
      · exact induction (fun entry listed => described entry (List.mem_cons_of_mem _ listed))
          other member

theorem body? (described : sources.Describe store) (found : store.body? key = some body) :
    sources.Describes key body := by
  obtain ⟨d, located, rfl⟩ := Option.map_eq_some_iff.mp found
  exact (described _ (Store.mem_entries_of_lookup? located)).2

end Describe

/-- A step publishes behind what is published, and whatever it publishes or changes stays
described. -/
structure Progress (sources : Sources) (store grown : Store) : Prop where
  keys : store.keys <+: grown.keys
  described : sources.Describe store → sources.Describe grown

namespace Progress

theorem refl (store : Store) : sources.Progress store store := ⟨List.prefix_rfl, id⟩

theorem trans (first : sources.Progress store middle) (second : sources.Progress middle grown) :
    sources.Progress store grown :=
  ⟨first.keys.trans second.keys, second.described ∘ first.described⟩

theorem push (describes : sources.Describes d.usr d.body) :
    sources.Progress store (store.push d) where
  keys := by simp
  described := fun described => described.push describes

theorem amendBody {change : Body → Body}
    (keeps : ∀ body, sources.Describes key body → sources.Describes key (change body)) :
    sources.Progress store (store.amendBody key change) where
  keys := by simp
  described := fun described => described.amendBody keeps

theorem clear {cleared : List String} : sources.Progress store (store.clear cleared) where
  keys := by simp
  described := Describe.clear

end Progress

end Sources

/-! How steps over the sources fare. Whatever they publish is described, also when they
fail, and what they fail with can be told from the sources. -/

namespace Sources

variable {sources : Sources} {s : Session} {bound number : Nat}

def Fares (sources : Sources) (s : Session) (step : Step α) (good : α → Prop) : Prop :=
  Outcome sources.forest s step
    (fun value grown => good value ∧ sources.Progress s.store grown)
    (fun error grown => sources.Raises error ∧ sources.Progress s.store grown)

namespace Fares

variable {bad : Error → Store → Prop}

theorem bind {step : Step α} {next : α → Step β} {good : α → Prop} {good' : β → Prop}
    (first : sources.Fares s step good)
    (second : ∀ value middle, Kept s middle → sources.Progress s.store middle.store →
      good value → sources.Fares middle (next value) good') :
    sources.Fares s (step >>= next) good' := by
  refine Outcome.bind first fun value middle kept given => ?_
  obtain ⟨result, progress⟩ := given
  refine Outcome.imp (second value middle kept progress result) ?_ ?_
  all_goals
    intro _ grown given
    exact ⟨given.1, progress.trans given.2⟩

theorem imp {step : Step α} {good good' : α → Prop} (fares : sources.Fares s step good)
    (implied : ∀ value, good value → good' value) : sources.Fares s step good' :=
  Outcome.imp fares (fun value _ given => ⟨implied value given.1, given.2⟩)
    fun _ _ failed => failed

theorem pure {value : α} {good : α → Prop} (result : good value) :
    sources.Fares s (Pure.pure value) good := ⟨Kept.refl s, result, .refl _⟩

theorem map {step : Step α} {f : α → β} {good : α → Prop} {good' : β → Prop}
    (fares : sources.Fares s step good) (implied : ∀ value, good value → good' (f value)) :
    sources.Fares s (do return f (← step)) good' :=
  fares.bind fun value _ _ _ result => .pure (implied value result)

theorem look {step : Step α} {next : α → Step β} {good : β → Prop} {value : α}
    (answers : step.run sources.forest s = (.ok value, s))
    (rest : sources.Fares s (next value) good) : sources.Fares s (step >>= next) good :=
  Outcome.look answers rest

theorem throw {error : Error} {good : α → Prop} (raises : sources.Raises error) :
    sources.Fares s (throw error : Step α) good := ⟨Kept.refl s, raises, .refl _⟩

theorem raises_of_isSelection {error : Error} (selection : error.IsSelection) :
    sources.Raises error := by
  cases error <;> simp_all [Error.IsSelection, Raises]

theorem of_quiet {step : Step α} (quiet : step.Quiet) :
    sources.Fares s step fun _ => True := by
  refine (quiet sources.forest s).imp ?_ ?_
  · intro _ after given
    exact ⟨given.1, trivial, given.2 ▸ .refl _⟩
  · intro error after given
    exact ⟨given.2.1, raises_of_isSelection given.1, given.2.2 ▸ .refl _⟩

theorem bind_quiet {step : Step α} {next : α → Step β} {good : β → Prop}
    (quiet : step.Quiet)
    (second : ∀ value middle, Kept s middle → middle.store = s.store →
      sources.Fares middle (next value) good) :
    sources.Fares s (step >>= next) good := by
  refine Step.ensures_bind.mpr ((quiet sources.forest s).imp ?_ ?_)
  · intro value middle given
    obtain ⟨kept, same⟩ := given
    have fares := second value middle kept same
    unfold Fares at fares
    rw [same] at fares
    refine Step.Ensures.imp fares ?_ ?_
    all_goals
      intro _ after given
      exact ⟨kept.trans given.1, given.2⟩
  · intro error after given
    obtain ⟨selection, kept, same⟩ := given
    exact ⟨kept, raises_of_isSelection selection, same ▸ .refl _⟩

theorem bind_publish {d : Declaration} {next : Unit → Step β} {good : β → Prop}
    (fresh : sources.OneKind → d.usr ∉ s.store.keys)
    (describes : sources.Describes d.usr d.body)
    (second : ∀ middle, Kept s middle → d.usr ∉ s.store.keys →
      middle.store = s.store.push d → sources.Fares middle (next ()) good) :
    sources.Fares s (publish d >>= next) good := by
  refine Step.ensures_bind.mpr (ensures_publish (fun absent => ?_) fun taken => ?_)
  · have kept : Kept s { s with store := s.store.push d } := ⟨rfl, rfl, Nat.le_refl _⟩
    have progress : sources.Progress s.store (s.store.push d) := .push describes
    refine Step.Ensures.imp (second _ kept absent rfl) ?_ ?_
    all_goals
      intro _ after given
      exact ⟨kept.trans given.1, given.2.1, progress.trans given.2.2⟩
  · exact ⟨Kept.refl s, fun oneKind => fresh oneKind taken, .refl _⟩

theorem amend {usr : String} {change : Body → Body}
    (keeps : ∀ body, sources.Describes usr body → sources.Describes usr (change body)) :
    sources.Fares s (amend usr change) fun _ => True := by
  refine Outcome.amend.imp (fun _ grown changed => ?_) fun _ _ failed => failed
  exact ⟨trivial, changed ▸ .amendBody keeps⟩

theorem forM {step : α → Step Unit} {items : List α}
    (each : ∀ item ∈ items, ∀ current, Kept s current →
      sources.Progress s.store current.store →
      sources.Fares current (step item) fun _ => True) :
    sources.Fares s (items.forM step) fun _ => True := by
  refine (Outcome.forM (.refl s.store) fun item member current kept progress => ?_).imp
    (fun _ grown progress => ⟨trivial, progress⟩) fun _ _ failed => failed
  refine Outcome.imp (each item member current kept progress) ?_ ?_
  · exact fun _ _ given => progress.trans given.2
  · exact fun _ _ given => ⟨given.1, progress.trans given.2⟩

theorem withFrame {name : String} {step : Step α} {good : α → Prop}
    (inside : sources.Fares (s.entered name) step good) :
    sources.Fares s (withFrame name fun _ => step) good := by
  refine OutcomeInside.withFrame ?_
  refine Step.Ensures.imp (OutcomeInside.of_outcome inside (inside_entered s name)) ?_ ?_
  · exact fun _ _ given => ⟨given.1, given.2.2⟩
  · exact fun _ _ failed => failed

end Fares

/-- So many builds can still nest. -/
structure Ready (sources : Sources) (bound : Nat) (s : Session) : Prop where
  framed : s.Framed
  enough : (sources.forest.unpublished s.store).length < bound

theorem Ready.after {middle : Session} (ready : sources.Ready bound s) (kept : Kept s middle)
    (progress : sources.Progress s.store middle.store) : sources.Ready bound middle where
  framed := ready.framed.of_kept kept
  enough := Nat.lt_of_le_of_lt
    (Forest.unpublished_sublist progress.keys.subset).length_le ready.enough

/-- A declaration that is published leaves one build less that can nest. -/
theorem Ready.published {middle : Session} {d : Declaration}
    (ready : sources.Ready (bound + 1) s) (kept : Kept s middle)
    (usr : d.usr = (sources.forest.cursor number).usr) (fresh : d.usr ∉ s.store.keys)
    (published : middle.store = s.store.push d) : sources.Ready bound middle where
  framed := ready.framed.of_kept kept
  enough := by
    have fewer : (sources.forest.unpublished middle.store).length <
        (sources.forest.unpublished s.store).length :=
      Forest.length_unpublished_lt (by simp [published]) (usr ▸ fresh) (by simp [published, usr])
    exact Nat.lt_of_lt_of_le fewer (Nat.lt_succ_iff.mp ready.enough)

theorem Ready.entered (ready : sources.Ready bound s) (name : String) :
    sources.Ready bound (s.entered name) := ⟨ready.framed.entered name, ready.enough⟩

/-- What the sources request is declared, and given by its USR. -/
def Serves (sources : Sources) (bound : Nat) (declare : Declare) : Prop :=
  ∀ form number s, sources.Ready bound s → sources.Requests form number →
    sources.Fares s (declare form number) (· = (sources.forest.cursor number).usr)

/-! Types. -/

theorem unsupported_fares {native : NativeType} {spelling reason : String} :
    sources.Fares s (unsupported spelling reason) (Resolution sources.forest native) :=
  .bind (.of_quiet (quiet_debug _ _)) fun _ _ _ _ _ => .pure (.unsupported _)

section

variable {declare : Declare} (serves : sources.Serves bound declare)
include serves

theorem resolveCompound_fares (native : NativeType) {facts : TypeFacts TypeKind}
    (ready : sources.Ready bound s) (own : native.facts? = some facts) :
    sources.Fares s (resolveCompound declare facts) fun type =>
      Resolution sources.forest native type := by
  unfold resolveCompound
  split
  · exact unsupported_fares
  · rename_i number declared
    refine .look rfl ?_
    dsimp only
    split
    · rename_i form formed
      refine (serves form number s ready (requests_of_formOf? formed)).map ?_
      rintro _ rfl
      exact .compound (by simp [TypeTree.declaration?, own, declared]) formed
    · exact unsupported_fares

theorem resolveTypedef_fares {native : NativeType} (ready : sources.Ready bound s)
    (parts : ∀ part ∈ native.parts, sources.Part part) (kind : native.kind = .typedef)
    (declared : native.declaration? = some number) :
    sources.Fares s (resolveTypedef declare number) (Resolution sources.forest native) := by
  refine .look rfl ?_
  split
  · exact .pure (.primitive _)
  · refine (serves .typedef number s ready ?_).map ?_
    · exact .typedef (parts _ (TypeTree.mem_parts_self declared)) kind declared
    · rintro _ rfl
      exact .typedef kind declared

theorem resolveObject_fares (native : NativeType) (ready : sources.Ready bound s)
    (kind : native.kind = .objectPointer) :
    sources.Fares s (resolveObject declare native.pointee)
      (Resolution sources.forest native) := by
  cases pointee : native.pointee with
  | absent => exact .pure (.primitive _)
  | known facts =>
      simp only [resolveObject]
      split
      · refine (resolveCompound_fares serves native.pointee ready (by rw [pointee]; rfl)).map ?_
        exact fun _ resolution => .pointer (.inr kind) resolution
      · exact .pure (.primitive _)

end

mutual

theorem resolve_fares {declare : Declare} (serves : sources.Serves bound declare) :
    (native : NativeType) → (∀ part ∈ native.parts, sources.Part part) → (s : Session) →
    sources.Ready bound s →
    sources.Fares s (resolve declare native) (Resolution sources.forest native)
  | .absent, _, _, _ => unsupported_fares
  | .known facts pointee element named result canonical arguments, parts, s, ready => by
      obtain ⟨own, inPointee, inElement, inNamed, inResult, inCanonical, inArguments⟩ :=
        TypeTree.forall_parts_known.mp parts
      rw [resolve]
      split
      · exact .pure (.primitive _)
      · exact unsupported_fares
      split
      case h_1 kind => -- pointers
        have inner := resolve_fares serves pointee inPointee s ready
        exact inner.map fun _ resolution => .pointer (.inl kind) resolution
      case h_2 kind => -- pointers to objects
        exact resolveObject_fares serves
          (.known facts pointee element named result canonical arguments) ready kind
      case h_3 kind =>
        have inner := resolve_fares serves element inElement s ready
        exact inner.map fun _ resolution => .array (.inl kind) resolution
      case h_4 kind =>
        have inner := resolve_fares serves element inElement s ready
        exact inner.map fun _ resolution => .array (.inr kind) resolution
      case h_5 kind => -- elaborated types
        have inner := resolve_fares serves named inNamed s ready
        exact inner.imp fun _ resolution => .elaborated kind resolution
      case h_6 kind => -- typedefs
        split
        · rename_i number declared
          exact resolveTypedef_fares serves ready parts kind declared
        · rename_i undeclared
          split
          · rename_i absent
            obtain rfl : canonical = .absent := by
              cases canonical <;> simp [TypeTree.facts?] at absent
              rfl
            exact .throw ⟨_, own, kind, undeclared, rfl⟩
          · rename_i known
            have inner := resolve_fares serves canonical inCanonical s ready
            refine inner.imp fun _ resolution => .canonical (.inr ⟨kind, undeclared⟩) ?_
            cases canonical with
            | absent => simp [TypeTree.facts?] at known
            | known => exact resolution
      case h_7 | h_8 | h_9 => exact resolveCompound_fares serves _ ready rfl
      case h_10 kind => -- functions without a prototype
        have inner := resolve_fares serves result inResult s ready
        exact inner.map fun _ resolution => .bareFunction kind resolution
      case h_11 => -- function prototypes
        split
        · exact unsupported_fares
        have first := resolveAll_fares serves arguments inArguments 0 s ready
        refine first.bind fun params middle kept progress each => ?_
        have inner := resolve_fares serves result inResult middle (ready.after kept progress)
        refine inner.bind fun type after _ _ resolution => ?_
        refine .look rfl ?_
        split
        · rename_i usable
          choose! origin listed each using each
          exact .pure (.function origin listed each resolution usable)
        · exact unsupported_fares
      case h_12 kind => -- unexposed types
        split
        · exact unsupported_fares
        · rename_i known
          have inner := resolve_fares serves canonical inCanonical s ready
          refine inner.imp fun _ resolution => .canonical (.inl kind) ?_
          cases canonical with
          | absent => simp [TypeTree.facts?] at known
          | known => exact resolution
      case h_13 => exact unsupported_fares

theorem resolveAll_fares {declare : Declare} (serves : sources.Serves bound declare) :
    (natives : TypeTrees TypeKind) → (∀ part ∈ natives.parts, sources.Part part) →
    (index : Nat) → (s : Session) → sources.Ready bound s →
    sources.Fares s (resolveAll declare index natives) fun params =>
      ∀ p ∈ params, ∃ native ∈ natives.toList, Resolution sources.forest native p.2
  | .nil, _, _, _, _ => .pure (by simp)
  | .cons first rest, parts, index, s, ready => by
      obtain ⟨inFirst, inRest⟩ := TypeTrees.forall_parts_cons.mp parts
      rw [resolveAll]
      have here := resolve_fares serves first inFirst s ready
      refine here.bind fun type middle kept progress resolution => ?_
      have later := resolveAll_fares serves rest inRest (index + 1) middle
        (ready.after kept progress)
      refine later.map fun params each p member => ?_
      rcases List.mem_cons.mp member with rfl | member
      · exact ⟨first, by simp [TypeTrees.toList], resolution⟩
      · obtain ⟨native, listed, resolution⟩ := each p member
        exact ⟨native, by simp [TypeTrees.toList, listed], resolution⟩

end

end Sources

end LuaBinder
