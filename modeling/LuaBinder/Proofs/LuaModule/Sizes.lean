import LuaBinder.Proofs.LuaModule.Precedence
import LuaBinder.Proofs.Session.Emission
import LuaBinder.Proofs.Session.History
import LuaBinder.Proofs.Session.Termination
import Mathlib.Data.Prod.Basic

namespace LuaBinder

open Header Relation

/-! Where a declaration needs the size of a compound, the definition of the compound comes
first in the C declarations, except for typedefs of arrays: they do not depend on the
compounds in their elements. -/

/-- The types of the values that a declaration holds. -/
def Body.holdings : Body → List CType
  | .record _ _ members => members.map (·.type)
  | .global type _ _ => [type]
  | _ => []

/-- An array of so many elements. -/
def Header.NativeType.arrayOf (element : NativeType) (count : Int) : NativeType :=
  .known { TypeFacts.plain .constantArray none with count } .absent element .absent .absent
    .absent .nil

namespace LuaModule

/-- The size of the type is made from the declaration, through arrays and typedefs; the
typedefs on the way are such declarations too. -/
inductive Embeds (store : Store) : CType → String → Prop
  | compound {key : String} : Embeds store (.compound key) key
  | typedef {key : String} : Embeds store (.typedef key) key
  | array {element : CType} {length : Option Int} {key : String}
      (embeds : Embeds store element key) : Embeds store (.array element length) key
  | unfold {type : CType} {key other : String} (found : store.underlying? key = some type)
      (embeds : Embeds store type other) : Embeds store (.typedef key) other

/-- Values of the one declaration are part of those that the other holds. -/
def Contains (store : Store) (key other : String) : Prop :=
  ∃ d, store.lookup? key = some d ∧ ∃ type ∈ d.body.holdings, Embeds store type other

/-- The declaration has no forward declaration in C. -/
def NeedsDefinition (store : Store) (key : String) : Prop :=
  ∃ d, store.lookup? key = some d ∧ needsDefinition d = true

variable {store : Store} {bindings : List Binding} {type : CType} {key other : String}

theorem Embeds.of_element : (type : CType) → Embeds store type.element key →
    Embeds store type key
  | .array inner _, embeds => .array (of_element inner embeds)
  | .pointer _ _, embeds | .primitive _, embeds | .compound _, embeds | .typedef _, embeds
  | .function _ _ _, embeds | .unsupported _, embeds => embeds

theorem embeds_of_mem_byValueWithin (fuel : Nat)
    (member : key ∈ byValueWithin store fuel type) : Embeds store type key := by
  induction fuel generalizing type with
  | zero => simp [byValueWithin] at member
  | succ fuel induction =>
      rw [byValueWithin, byValueWith_eq] at member
      refine .of_element type ?_
      split at member
      · rename_i own element
        rw [element, List.mem_singleton.mp member]
        exact .compound
      · rename_i own element
        rw [element]
        rcases List.mem_cons.mp member with rfl | member
        · exact .typedef
        · cases found : store.underlying? own with
          | none => simp [found] at member
          | some inner => exact .unfold found (induction (by simpa [found] using member))
      · simp at member

theorem mem_byValueWithin_of_held (fuel : Nat)
    (held : store.heldWithin fuel type = some key) :
    key ∈ byValueWithin store fuel type := by
  induction fuel generalizing type with
  | zero => simp [Store.heldWithin] at held
  | succ fuel induction =>
      rw [Store.heldWithin, Store.heldWith_eq] at held
      rw [byValueWithin, byValueWith_eq]
      split at held
      · rename_i own element
        obtain ⟨inner, found, held⟩ := Option.bind_eq_some_iff.mp held
        simp [element, found, induction held]
      · rename_i own element
        simp_all
      · simp at held

theorem needsDefinition_of_mem_byName (member : key ∈ byName store type) :
    NeedsDefinition store key := by
  obtain ⟨-, needed⟩ := List.mem_filter.mp member
  cases found : store.lookup? key with
  | none => simp [found] at needed
  | some d => exact ⟨d, found, by simpa [found] using needed⟩

theorem mem_byName (mentioned : key ∈ type.mentions) (needs : NeedsDefinition store key) :
    key ∈ byName store type := by
  obtain ⟨d, found, needed⟩ := needs
  exact List.mem_filter.mpr ⟨mentioned, by simp [found, needed]⟩

/-- A declaration depends on what it cannot do without a definition of, and on what is part
of it. -/
theorem dependencies_cases {d : Declaration} (member : key ∈ dependencies store d) :
    NeedsDefinition store key ∨ ∃ type ∈ d.body.holdings, Embeds store type key := by
  rw [dependencies] at member
  split at member
  · rename_i kind incomplete members body
    obtain ⟨m, listed, member⟩ := List.mem_flatMap.mp member
    refine (List.mem_append.mp member).imp needsDefinition_of_mem_byName fun part => ?_
    refine ⟨m.type, ?_, embeds_of_mem_byValueWithin _ part⟩
    simpa [body, Body.holdings] using ⟨m, listed, rfl⟩
  · exact .inl (needsDefinition_of_mem_byName member)
  · refine .inl ?_
    rcases List.mem_append.mp member with member | member
    · exact needsDefinition_of_mem_byName member
    · obtain ⟨p, -, member⟩ := List.mem_flatMap.mp member
      exact needsDefinition_of_mem_byName member
  · rename_i type const exposes body
    refine (List.mem_append.mp member).imp needsDefinition_of_mem_byName fun part => ?_
    exact ⟨type, by simp [body, Body.holdings], embeds_of_mem_byValueWithin _ part⟩
  · simp at member

theorem mem_dependencies_of_held {d : Declaration} (holds : type ∈ d.body.holdings)
    (held : store.held? type = some key) : key ∈ dependencies store d := by
  have part : key ∈ byValue store type := mem_byValueWithin_of_held _ held
  cases body : d.body <;> simp only [body, Body.holdings, List.not_mem_nil, List.mem_map,
    List.mem_singleton] at holds
  case record kind incomplete members =>
    obtain ⟨m, listed, rfl⟩ := holds
    simp only [dependencies, body]
    exact List.mem_flatMap.mpr ⟨m, listed, List.mem_append_right _ part⟩
  case global =>
    subst holds
    simp only [dependencies, body]
    exact List.mem_append_right _ part

theorem exists_typedef (found : store.underlying? key = some type) :
    ∃ d, store.lookup? key = some d ∧ d.body = .typedef (some type) := by
  unfold Store.underlying? at found
  cases located : store.lookup? key with
  | none => simp [located] at found
  | some d =>
      refine ⟨d, rfl, ?_⟩
      cases body : d.body <;> simp_all [Declaration.underlying?]

/-- What stands for arrays of a compound has a binding. -/
theorem supported_of_unfolds {steps : Nat}
    (walk : store.Unfolds CType.element steps type (.compound key)) :
    store.isUnsupported type = false := by
  have onward : store.Unfolds CType.core steps type (.compound key) := by
    generalize last : CType.compound key = final at walk
    induction walk with
    | @stop type =>
        have core : type.core = type.element := by
          rw [← CType.core_element, ← last]
          rfl
        rw [← core]
        exact .stop (by simp [core, ← last])
    | @step type _ _ passed _ named found _ induction =>
        refine .step ?_ found (induction last)
        rw [← CType.core_element, named]
        rfl
  rw [Bool.eq_false_iff]
  intro unsupported
  obtain ⟨_, reason, walk'⟩ := Store.isUnsupported_iff.mp unsupported
  exact CType.noConfusion (onward.unique walk').2

/-- The list has declarations of the store. -/
def Agrees (store : Store) (bindings : List Binding) : Prop :=
  ∀ key d, (key, d) ∈ bindings → store.lookup? key = some d

section

variable (agrees : Agrees store bindings)
include agrees

theorem depends_cases (depends : Depends store bindings key other) :
    NeedsDefinition store other ∨ Contains store key other := by
  obtain ⟨d, listed, needed, -⟩ := depends
  exact (dependencies_cases needed).imp_right fun part => ⟨d, agrees key d listed, part⟩

/-- A typedef or an enumeration leads to such declarations only. -/
theorem NeedsDefinition.of_leads (needs : NeedsDefinition store key)
    (leads : Leads store bindings key other) : NeedsDefinition store other := by
  induction leads with
  | refl => exact needs
  | tail _ depends induction =>
      rcases depends_cases agrees depends with needs | contains
      · exact needs
      · obtain ⟨d, found, needed⟩ := induction
        obtain ⟨own, located, type, holds, -⟩ := contains
        obtain rfl := Option.some.inj (found.symm.trans located)
        cases body : d.body <;> simp [needsDefinition, Body.holdings, body] at needed holds

/-- What leads to a declaration with a forward declaration contains it. -/
theorem contains_of_leads (forward : ¬ NeedsDefinition store other)
    (leads : Leads store bindings key other) : ReflTransGen (Contains store) key other := by
  induction leads using ReflTransGen.head_induction_on with
  | refl => exact .refl
  | head depends leads induction =>
      refine .head ((depends_cases agrees depends).resolve_left fun needs => ?_) induction
      exact forward (needs.of_leads agrees leads)

theorem not_leads_back (acyclic : ∀ key, ¬ TransGen (Contains store) key key) {late : String}
    (forward : ¬ NeedsDefinition store late) (leads : Leads store bindings key late)
    (depends : Depends store bindings key other) : ¬ Leads store bindings other key := by
  intro back
  have forward' (between : String) (onward : Leads store bindings between late) :
      ¬ NeedsDefinition store between := fun needs => forward (needs.of_leads agrees onward)
  have first := (depends_cases agrees depends).resolve_left (forward' other (back.trans leads))
  exact acyclic key (.head' first (contains_of_leads agrees (forward' key leads) back))

/-- A record or a global comes after the compound that it holds. -/
theorem idxOf_lt_of_held (distinct : (keysOf bindings).Nodup)
    (acyclic : ∀ key, ¬ TransGen (Contains store) key key) {user : String} {d : Declaration}
    (listed : (user, d) ∈ bindings) (there : key ∈ keysOf bindings)
    (holds : type ∈ d.body.holdings) (held : store.held? type = some key) :
    (keysOf (dependencyOrder store bindings)).idxOf key <
      (keysOf (dependencyOrder store bindings)).idxOf user := by
  refine idxOf_lt_of_depends distinct ⟨d, listed, mem_dependencies_of_held holds held, there⟩ ?_
  intro back
  have contains : Contains store user key :=
    ⟨d, agrees user d listed, type, holds,
      embeds_of_mem_byValueWithin _ (mem_byValueWithin_of_held _ held)⟩
  have forward : ¬ NeedsDefinition store user := by
    rintro ⟨own, found, needed⟩
    obtain rfl := Option.some.inj ((agrees user d listed).symm.trans found)
    cases body : d.body <;> simp [needsDefinition, Body.holdings, body] at needed holds
  exact acyclic user (.head' contains (contains_of_leads agrees forward back))

/-- What a typedef leads to that stands for arrays of an enumeration: the enumeration, and
typedefs nearer to it. -/
theorem leads_to_enumeration {steps : Nat} {constants : List EnumConstant} {incomplete : Bool}
    {final d : Declaration} (enumerated : store.lookup? other = some final)
    (body : final.body = .enumeration incomplete constants)
    (listed : (key, d) ∈ bindings) (stands : d.body = .typedef (some type))
    (walk : store.Unfolds CType.element steps type (.compound other)) {reached : String}
    (leads : Leads store bindings key reached) :
    reached = other ∨ ∃ own inner fewer, (reached, own) ∈ bindings ∧
      own.body = .typedef (some inner) ∧ fewer ≤ steps ∧
      store.Unfolds CType.element fewer inner (.compound other) := by
  induction leads with
  | refl => exact .inr ⟨d, type, steps, listed, stands, Nat.le_refl _, walk⟩
  | @tail between reached _ depends induction =>
      obtain ⟨own, there, needed, known⟩ := depends
      rcases induction with rfl | ⟨same, inner, fewer, listed', stands', short, walk'⟩
      · obtain rfl := Option.some.inj (enumerated.symm.trans (agrees _ _ there))
        simp [dependencies, body] at needed
      · obtain rfl : own = same := Option.some.inj
          ((agrees _ _ there).symm.trans (agrees _ _ listed'))
        have mentioned : reached ∈ inner.mentions := by
          simp only [dependencies, stands'] at needed
          exact (List.mem_filter.mp needed).1
        rw [← CType.mentions_element] at mentioned
        generalize last : CType.compound other = final at walk'
        cases walk' with
        | stop =>
            exact .inl (by simpa [← last, CType.mentions] using mentioned)
        | @step _ next _ passed fewer named found rest =>
            obtain rfl : reached = passed := by simpa [named, CType.mentions] using mentioned
            obtain ⟨binding, there, rfl⟩ := List.mem_map.mp known
            obtain ⟨e, located, stands''⟩ := exists_typedef found
            obtain rfl := Option.some.inj ((agrees _ _ there).symm.trans located)
            exact .inr ⟨binding.2, next, fewer, there, stands'', by omega, last ▸ rest⟩

/-- A typedef comes after the enumeration that it stands for arrays of. -/
theorem idxOf_lt_of_enumeration (distinct : (keysOf bindings).Nodup)
    (emits : ∀ key d, store.lookup? key = some d → Session.isEmitted store d = true →
      (key, d) ∈ bindings)
    {steps : Nat} {constants : List EnumConstant} {incomplete : Bool}
    {final d : Declaration} (enumerated : store.lookup? other = some final)
    (body : final.body = .enumeration incomplete constants)
    (listed : (key, d) ∈ bindings) (stands : d.body = .typedef (some type))
    (walk : store.Unfolds CType.element steps type (.compound other)) :
    (keysOf (dependencyOrder store bindings)).idxOf other <
      (keysOf (dependencyOrder store bindings)).idxOf key := by
  have there : (other, final) ∈ bindings :=
    emits other final enumerated (by simp [Session.isEmitted, body])
  induction steps generalizing key d type with
  | zero =>
      have element : type.element = .compound other := by
        generalize last : CType.compound other = final at walk
        cases walk
        rfl
      refine idxOf_lt_of_depends distinct ⟨d, listed, ?_, mem_keysOf there⟩ fun back => ?_
      · simp only [dependencies, stands]
        refine mem_byName ?_ ⟨final, enumerated, by simp [needsDefinition, body]⟩
        rw [← CType.mentions_element, element]
        exact List.mem_singleton_self other
      · rcases ReflTransGen.cases_head back with rfl | ⟨next, ⟨own, listed', needed, -⟩, -⟩
        · obtain rfl := Option.some.inj (enumerated.symm.trans (agrees _ _ listed))
          simp [body] at stands
        · obtain rfl := Option.some.inj (enumerated.symm.trans (agrees _ _ listed'))
          simp [dependencies, body] at needed
  | succ steps induction =>
      obtain ⟨passed, inner, named, found, rest⟩ : ∃ passed inner,
          type.element = .typedef passed ∧ store.underlying? passed = some inner ∧
            store.Unfolds CType.element steps inner (.compound other) := by
        cases walk with
        | step named found rest => exact ⟨_, _, named, found, rest⟩
      obtain ⟨e, located, stands'⟩ := exists_typedef found
      have listed' : (passed, e) ∈ bindings :=
        emits passed e located (by simp [Session.isEmitted, stands', supported_of_unfolds rest])
      have depends : Depends store bindings key passed := by
        refine ⟨d, listed, ?_, mem_keysOf listed'⟩
        simp only [dependencies, stands]
        refine mem_byName ?_ ⟨e, located, by simp [needsDefinition, stands']⟩
        rw [← CType.mentions_element, named]
        exact List.mem_singleton_self passed
      refine (induction listed' stands' rest).trans (idxOf_lt_of_depends distinct depends ?_)
      intro back
      rcases leads_to_enumeration agrees enumerated body listed' stands' rest back with
        rfl | ⟨own, inner', fewer, again, stands'', short, walk'⟩
      · obtain rfl := Option.some.inj (enumerated.symm.trans (agrees _ _ listed))
        simp [body] at stands
      · obtain rfl := Option.some.inj ((agrees _ _ listed).symm.trans (agrees _ _ again))
        obtain rfl : type = inner' := by simpa [stands] using stands''
        have same := (walk.unique walk').1
        omega

end

end LuaModule

namespace Session

open Store LuaModule

variable {store : Store} {key : String} {d : Declaration}

/-! What a run emits, as a list of bindings. -/

theorem keysOf_bindingsOf (usrs : List String) :
    keysOf (bindingsOf store usrs) = usrs.filter fun usr => (store.lookup? usr).isSome := by
  induction usrs with
  | nil => rfl
  | cons usr rest induction =>
      cases found : store.lookup? usr <;> simp_all [bindingsOf, keysOf]

theorem mem_bindingsOf {usrs : List String} (listed : key ∈ usrs)
    (found : store.lookup? key = some d) : (key, d) ∈ bindingsOf store usrs :=
  List.mem_filterMap.mpr ⟨key, listed, by simp [found]⟩

theorem mem_bindingsOf_emitted (closed : store.Closed) :
    (key, d) ∈ bindingsOf store (emitted store) ↔
      store.lookup? key = some d ∧ isEmitted store d = true := by
  simp only [bindingsOf, List.mem_filterMap, Option.map_eq_some_iff]
  constructor
  · rintro ⟨usr, listed, own, found, same⟩
    obtain ⟨rfl, rfl⟩ := Prod.mk.inj same
    obtain ⟨other, located, shown⟩ := (mem_emitted_iff closed).mp listed
    obtain rfl := Option.some.inj (found.symm.trans located)
    exact ⟨found, shown⟩
  · intro given
    exact ⟨key, (mem_emitted_iff closed).mpr ⟨d, given⟩, d, given.1, rfl⟩

theorem keysOf_bindingsOf_emitted (closed : store.Closed) :
    keysOf (bindingsOf store (emitted store)) = emitted store := by
  rw [keysOf_bindingsOf, List.filter_eq_self]
  intro usr listed
  obtain ⟨own, found, -⟩ := (mem_emitted_iff closed).mp listed
  simp [found]

theorem nodup_emitted (closed : store.Closed) : (emitted store).Nodup :=
  closed.nodup.sublist (List.filter_sublist.map _)

theorem emitted_of_run {forest : Forest} {policy : Policy} {commands : List Command}
    {top : List Nat} {usrs : List String} {s : Session}
    (ran : (runAll top).run forest (history forest policy commands) = (.ok usrs, s)) :
    s.store.Closed ∧ usrs = emitted s.store := by
  have steady : (history forest policy commands).Steady := steady_history policy commands
  have ended : ((runAll top).run forest (history forest policy commands)).2.Steady :=
    steady.run top
  have runs : Runs forest (history forest policy commands) (runAll top) _ _ :=
    runAll_runs top steady.toSound
  obtain ⟨-, -, -, -, listed⟩ := Step.Ensures.of_ok runs (congrArg Prod.fst ran)
  exact ⟨(ran ▸ ended).closed, by rwa [ran] at listed⟩

theorem isEmitted_of_isCompound (compound : d.isCompound = true) :
    isEmitted store d = true := by
  cases body : d.body <;> simp [isEmitted, body, Declaration.isCompound, Body.isCompound]
    at compound ⊢

theorem exists_enumeration (enumerated : d.kind = .enumeration) :
    ∃ incomplete constants, d.body = .enumeration incomplete constants := by
  unfold Declaration.kind at enumerated
  cases body : d.body <;> simp_all [Body.kind]
  case record kind _ _ => cases kind <;> simp [RecordKind.declarationKind] at enumerated

/-- Of the compounds, only enumerations have no forward declaration. -/
theorem not_needsDefinition (found : store.lookup? key = some d)
    (compound : d.isCompound = true) (other : d.kind ≠ .enumeration) :
    ¬ NeedsDefinition store key := by
  rintro ⟨own, located, needed⟩
  obtain rfl := Option.some.inj (found.symm.trans located)
  unfold Declaration.kind at other
  unfold Declaration.isCompound at compound
  cases body : d.body <;> simp_all [needsDefinition, Body.kind, Body.isCompound]

/-- In the C declarations of a run whose declarations do not contain themselves, records
and globals come after each compound that they hold, through arrays and typedefs. Typedefs
come after the enumerations that they stand for arrays of; before any other compound in
their elements they come exactly if the search meets them first. -/
theorem layouts_precede_sized_uses (forest : Forest) (policy : Policy)
    (commands : List Command) (top : List Nat) {usrs : List String} {s : Session}
    (ran : (runAll top).run forest (history forest policy commands) = (.ok usrs, s))
    (acyclic : ∀ key, ¬ TransGen (Contains s.store) key key) :
    let bindings := bindingsOf s.store usrs
    let order := keysOf (dependencyOrder s.store bindings)
    order.Perm usrs ∧
    ∀ user d key c, (user, d) ∈ bindings → s.store.lookup? key = some c →
      c.isCompound = true → key ∈ order ∧
      (∀ type ∈ d.body.holdings, s.store.held? type = some key →
        order.idxOf key < order.idxOf user) ∧
      ∀ type, d.body = .typedef (some type) → s.store.held? type = some key →
        (order.idxOf key < order.idxOf user ↔
          c.kind = .enumeration ∨ ¬ MeetsFirst s.store bindings user key usrs) := by
  obtain ⟨closed, rfl⟩ := emitted_of_run ran
  intro bindings order
  have keys : keysOf bindings = emitted s.store := keysOf_bindingsOf_emitted closed
  have distinct : (keysOf bindings).Nodup := keys ▸ nodup_emitted closed
  have agrees : Agrees s.store bindings :=
    fun key d listed => ((mem_bindingsOf_emitted closed).mp listed).1
  have emits (key : String) (d : Declaration) (found : s.store.lookup? key = some d)
      (shown : isEmitted s.store d = true) : (key, d) ∈ bindings :=
    (mem_bindingsOf_emitted closed).mpr ⟨found, shown⟩
  have perm : order.Perm (emitted s.store) := keys ▸ (dependencyOrder_perm distinct).map _
  refine ⟨perm, fun user d key c listed found compound => ?_⟩
  have there : key ∈ keysOf bindings :=
    mem_keysOf (emits key c found (isEmitted_of_isCompound compound))
  refine ⟨perm.mem_iff.mpr (keys ▸ there), ?_, ?_⟩
  · exact fun type holds held =>
      idxOf_lt_of_held agrees distinct acyclic listed there holds held
  · intro type stands held
    obtain ⟨steps, walk⟩ := held?_eq_some_iff.mp held
    by_cases enumerated : c.kind = .enumeration
    · refine iff_of_true ?_ (.inl enumerated)
      obtain ⟨incomplete, constants, body⟩ := exists_enumeration enumerated
      exact idxOf_lt_of_enumeration agrees distinct emits found body listed stands walk
    · have forward : ¬ NeedsDefinition s.store key :=
        not_needsDefinition found compound enumerated
      have differ : user ≠ key := by
        rintro rfl
        obtain rfl := Option.some.inj (found.symm.trans (agrees user d listed))
        simp [Declaration.isCompound, Body.isCompound, stands] at compound
      have apart (own other : String) (leads : Leads s.store bindings own key) :
          Depends s.store bindings own other → ¬ Leads s.store bindings other own :=
        not_leads_back agrees acyclic forward leads
      obtain ⟨first, last⟩ := dependencyOrder_decides distinct differ apart (mem_keysOf listed)
      rw [keys] at first last
      simp only [enumerated, false_or]
      exact ⟨fun before met => absurd (first met) (Nat.lt_asymm before), last⟩

def rowsUsr : String := "c:Rows"

/-- `typedef struct { int x; } Rows[4]; struct Table { Rows rows; };` -/
def namelessRows : Forest := ⟨#[
  { kind := .struct, usr := "c:row", anonymous := true, children := [1], definition := some 0 },
  { kind := .field, spelling := "x", type := .ofKind .int },
  { kind := .typedef, spelling := "Rows", usr := rowsUsr
    underlying := .arrayOf (.elaborated (.declared .record 0)) 4 },
  { kind := .struct, spelling := "Table", usr := "c:Table", children := [4]
    definition := some 3 },
  { kind := .field, spelling := "rows", type := .declared .typedef 2 }]⟩

def namelessRowsRun : Except Error (List String) × Session :=
  (runAll [0, 2, 3]).run namelessRows (history namelessRows {} [])

theorem contains_namelessRows (contains : Contains namelessRowsRun.2.store key other) :
    key = "c:Table" ∧ other ≠ "c:Table" := by
  have holdings : ∀ entry ∈ namelessRowsRun.2.store.entries, ∀ type ∈ entry.2.body.holdings,
      type = .primitive .int ∨ entry.1 = "c:Table" ∧ type = .typedef rowsUsr := by
    decide +kernel
  have underlying : namelessRowsRun.2.store.underlying? rowsUsr =
      some (.array (.compound "c:row") (some 4)) := by decide +kernel
  obtain ⟨d, found, type, holds, embeds⟩ := contains
  rcases holdings _ (mem_entries_of_lookup? found) type holds with rfl | ⟨rfl, rfl⟩
  · cases embeds
  · refine ⟨rfl, ?_⟩
    cases embeds with
    | typedef => decide
    | unfold found embeds =>
        obtain rfl := Option.some.inj (underlying.symm.trans found)
        cases embeds with
        | array embeds =>
            cases embeds
            decide

/-- The nameless structure is published for the typedef that names its array, which stays
in front of it. -/
theorem namelessRows_precede_layout :
    let store := namelessRowsRun.2.store
    let order := keysOf (dependencyOrder store (bindingsOf store [rowsUsr, "c:row", "c:Table"]))
    namelessRowsRun.1 = .ok [rowsUsr, "c:row", "c:Table"] ∧
      order.idxOf "c:row" < order.idxOf "c:Table" ∧
      ¬ order.idxOf "c:row" < order.idxOf rowsUsr := by
  intro store order
  have succeeded : namelessRowsRun.1 = .ok [rowsUsr, "c:row", "c:Table"] := by decide +kernel
  have acyclic (key : String) : ¬ TransGen (Contains namelessRowsRun.2.store) key key := by
    intro cycle
    obtain ⟨next, first, -⟩ := TransGen.head'_iff.mp cycle
    obtain ⟨middle, -, last⟩ := TransGen.tail'_iff.mp cycle
    exact (contains_namelessRows last).2 (contains_namelessRows first).1
  have row : (store.lookup? "c:row").map (fun d => (d.isCompound, d.kind)) =
      some (true, .struct) := by decide +kernel
  have table : (store.lookup? "c:Table").map (·.body.holdings) = some [.typedef rowsUsr] := by
    decide +kernel
  have underlying : store.underlying? rowsUsr =
      some (.array (.compound "c:row") (some 4)) := by decide +kernel
  have independent : ∀ binding ∈ bindingsOf store [rowsUsr, "c:row", "c:Table"],
      binding.1 = rowsUsr → dependencies store binding.2 = [] := by decide +kernel
  obtain ⟨c, found, facts⟩ := Option.map_eq_some_iff.mp row
  obtain ⟨compound, kind⟩ := Prod.mk.inj facts
  obtain ⟨holder, located, holdings⟩ := Option.map_eq_some_iff.mp table
  obtain ⟨rows, given, stands⟩ := exists_typedef underlying
  have met : MeetsFirst store (bindingsOf store [rowsUsr, "c:row", "c:Table"])
      rowsUsr "c:row" [rowsUsr, "c:row", "c:Table"] := by
    refine .alone .refl fun leads => ?_
    rcases ReflTransGen.cases_head leads with same | ⟨next, ⟨d, listed, needed, -⟩, -⟩
    · exact absurd same (by decide)
    · simp [independent _ listed rfl] at needed
  have ran := Prod.fst_eq_iff.mp succeeded
  obtain ⟨-, sized⟩ := layouts_precede_sized_uses namelessRows {} [] [0, 2, 3] ran acyclic
  refine ⟨succeeded, ?_, fun before => ?_⟩
  · exact (sized "c:Table" holder "c:row" c (mem_bindingsOf (by simp) located) found
      compound).2.1 (.typedef rowsUsr) (by simp [holdings]) (by decide +kernel)
  · have exact := (sized rowsUsr rows "c:row" c (mem_bindingsOf (by simp) given) found
      compound).2.2 _ stands (by decide +kernel)
    rcases exact.mp before with enumerated | missed
    · exact absurd (kind.symm.trans enumerated) (by decide)
    · exact missed met

end Session

end LuaBinder
