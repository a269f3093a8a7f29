import LuaBinder.Proofs.Declaration.Growth
import LuaBinder.Proofs.Session.Step
import Mathlib.Logic.Relation

namespace LuaBinder

/-! Records that lose their layout, and with them all complete records that hold them by
value. -/

namespace Store

variable {store grown : Store} {key other holder held : String} {members : List Member}
  {cleared : List String}

/-- A record with a known layout. -/
def Complete (store : Store) (key : String) (members : List Member) : Prop :=
  ∃ kind, store.body? key = some (.record kind false members)

instance (store : Store) (key : String) (members : List Member) :
    Decidable (store.Complete key members) :=
  match found : store.body? key with
  | some (.record _ false own) => decidable_of_iff (own = members) (by simp [Complete, found])
  | some (.record _ true _) => .isFalse (by simp [Complete, found])
  | some (.function _) | some (.enumeration _ _) | some (.interface _ _ _)
  | some (.typedef _) | some (.global _ _ _) | some (.constant _ _) | none =>
      .isFalse (by simp [Complete, found])

/-- A complete record holds a compound by value, through arrays and typedefs. -/
def Holds (store : Store) (holder held : String) : Prop :=
  ∃ members, store.Complete holder members ∧
    ∃ m ∈ members, store.held? m.type = some held

/-- The store without the layouts of some records. -/
def clear (store : Store) (cleared : List String) : Store :=
  store.mapBodies fun key body => if key ∈ cleared then Session.clearRecord body else body

theorem modify_clearRecord (key : String) :
    (store.modify key fun d => { d with body := Session.clearRecord d.body }) =
      store.clear [key] := by
  simp [modify_eq_amendBody, amendBody, clear]

theorem clear_clear (first second : List String) :
    (store.clear first).clear second = store.clear (first ++ second) := by
  simp only [clear, mapBodies_mapBodies]
  congr
  funext key body
  by_cases inFirst : key ∈ first <;> by_cases inSecond : key ∈ second <;>
    cases body <;> simp [inFirst, inSecond, Session.clearRecord]

@[simp] theorem keys_clear : (store.clear cleared).keys = store.keys := keys_mapBodies

theorem body?_clear :
    (store.clear cleared).body? key =
      if key ∈ cleared then (store.body? key).map Session.clearRecord
      else store.body? key := by
  rw [clear, body?_mapBodies]
  by_cases member : key ∈ cleared <;> simp [member]

theorem underlying?_clear : (store.clear cleared).underlying? key = store.underlying? key := by
  refine underlying?_mapBodies fun body _ => ?_
  split
  · cases body <;> rfl
  · rfl

theorem unfolds_clear {peel : CType → CType} {steps : Nat} {type last : CType} :
    (store.clear cleared).Unfolds peel steps type last ↔
      store.Unfolds peel steps type last :=
  unfolds_congr fun _ => underlying?_clear

theorem held?_clear {type : CType} :
    (store.clear cleared).held? type = store.held? type := by
  refine Option.ext fun key => ?_
  simp only [held?_eq_some_iff, unfolds_clear]

theorem complete_clear :
    (store.clear cleared).Complete key members ↔
      key ∉ cleared ∧ store.Complete key members := by
  unfold Complete
  rw [body?_clear]
  by_cases member : key ∈ cleared
  · simp only [member, if_true, not_true, false_and, iff_false]
    intro given
    obtain ⟨kind, found⟩ := given
    obtain ⟨body, -, same⟩ := Option.map_eq_some_iff.mp found
    cases body <;> simp [Session.clearRecord] at same
  · simp [member]

theorem holds_clear :
    (store.clear cleared).Holds holder held ↔ holder ∉ cleared ∧ store.Holds holder held := by
  simp only [Holds, complete_clear, held?_clear]
  constructor
  · intro given
    obtain ⟨members, ⟨kept, complete⟩, found⟩ := given
    exact ⟨kept, members, complete, found⟩
  · intro given
    obtain ⟨kept, members, complete, found⟩ := given
    exact ⟨members, ⟨kept, complete⟩, found⟩

/-- Some record and whatever holds it, directly or through others, has been cleared, and
no complete record holds any of them any more. -/
structure Clears (store : Store) (key : String) (cleared : List String) : Prop where
  self : key ∈ cleared
  holding : ∀ other ∈ cleared, Relation.ReflTransGen store.Holds other key
  settled : ∀ holder held, (store.clear cleared).Holds holder held → held ∉ cleared

/-- Whatever holds the record, directly or through others, has been cleared. -/
theorem Clears.mem (clears : store.Clears key cleared)
    (holds : Relation.ReflTransGen store.Holds other key) : other ∈ cleared := by
  induction holds using Relation.ReflTransGen.head_induction_on with
  | refl => exact clears.self
  | head holds _ member =>
      by_contra kept
      exact clears.settled _ _ (holds_clear.mpr ⟨kept, holds⟩) member

theorem Grows.mem_keys_of_holds (grows : store.Grows grown) (closed : store.Closed)
    (published : holder ∈ store.keys)
    (holds : Relation.ReflTransGen grown.Holds holder held) : held ∈ store.keys := by
  induction holds with
  | refl => exact published
  | @tail middle held _ holds induction =>
      obtain ⟨members, ⟨kind, complete⟩, m, member, found⟩ := holds
      rw [grows.body? induction] at complete
      have known : store.Knows m.type := fun key mentioned =>
        closed.known middle _ complete key
          (Body.mem_mentions_of_mem_types (List.mem_map_of_mem member) mentioned)
      rw [grows.held? closed known, held?_eq_some_iff] at found
      obtain ⟨steps, walk⟩ := found
      exact walk.knows closed CType.mentions_element known held (by simp [CType.mentions])

theorem Grows.clear (grows : store.Grows grown) (closed : store.Closed)
    (fresh : key ∉ store.keys)
    (holding : ∀ other ∈ cleared, Relation.ReflTransGen grown.Holds other key) :
    store.Grows (grown.clear cleared) where
  entries := by
    refine prefix_mapBodies grows.entries fun other published body => ?_
    have kept : other ∉ cleared := fun member =>
      fresh (grows.mem_keys_of_holds closed published (holding other member))
    simp [kept]
  closed := by
    refine grows.closed.mapBodies fun other body found mentioned member => ?_
    refine grows.closed.known other body found mentioned ?_
    split at member
    · cases body with
      | record => simp [Session.clearRecord, Body.mentions, Body.types, Body.superclass?]
          at member
      | _ => exact member
    · exact member

end Store

namespace Session

open Header Store

variable {forest : Forest} {s : Session}

theorem holds_of_heldMember? {store : Store} {usr holder : String} {d : Declaration}
    {m : Member} (found : store.lookup? holder = some d)
    (held : heldMember? store usr d = some m) : store.Holds holder usr := by
  unfold heldMember? at held
  split at held
  · rename_i kind members body
    exact ⟨members, ⟨kind, by simp [Store.body?, found, body]⟩, m,
      List.mem_of_find?_eq_some held, by simpa using List.find?_some held⟩
  · simp at held

theorem not_holds_of_heldMember? {store : Store} {usr holder : String} {d : Declaration}
    (found : store.lookup? holder = some d)
    (held : heldMember? store usr d = none) : ¬ store.Holds holder usr := by
  intro given
  obtain ⟨members, ⟨kind, complete⟩, m, member, same⟩ := given
  have body : d.body = .record kind false members := by
    simpa [Store.body?, found] using complete
  simp only [heldMember?, body, List.find?_eq_none] at held
  exact held m member (by simpa using same)

/-- While the holders of a record are gone through: of what is cleared, only the record
itself is still held, and only by holders to come. -/
structure Clearing (store : Store) (usr : String) (before : List String) (after : Store)
    (cleared : List String) : Prop where
  result : after = store.clear cleared
  self : usr ∈ cleared
  holding : ∀ other ∈ cleared, Relation.ReflTransGen store.Holds other usr
  pending : ∀ holder held, after.Holds holder held → held ∈ cleared →
    held = usr ∧ holder ∉ before

namespace Clearing

variable {store after : Store} {usr holder : String} {before cleared more : List String}

theorem start (store : Store) (usr : String) :
    Clearing store usr [] (store.clear [usr]) [usr] where
  result := rfl
  self := by simp
  holding := by
    intro other member
    rw [List.mem_singleton.mp member]
  pending := fun _ _ _ member => ⟨List.mem_singleton.mp member, by simp⟩

theorem skip (clearing : Clearing store usr before after cleared)
    (apart : ¬ after.Holds holder usr) :
    Clearing store usr (before ++ [holder]) after cleared where
  result := clearing.result
  self := clearing.self
  holding := clearing.holding
  pending := by
    intro other held holds member
    obtain ⟨rfl, later⟩ := clearing.pending other held holds member
    have differs : other ≠ holder := fun same => apart (same ▸ holds)
    exact ⟨rfl, by simp [later, differs]⟩

theorem trans_holds (clearing : Clearing store usr before after cleared)
    (holds : after.Holds holder usr)
    (holding : ∀ other ∈ more, Relation.ReflTransGen after.Holds other holder) :
    ∀ other ∈ cleared ++ more, Relation.ReflTransGen store.Holds other usr := by
  have weaker : ∀ source target, after.Holds source target → store.Holds source target := by
    intro source target found
    rw [clearing.result, holds_clear] at found
    exact found.2
  intro other member
  rcases List.mem_append.mp member with member | member
  · exact clearing.holding other member
  · exact (Relation.ReflTransGen.mono weaker _ _ (holding other member)).tail (weaker _ _ holds)

theorem clear (clearing : Clearing store usr before after cleared)
    (holds : after.Holds holder usr) (clears : after.Clears holder more) :
    Clearing store usr (before ++ [holder]) (after.clear more) (cleared ++ more) where
  result := by rw [clearing.result, clear_clear]
  self := List.mem_append_left _ clearing.self
  holding := clearing.trans_holds holds clears.holding
  pending := by
    intro other held found member
    have kept := clears.settled other held found
    have earlier : held ∈ cleared :=
      (List.mem_append.mp member).resolve_right kept
    rw [holds_clear] at found
    obtain ⟨rfl, later⟩ := clearing.pending other held found.2 earlier
    have differs : other ≠ holder := fun same => found.1 (same ▸ clears.self)
    exact ⟨rfl, by simp [later, differs]⟩

theorem clears (clearing : Clearing store usr store.keys after cleared) :
    store.Clears usr cleared where
  self := clearing.self
  holding := clearing.holding
  settled := by
    intro holder held found member
    obtain ⟨-, later⟩ := clearing.pending holder held (clearing.result ▸ found) member
    obtain ⟨members, ⟨kind, complete⟩, -⟩ := (holds_clear.mp found).2
    exact later (mem_keys_of_body? complete)

end Clearing

/-- A step clears records that hold the given one and, if it succeeds, leaves none that
does. -/
def Opaques (forest : Forest) (usr : String) (s : Session) (step : Step Unit) : Prop :=
  step.Ensures forest s
    (fun _ after => Kept s after ∧
      ∃ cleared, after.store = s.store.clear cleared ∧ s.store.Clears usr cleared)
    (fun _ after => Kept s after ∧
      ∃ cleared, after.store = s.store.clear cleared ∧
        ∀ other ∈ cleared, Relation.ReflTransGen s.store.Holds other usr)

def clearHolder (fuel : Nat) (usr holder : String) : Step Unit := do
  match ← lookup? holder with
  | none => return ()
  | some d =>
      match heldMember? (← getStore) usr d with
      | none => return ()
      | some m =>
          debug "struct" ("---- Removed " ++ d.kind.name ++
            " members, reason: member " ++ Text.quoted m.name ++ " became opaque")
          makeOpaque fuel holder (incompleteMember m.name)

theorem clearHolder_ensures {fuel : Nat} {usr holder : String} {before : List String}
    {current : Session}
    (nested : ∀ usr problem s, Opaques forest usr s (makeOpaque fuel usr problem))
    (invariant : Kept s current ∧
      ∃ cleared, Clearing s.store usr before current.store cleared) :
    (clearHolder fuel usr holder).Ensures forest current
      (fun _ after => Kept s after ∧
        ∃ cleared, Clearing s.store usr (before ++ [holder]) after.store cleared)
      (fun _ after => Kept s after ∧
        ∃ cleared, after.store = s.store.clear cleared ∧
          ∀ other ∈ cleared, Relation.ReflTransGen s.store.Holds other usr) := by
  obtain ⟨kept, cleared, clearing⟩ := invariant
  simp only [clearHolder, Step.ensures_bind, ensures_lookup?]
  cases found : current.store.lookup? holder with
  | none =>
      refine ⟨kept, cleared, clearing.skip ?_⟩
      intro given
      obtain ⟨members, ⟨kind, complete⟩, -⟩ := given
      simp [Store.body?, found] at complete
  | some d =>
      simp only [Step.ensures_bind, ensures_getStore]
      cases held : heldMember? current.store usr d with
      | none => exact ⟨kept, cleared, clearing.skip (not_holds_of_heldMember? found held)⟩
      | some m =>
          -- the store has changed, but held compounds are those of the store before
          have holds := holds_of_heldMember? found held
          simp only [Step.ensures_bind, ensures_debug]
          refine (nested holder _ _).imp ?_ ?_
          · intro _ after given
            obtain ⟨keeps, more, result, clears⟩ := given
            refine ⟨kept.trans ⟨keeps.policy, keeps.context, keeps.frames⟩,
              cleared ++ more, ?_⟩
            rw [result]
            exact clearing.clear holds clears
          · intro _ after given
            obtain ⟨keeps, more, result, holding⟩ := given
            refine ⟨kept.trans ⟨keeps.policy, keeps.context, keeps.frames⟩,
              cleared ++ more, ?_, clearing.trans_holds holds holding⟩
            rw [result, ← clear_clear, ← clearing.result]

/-- The record and whatever holds it by value lose their layouts; a failure cannot have
cleared anything else. -/
theorem makeOpaque_ensures (fuel : Nat) (usr problem : String) (s : Session) :
    Opaques forest usr s (makeOpaque fuel usr problem) := by
  induction fuel generalizing usr problem s with
  | zero => exact ⟨Kept.refl s, [], by simp [Store.clear, mapBodies], by simp⟩
  | succ fuel induction =>
      simp only [Opaques, makeOpaque, Step.ensures_bind, ensures_amend, ensures_lookup?,
        modify_clearRecord]
      have started := Clearing.start s.store usr
      refine (quiet_diagnose _ _ _ _).ensures (fun _ middle kept same => ?_)
        fun _ after kept same => ⟨kept.of_store, [usr], same, started.holding⟩
      simp only [ensures_getStore]
      -- the keys gone through are those whose declarations do not hold the record any more
      have loop := ensures_forM middle.store.keys
        (fun before current => Kept s current ∧
          ∃ cleared, Clearing s.store usr before current.store cleared)
        ⟨kept.of_store, [usr], same ▸ started⟩
        fun _ holder _ _ _ invariant => clearHolder_ensures induction invariant
      refine loop.imp ?_ fun _ _ failed => failed
      intro _ after given
      obtain ⟨kept, cleared, clearing⟩ := given
      rw [same, keys_clear] at clearing
      exact ⟨kept, cleared, clearing.result, clearing.clears⟩

end Session

end LuaBinder
