import LuaBinder.Proofs.Session.Agreeing.Values
import LuaBinder.Proofs.Session.Emission
import LuaBinder.Proofs.Session.Fares.Running

namespace LuaBinder

open Header Session

/-! A run publishes what its declarations start with, and all that this leads to. -/

theorem any_foldl {step : List β → α → List β} {p : β → Bool} {adds : α → Prop}
    (each : ∀ found item, (step found item).any p = true ↔ found.any p = true ∨ adds item)
    (items : List α) (found : List β) :
    (items.foldl step found).any p = true ↔ found.any p = true ∨ ∃ item ∈ items, adds item := by
  induction items generalizing found with
  | nil => simp
  | cons item rest induction =>
      rw [List.foldl_cons, induction, each, List.exists_mem_cons_iff, or_assoc]

/-- A typedef that names the anonymous declaration of the USR. -/
def Session.NamesTag (forest : Forest) (usr : String) (number : Nat) : Prop :=
  (forest.cursor number).kind = .typedef ∧
    ∃ tag, anonymousTag? forest (forest.cursor number).underlying = some tag ∧
      (forest.cursor tag).usr = usr

/-- The typedefs at the top name what they stand for, whatever their order. -/
theorem Session.any_typedefNames {forest : Forest} {top : List Nat} {usr : String} :
    (typedefNames forest top).any (·.1 == usr) = true ↔
      ∃ number ∈ top, NamesTag forest usr number := by
  refine (@any_foldl _ _ _ _ (NamesTag forest usr) (fun names number => ?_) top []).trans
    (by simp)
  dsimp only
  split
  · rename_i other
    simp [NamesTag, bne_iff_ne.mp other]
  rename_i kind
  simp only [bne_iff_ne, ne_eq, Decidable.not_not] at kind
  split
  · rename_i untagged
    simp [NamesTag, untagged]
  rename_i tag tagged
  split
  · rename_i already
    simp only [NamesTag, kind, tagged, Option.some.injEq, exists_eq_left', true_and]
    exact (or_iff_left_of_imp fun same => same ▸ already).symm
  · simp [NamesTag, kind, tagged]

/-- An anonymous enumeration at the top that a typedef names is named by one at the top. -/
def Sources.TagsNamed (sources : Sources) (top : List Nat) : Prop :=
  ∀ number ∈ top, (sources.forest.cursor number).kind = .enumeration →
    (sources.forest.cursor number).anonymous = true →
    sources.NamesByTypedef (sources.forest.cursor number).usr →
    (typedefNames sources.forest top).any
      (·.1 == (sources.forest.cursor number).usr) = true

namespace Forecast

variable {forecast : Forecast} {policy : Policy} {names : List (String × String)}
  {s : Session} {number : Nat} {key : String}

section

variable (coherent : forecast.Coherent) (allowed : policy ∈ forecast.sources.policies)
  (apart : forecast.sources.forest.ValuesApart policy)
include coherent allowed apart

theorem visit_lasts (stands : forecast.Stands policy names s) (framed : s.Framed)
    (tagged : (forecast.sources.forest.cursor number).kind = .enumeration →
      (forecast.sources.forest.cursor number).anonymous = true →
      forecast.sources.NamesByTypedef (forecast.sources.forest.cursor number).usr →
      names.any (·.1 == (forecast.sources.forest.cursor number).usr) = true)
    (reaches : ∀ key ∈ forecast.sources.forest.starts forecast.view policy names number,
      forecast.Reaches key) :
    forecast.Lasts policy names s (visit number)
      (forecast.sources.forest.starts forecast.view policy names number) := by
  have lasts {step : Step (List String)}
      (agreeing : forecast.Agreeing [] s step fun _ grown =>
        forecast.sources.forest.starts forecast.view policy names number ⊆ grown.keys) :
      forecast.Lasts policy names s step
        (forecast.sources.forest.starts forecast.view policy names number) :=
    .of_agreeing stands coherent allowed agreeing
  refine .look rfl ?_
  obtain rfl := stands.configured
  split
  case h_1 kind =>
    exact visitFunction_lasts kind coherent allowed apart framed stands reaches
  case h_2 kind | h_3 kind =>
    refine lasts ?_
    simp only [Forest.starts, kind] at reaches ⊢
    exact visitRecord_agrees coherent stands.agrees (by rw [kind]; rfl) reaches
  case h_4 kind =>
    refine lasts (visitEnumeration_agrees coherent stands.agrees kind (fun anonymous => ?_)
      reaches)
    rw [Bool.eq_iff_iff]
    exact ⟨fun named => (stands.named _ named).elim id (tagged kind anonymous),
      stands.stillNamed _⟩
  case h_5 kind =>
    refine lasts ?_
    simp only [Forest.starts, kind] at reaches ⊢
    exact visitTypedef_agrees coherent stands.agrees kind reaches
  case h_6 kind => exact visitGlobal_lasts coherent allowed apart stands kind reaches
  case h_7 kind =>
    refine lasts ?_
    simp only [Forest.starts, kind] at reaches ⊢
    exact visitMacro_agrees coherent stands.agrees kind reaches
  case h_8 kind =>
    refine lasts ?_
    simp only [Forest.starts, kind] at reaches ⊢
    exact visitInterface_agrees coherent stands.agrees kind reaches
  case h_9 =>
    refine .bind_silent (silent_debug _ _) fun _ _ alike => .pure (stands.alike alike) ?_
    simp only [Forest.starts]
    exact List.nil_subset _

theorem visitAll_lasts (numbers : List Nat) (s : Session)
    (settled : forecast.sources.Settled s) (stands : forecast.Stands policy names s)
    (tagged : ∀ number ∈ numbers, (forecast.sources.forest.cursor number).kind = .enumeration →
      (forecast.sources.forest.cursor number).anonymous = true →
      forecast.sources.NamesByTypedef (forecast.sources.forest.cursor number).usr →
      names.any (·.1 == (forecast.sources.forest.cursor number).usr) = true)
    (reaches : ∀ number ∈ numbers,
      ∀ key ∈ forecast.sources.forest.starts forecast.view policy names number,
        forecast.Reaches key) :
    (visitAll numbers).Ensures forecast.sources.forest s
      (fun _ after => forecast.Stands policy names after ∧ ∀ number ∈ numbers,
        forecast.sources.forest.starts forecast.view policy names number ⊆ after.store.keys)
      fun _ _ => True := by
  induction numbers generalizing s with
  | nil => exact ⟨stands, by simp⟩
  | cons number rest induction =>
      have visited := Step.Ensures.and (Sources.visit_lands settled number)
        (visit_lasts coherent allowed apart stands settled.framed
          (tagged number List.mem_cons_self) (reaches number List.mem_cons_self))
      refine (visited.imp (fun _ _ given => given) fun _ _ _ => trivial).bind ?_
      intro _ middle given
      obtain ⟨⟨settled, -, -⟩, stands, published⟩ := given
      have later := induction middle settled stands
        (fun other member => tagged other (List.mem_cons_of_mem _ member))
        fun other member => reaches other (List.mem_cons_of_mem _ member)
      refine (Step.Ensures.and (Sources.visitAll_lands rest middle settled) later).imp
        (fun _ after given => ?_) fun _ _ _ => trivial
      obtain ⟨⟨-, -, keys⟩, stands, all⟩ := given
      refine ⟨stands, fun other member => ?_⟩
      rcases List.mem_cons.mp member with rfl | member
      · exact List.Subset.trans published keys.subset
      · exact all other member

end

/-- What is expected of a run of its own. -/
def ofRun (sources : Sources) (view : Store) (policy : Policy) (top : List Nat) : Forecast where
  sources := sources
  view := view
  starts := fun key => ∃ number ∈ top,
    key ∈ sources.forest.starts view policy (typedefNames sources.forest top) number

theorem Agrees.namedAs {store named : Store} (agrees : forecast.Agrees [] store)
    (naming : store.NamedAs named) : forecast.Agrees [] named :=
  agrees.of_same naming.keys_eq (fun _ => Store.status_congr naming.body?_eq)
    fun _ _ complete => complete.imp fun _ body => naming.body?_eq ▸ body

/-- The run has published what it starts with, and agrees with the view. -/
structure Completes (forecast : Forecast) (store : Store) : Prop where
  agrees : forecast.Agrees [] store
  started : ∀ key, forecast.starts key → key ∈ store.keys

theorem Completes.mem_keys_iff {store : Store} (completes : forecast.Completes store) :
    key ∈ store.keys ↔ forecast.Reaches key := by
  refine ⟨completes.agrees.reached key, fun reaches => ?_⟩
  obtain ⟨first, starts, leads⟩ := reaches
  exact (completes.agrees.sunk (completes.started first starts) (by simp) leads).1

theorem runAll_completes {sources : Sources} {view : Store} {top : List Nat}
    (coherent : sources.Coherent view) (allowed : policy ∈ sources.policies)
    (apart : sources.forest.ValuesApart policy) (tagged : sources.TagsNamed top) :
    (runAll top).Ensures sources.forest { policy }
      (fun _ after => (ofRun sources view policy top).Completes after.store)
      fun _ _ => True := by
  have settled : sources.Settled
      { policy, typedefNamed := typedefNames sources.forest top } :=
    ⟨⟨Store.closed_empty, by simp [Framed]⟩, .empty, allowed⟩
  refine .look rfl (Step.ensures_bind.mpr (ensures_modify.mpr ?_))
  have begun : (ofRun sources view policy top).Stands policy (typedefNames sources.forest top)
      { policy, typedefNamed := typedefNames sources.forest top } :=
    { configured := rfl
      agrees := .empty
      values := fun _ _ _ published => absurd published (by simp [Store.keys])
      dropped := fun _ dropped => absurd dropped List.not_mem_nil
      stillNamed := fun _ named => named
      named := fun _ named => .inl named }
  refine Step.Ensures.bind (visitAll_lasts coherent allowed apart top _ settled begun tagged
    fun number member key own => ⟨key, ⟨number, member, own⟩, .refl⟩) fun _ grown given => ?_
  obtain ⟨stands, published⟩ := given
  refine .look rfl ?_
  dsimp only
  split
  · trivial
  refine Step.ensures_bind.mpr (ensures_modify.mpr (.look rfl (.look rfl ?_)))
  have naming := Store.namedAs_nameAll [] grown.store.entries
  refine ⟨stands.agrees.namedAs naming, fun key started => ?_⟩
  obtain ⟨number, member, own⟩ := started
  have found := published number member own
  exact naming.keys_eq ▸ found

end Forecast

end LuaBinder
