import LuaBinder.Proofs.Session.Answer
import LuaBinder.Proofs.Session.Opacity
import LuaBinder.Proofs.Session.Sources

namespace LuaBinder

open Header Session

/-! A view of a forest says beforehand what becomes of each declaration. A session that is
under way agrees with it about all that is finished, whatever it began with. -/

namespace CType

variable {type : CType} {key : String}

theorem head?_of_core (named : type.core = .typedef key) : type.head? = some key := by
  simp [head?, named]

theorem head?_of_element (own : type.element = .compound key) : type.head? = some key := by
  have core : type.core = .compound key := by
    rw [← core_element, own, CType.core]
    all_goals simp
  simp [head?, core, own]

theorem mem_mentions_of_head? (head : type.head? = some key) : key ∈ type.mentions := by
  unfold head? at head
  split at head
  · rename_i other core
    obtain rfl := Option.some.inj head
    rw [← mentions_core, core]
    simp [mentions]
  · split at head
    · rename_i other element
      obtain rfl := Option.some.inj head
      rw [← mentions_element, element]
      simp [mentions]
    · simp at head

end CType

def Body.status (body : Body) : Option CType × Bool := (body.underlying?, body.isIncomplete)

namespace Store

variable {store grown : Store} {type : CType} {key : String}

theorem isIncomplete_compound :
    store.isIncomplete (.compound key) = ((store.body? key).map Body.isIncomplete).getD false := by
  unfold isIncomplete body?
  cases found : store.lookup? key <;>
    simp [target, targetWithin, found, Declaration.isIncomplete]

theorem status_eq :
    store.status key = ((store.body? key).map Body.status).getD (none, false) := by
  rw [status, underlying?_eq, isIncomplete_compound]
  cases store.body? key <;> rfl

theorem status_congr (same : grown.body? key = store.body? key) :
    grown.status key = store.status key := by
  rw [status_eq, status_eq, same]

theorem underlying?_of_status (same : grown.status key = store.status key) :
    grown.underlying? key = store.underlying? key := congrArg Prod.fst same

/-- A type is incomplete as a compound is that it stands for. -/
theorem isIncomplete_iff_compound :
    store.isIncomplete type = true ↔
      ∃ steps key, store.Unfolds id steps type (.compound key) ∧
        store.isIncomplete (.compound key) = true := by
  rw [isIncomplete_iff]
  constructor
  · intro given
    obtain ⟨steps, key, body, walk, found, incomplete⟩ := given
    exact ⟨steps, key, walk, by simp [isIncomplete_compound, found, incomplete]⟩
  · intro given
    obtain ⟨steps, key, walk, incomplete⟩ := given
    rw [isIncomplete_compound] at incomplete
    cases found : store.body? key with
    | none => simp [found] at incomplete
    | some body => exact ⟨steps, key, body, walk, found, by simpa [found] using incomplete⟩

/-- A type without a binding, or one whose layout depends on a compound without a layout. -/
def Lost (view : Store) (type : CType) : Prop :=
  view.isUnsupported type = true ∨
    ∃ key, view.held? type = some key ∧ view.isIncomplete (.compound key) = true

instance (view : Store) (type : CType) : Decidable (view.Lost type) :=
  decidable_of_iff
    (view.isUnsupported type = true ∨
      ((view.held? type).any fun key => view.isIncomplete (.compound key)) = true)
    (or_congr_right (Option.any_eq_true _ _))

theorem lost_of_isIncomplete (incomplete : store.isIncomplete type = true) : store.Lost type := by
  obtain ⟨steps, key, walk, incomplete⟩ := isIncomplete_iff_compound.mp incomplete
  exact .inr ⟨key, held?_eq_some_iff.mpr ⟨steps, walk.held rfl⟩, incomplete⟩

theorem isUnsupported_pointer {const : Bool} :
    store.isUnsupported (.pointer type const) = store.isUnsupported type := by
  simp [isUnsupported, base, baseWithin, CType.baseWith]

end Store

theorem Session.Form.kind_inj {form other : Form} {kind more : CursorKind}
    (same : form.kind kind = other.kind more) : form = other := by
  have record (kind : CursorKind) : (recordKind kind).declarationKind = .struct ∨
      (recordKind kind).declarationKind = .union := by
    cases recordKind kind <;> simp [RecordKind.declarationKind]
  rcases record kind with first | first <;> rcases record more with second | second <;>
    clear record <;> cases form <;> cases other <;> simp_all [Form.kind]

namespace Sources

variable {sources : Sources} {view : Store} {form other : Form} {number more : Nat}
  {key held : String} {type : CType}

def Requested (sources : Sources) (key : String) : Prop :=
  ∃ form number, sources.Requests form number ∧ (sources.forest.cursor number).usr = key

/-- To build one declaration, the other one is asked for. -/
def Needs (sources : Sources) (view : Store) (key other : String) : Prop :=
  ∃ form number, sources.Requests form number ∧ (sources.forest.cursor number).usr = key ∧
    other ∈ (sources.forest.report number).asked view form

def LeadsTo (sources : Sources) (view : Store) : String → String → Prop :=
  Relation.ReflTransGen (sources.Needs view)

/-- Every declaration comes to what the view says of it, as far as the view can tell from
its report. A declaration that the view calls lost does not lead back to one whose outcome
depends on it, so there is no way to ask for it while that one is being built. -/
structure Coherent (sources : Sources) (view : Store) : Prop where
  oneKind : sources.OneKind
  oneReport : sources.forest.OneReport
  status : ∀ form number, sources.Requests form number →
    view.status (sources.forest.cursor number).usr =
      (sources.forest.report number).status view form
  others : ∀ key, ¬ sources.Requested key → view.status key = (none, false)
  apart : ∀ form number, sources.Requests form number →
    ∀ type ∈ (sources.forest.report number).weighed view form, view.Lost type →
      ∀ key ∈ type.head?, ¬ sources.LeadsTo view key (sources.forest.cursor number).usr

namespace Coherent

variable (coherent : sources.Coherent view)
include coherent

theorem needs_iff (requested : sources.Requests form number) (key : String) :
    sources.Needs view (sources.forest.cursor number).usr key ↔
      key ∈ (sources.forest.report number).asked view form := by
  refine ⟨fun given => ?_, fun asked => ⟨form, number, requested, rfl, asked⟩⟩
  obtain ⟨other, more, also, same, asked⟩ := given
  have presented : sources.Presents (sources.forest.cursor more).usr
      (form.kind (sources.forest.cursor number).kind) := by
    rw [same]
    exact requested
  obtain rfl := Form.kind_inj (coherent.oneKind _ _ _ also presented)
  rwa [coherent.oneReport more number same] at asked

theorem needs_of_underlying? (found : view.underlying? key = some type)
    (mentioned : held ∈ type.mentions) : sources.Needs view key held := by
  have requested : sources.Requested key := by
    by_contra absent
    have status := coherent.others key absent
    rw [Store.status, Prod.mk.injEq, found] at status
    simp at status
  obtain ⟨form, number, requested, rfl⟩ := requested
  refine (coherent.needs_iff requested _).mpr ?_
  have status := coherent.status form number requested
  rw [Store.status, found] at status
  cases form <;> simp only [Report.status, Prod.mk.injEq, reduceCtorEq, false_and,
    Option.some.injEq] at status
  exact Answer.mentions_ofType _ (status.1 ▸ mentioned)

/-- What a type holds by value, its head leads to. -/
theorem leadsTo_of_unfolds {steps : Nat} {last : CType}
    (walk : view.Unfolds CType.element steps type last) (ended : last = .compound held) :
    ∃ head ∈ type.head?, sources.LeadsTo view head held := by
  induction walk with
  | stop => exact ⟨held, CType.head?_of_element ended, .refl⟩
  | @step type inner last key _ named found _ induction =>
      obtain ⟨head, own, leads⟩ := induction ended
      refine ⟨key, CType.head?_of_core ?_, .head ?_ leads⟩
      · rw [← CType.core_element, named, CType.core]
        all_goals simp
      · exact coherent.needs_of_underlying? found (CType.mem_mentions_of_head? own)

end Coherent

/-- What is closed under asking leads nowhere else. -/
theorem mem_of_leadsTo {keys : List String} (named : "" ∉ sources.presented.map (·.1))
    (closed : ∀ request ∈ sources.requests, (sources.forest.cursor request.2).usr ∈ keys →
      (sources.forest.report request.2).asked view request.1 ⊆ keys)
    (leads : sources.LeadsTo view key held) (own : key ∈ keys) : held ∈ keys := by
  induction leads with
  | refl => exact own
  | tail _ needs induction =>
      obtain ⟨form, number, requested, rfl, asked⟩ := needs
      exact closed _ ((mem_requests_iff named).mpr requested) induction asked

/-- The requests can be gone through. What is lost belongs to some declarations that lead
to no others. -/
theorem coherent_of_listed (sunk : List String) (oneKind : sources.OneKind)
    (oneReport : sources.forest.OneReport) (named : "" ∉ sources.presented.map (·.1))
    (status : ∀ request ∈ sources.requests,
      view.status (sources.forest.cursor request.2).usr =
        (sources.forest.report request.2).status view request.1)
    (others : ∀ key ∈ view.keys, view.status key ≠ (none, false) →
      ∃ request ∈ sources.requests, (sources.forest.cursor request.2).usr = key)
    (closed : ∀ request ∈ sources.requests, (sources.forest.cursor request.2).usr ∈ sunk →
      (sources.forest.report request.2).asked view request.1 ⊆ sunk)
    (apart : ∀ request ∈ sources.requests,
      ∀ type ∈ (sources.forest.report request.2).weighed view request.1, view.Lost type →
        (sources.forest.cursor request.2).usr ∉ sunk ∧ ∀ key ∈ type.head?, key ∈ sunk) :
    sources.Coherent view where
  oneKind := oneKind
  oneReport := oneReport
  status := fun form number requested => status _ ((mem_requests_iff named).mpr requested)
  others := by
    intro key unrequested
    by_cases published : key ∈ view.keys
    · by_contra differs
      obtain ⟨⟨form, number⟩, listed, same⟩ := others key published differs
      exact unrequested ⟨form, number, (mem_requests_iff named).mp listed, same⟩
    · rw [Store.status_eq, Store.body?_eq_none_iff.mpr published]
      rfl
  apart := by
    intro form number requested type weighed lost key head leads
    obtain ⟨apart, sinks⟩ := apart _ ((mem_requests_iff named).mpr requested) type weighed lost
    exact apart (mem_of_leadsTo named closed leads (sinks key head))

end Sources

/-- What is expected of a session: a view of what it draws on, and what it starts with. -/
structure Forecast where
  sources : Sources
  view : Store
  starts : String → Prop

namespace Forecast

variable {forecast : Forecast} {unfinished : List String} {store grown : Store}
  {key other head : String} {type : CType}

abbrev LeadsTo (forecast : Forecast) (key other : String) : Prop :=
  forecast.sources.LeadsTo forecast.view key other

abbrev Needs (forecast : Forecast) (key other : String) : Prop :=
  forecast.sources.Needs forecast.view key other

abbrev Coherent (forecast : Forecast) : Prop := forecast.sources.Coherent forecast.view

def Reaches (forecast : Forecast) (key : String) : Prop :=
  ∃ first, forecast.starts first ∧ forecast.LeadsTo first key

theorem Reaches.needs (reaches : forecast.Reaches key) (needs : forecast.Needs key other) :
    forecast.Reaches other := by
  obtain ⟨first, starts, leads⟩ := reaches
  exact ⟨first, starts, leads.tail needs⟩

/-- The store agrees with the view about all declarations but those that are still being
built. -/
structure Agrees (forecast : Forecast) (unfinished : List String) (store : Store) : Prop where
  pending : ∀ key ∈ unfinished, key ∈ store.keys ∧ store.status key = (none, false)
  finished : ∀ key ∈ store.keys, key ∉ unfinished →
    store.status key = forecast.view.status key
  covered : ∀ key ∈ store.keys, key ∉ unfinished →
    ∀ other, forecast.Needs key other → other ∈ store.keys
  /-- A complete record does not hold what may still lose its layout. -/
  laid : ∀ key members, store.Complete key members → ∀ m ∈ members, ∀ held,
    forecast.view.held? m.type = some held →
    forecast.view.isIncomplete (.compound held) = true →
    held ∈ store.keys ∧ held ∉ unfinished
  reached : ∀ key ∈ store.keys, forecast.Reaches key

namespace Agrees

theorem empty : forecast.Agrees [] {} where
  pending := by simp
  finished := fun key found => absurd found (by simp [Store.keys])
  covered := fun key found => absurd found (by simp [Store.keys])
  laid := fun key members complete =>
    absurd (Store.mem_keys_of_body? complete.choose_spec) (by simp [Store.keys])
  reached := fun key found => absurd found (by simp [Store.keys])

/-! Declarations that do not lead to unfinished ones. -/

theorem sunk (agrees : forecast.Agrees unfinished store) (published : key ∈ store.keys)
    (free : ∀ started ∈ unfinished, ¬ forecast.LeadsTo key started)
    (leads : forecast.LeadsTo key other) : other ∈ store.keys ∧ other ∉ unfinished := by
  refine ⟨?_, fun again => free other again leads⟩
  induction leads with
  | refl => exact published
  | @tail middle other leads needs induction =>
      exact agrees.covered middle induction (fun again => free middle again leads) other needs

theorem underlying? (agrees : forecast.Agrees unfinished store) (published : key ∈ store.keys)
    (done : key ∉ unfinished) : store.underlying? key = forecast.view.underlying? key :=
  Store.underlying?_of_status (agrees.finished key published done)

section

variable {peel : CType → CType} {steps : Nat} {last : CType}

/-- Typedefs that have an underlying type are finished. -/
theorem unfolds_view (agrees : forecast.Agrees unfinished store)
    (walk : store.Unfolds peel steps type last) (ended : ∀ key, last ≠ .typedef key) :
    forecast.view.Unfolds peel steps type last := by
  induction walk with
  | stop => exact .stop fun key named => absurd named (ended key)
  | @step type inner last key steps named found _ induction =>
      have done : key ∉ unfinished := fun again => by
        have status := (agrees.pending key again).2
        rw [Store.status, found] at status
        simp at status
      refine .step named ?_ (induction ended)
      rw [← agrees.underlying? (Store.mem_keys_of_underlying? found) done, found]

theorem unfolds_store (agrees : forecast.Agrees unfinished store)
    (coherent : forecast.Coherent) (keeps : ∀ type, (peel type).core = type.core)
    (walk : forecast.view.Unfolds peel steps type last)
    (sunk : ∀ key, type.core = .typedef key → ∀ other, forecast.LeadsTo key other →
      other ∈ store.keys ∧ other ∉ unfinished) :
    store.Unfolds peel steps type last := by
  have own {type : CType} {key : String} (named : peel type = .typedef key) :
      type.core = .typedef key := by
    rw [← keeps, named, CType.core]
    all_goals simp
  induction walk with
  | stop final =>
      refine .stop fun key named => ?_
      obtain ⟨published, done⟩ := sunk key (own named) key .refl
      rw [agrees.underlying? published done, final key named]
  | @step type inner last key steps named found _ induction =>
      obtain ⟨published, done⟩ := sunk key (own named) key .refl
      refine .step named (by rw [agrees.underlying? published done, found]) ?_
      refine induction fun next core other leads => sunk key (own named) other (.head ?_ leads)
      exact coherent.needs_of_underlying? found
        (CType.mem_mentions_of_head? (CType.head?_of_core core))

end

/-- A type is seen as the view sees it, unless it is lost and leads to what is still being
built. -/
theorem consult (agrees : forecast.Agrees unfinished store) (coherent : forecast.Coherent)
    (known : type.mentions ⊆ store.keys)
    (free : forecast.view.Lost type → ∀ head ∈ type.head?, ∀ started ∈ unfinished,
      ¬ forecast.LeadsTo head started) :
    store.isUnsupported type = forecast.view.isUnsupported type ∧
      store.isIncomplete type = forecast.view.isIncomplete type := by
  have sunk (lost : forecast.view.Lost type) (head : String) (own : head ∈ type.head?)
      (other : String) (leads : forecast.LeadsTo head other) :=
    agrees.sunk (known (CType.mem_mentions_of_head? own)) (free lost head own) leads
  constructor
  · rw [Bool.eq_iff_iff, Store.isUnsupported_iff, Store.isUnsupported_iff]
    constructor
    · intro given
      obtain ⟨steps, reason, walk⟩ := given
      exact ⟨steps, reason, agrees.unfolds_view walk (by simp)⟩
    · intro given
      have lost : forecast.view.Lost type := .inl (Store.isUnsupported_iff.mpr given)
      obtain ⟨steps, reason, walk⟩ := given
      exact ⟨steps, reason, agrees.unfolds_store coherent CType.core_core walk
        fun key core => sunk lost key (CType.head?_of_core core)⟩
  · rw [Bool.eq_iff_iff]
    constructor
    · intro incomplete
      obtain ⟨steps, key, walk, incomplete⟩ := Store.isIncomplete_iff_compound.mp incomplete
      refine Store.isIncomplete_iff_compound.mpr
        ⟨steps, key, agrees.unfolds_view walk (by simp), ?_⟩
      have done : key ∉ unfinished := fun again => by
        have status := (agrees.pending key again).2
        rw [Store.status, incomplete] at status
        simp at status
      have published : key ∈ store.keys := by
        by_contra absent
        simp [Store.isIncomplete_compound, Store.body?_eq_none_iff.mpr absent] at incomplete
      exact (congrArg Prod.snd (agrees.finished key published done)).symm.trans incomplete
    · intro incomplete
      have lost := Store.lost_of_isIncomplete incomplete
      obtain ⟨steps, key, walk, incomplete⟩ := Store.isIncomplete_iff_compound.mp incomplete
      obtain ⟨head, own, leads⟩ := coherent.leadsTo_of_unfolds (walk.held rfl) rfl
      obtain ⟨published, done⟩ := sunk lost head own key leads
      refine Store.isIncomplete_iff_compound.mpr ⟨steps, key, ?_, ?_⟩
      · exact agrees.unfolds_store coherent (fun _ => rfl) walk
          fun key core => sunk lost key (CType.head?_of_core core)
      · exact (congrArg Prod.snd (agrees.finished key published done)).trans incomplete

/-- What a record holds at the moment, it holds in the view. -/
theorem held?_view (agrees : forecast.Agrees unfinished store)
    (found : store.held? type = some key) : forecast.view.held? type = some key := by
  obtain ⟨steps, walk⟩ := Store.held?_eq_some_iff.mp found
  exact Store.held?_eq_some_iff.mpr ⟨steps, agrees.unfolds_view walk (by simp)⟩

/-- A record that is being built and has no layout in the view is held by nothing. -/
theorem not_holds (agrees : forecast.Agrees unfinished store) (own : key ∈ unfinished)
    (incomplete : forecast.view.isIncomplete (.compound key) = true) :
    ¬ store.Holds other key := by
  intro given
  obtain ⟨members, complete, m, member, found⟩ := given
  exact (agrees.laid other members complete m member key (agrees.held?_view found)
    incomplete).2 own

/-! Edits of the store. -/

/-- Nothing changes that the view tells of. -/
theorem of_same (agrees : forecast.Agrees unfinished store) (keys : grown.keys = store.keys)
    (status : ∀ key, grown.status key = store.status key)
    (complete : ∀ key members, grown.Complete key members → store.Complete key members) :
    forecast.Agrees unfinished grown where
  pending := fun key own => keys ▸ status key ▸ agrees.pending key own
  finished := fun key published done => by
    rw [status]
    exact agrees.finished key (keys ▸ published) done
  covered := fun key published done other needs =>
    keys ▸ agrees.covered key (keys ▸ published) done other needs
  laid := fun key members own m member held found incomplete =>
    keys ▸ agrees.laid key members (complete key members own) m member held found incomplete
  reached := fun key published => agrees.reached key (keys ▸ published)

section

variable {d : Declaration}

theorem status_push (fresh : d.usr ∉ store.keys) :
    (store.push d).status key = if key = d.usr then d.body.status else store.status key := by
  rw [Store.status_eq, Store.body?_push fresh]
  split
  · rfl
  · rw [Store.status_eq]

theorem laid_push (agrees : forecast.Agrees unfinished store) (fresh : d.usr ∉ store.keys)
    (empty : ∀ kind members, d.body = .record kind false members → members = [])
    (key : String) (members : List Member) (complete : (store.push d).Complete key members)
    (m : Member) (member : m ∈ members) (held : String)
    (found : forecast.view.held? m.type = some held)
    (incomplete : forecast.view.isIncomplete (.compound held) = true) :
    held ∈ store.keys ∧ held ∉ unfinished := by
  obtain ⟨kind, complete⟩ := complete
  rw [Store.body?_push fresh] at complete
  split at complete
  · obtain rfl := empty kind members (Option.some.inj complete)
    exact absurd member List.not_mem_nil
  · exact agrees.laid key members ⟨kind, complete⟩ m member held found incomplete

/-- A declaration is published before it is built. -/
theorem publish (agrees : forecast.Agrees unfinished store) (fresh : d.usr ∉ store.keys)
    (blank : d.body.status = (none, false))
    (empty : ∀ kind members, d.body = .record kind false members → members = [])
    (reaches : forecast.Reaches d.usr) :
    forecast.Agrees (d.usr :: unfinished) (store.push d) where
  pending := by
    intro key own
    rw [status_push fresh, Store.keys_push]
    rcases List.mem_cons.mp own with rfl | own
    · simp [blank]
    · obtain ⟨published, pending⟩ := agrees.pending key own
      have differs : key ≠ d.usr := fun same => fresh (same ▸ published)
      simp [differs, published, pending]
  finished := by
    intro key published done
    have ⟨differs, done⟩ := not_or.mp (mt List.mem_cons.mpr done)
    rw [status_push fresh, if_neg differs]
    exact agrees.finished key (by simpa [differs] using published) done
  covered := by
    intro key published done other needs
    have ⟨differs, done⟩ := not_or.mp (mt List.mem_cons.mpr done)
    rw [Store.keys_push]
    exact List.mem_append_left _
      (agrees.covered key (by simpa [differs] using published) done other needs)
  laid := by
    intro key members complete m member held found incomplete
    obtain ⟨published, done⟩ :=
      agrees.laid_push fresh empty key members complete m member held found incomplete
    have differs : held ≠ d.usr := fun same => fresh (same ▸ published)
    simp [published, done, differs]
  reached := by
    intro key published
    rw [Store.keys_push] at published
    rcases List.mem_append.mp published with published | published
    · exact agrees.reached key published
    · exact List.mem_singleton.mp published ▸ reaches

/-- A declaration that asks for nothing is finished when it is published. -/
theorem settle (agrees : forecast.Agrees unfinished store) (fresh : d.usr ∉ store.keys)
    (status : d.body.status = forecast.view.status d.usr)
    (empty : ∀ kind members, d.body = .record kind false members → members = [])
    (content : ∀ other, ¬ forecast.Needs d.usr other)
    (reaches : forecast.Reaches d.usr) :
    forecast.Agrees unfinished (store.push d) where
  pending := by
    intro key own
    obtain ⟨published, pending⟩ := agrees.pending key own
    have differs : key ≠ d.usr := fun same => fresh (same ▸ published)
    rw [status_push fresh, Store.keys_push]
    simp [differs, published, pending]
  finished := by
    intro key published done
    rw [status_push fresh]
    split
    · rename_i same
      rw [status, same]
    · rename_i differs
      exact agrees.finished key (by simpa [differs] using published) done
  covered := by
    intro key published done other needs
    rw [Store.keys_push] at published ⊢
    rcases List.mem_append.mp published with published | published
    · exact List.mem_append_left _ (agrees.covered key published done other needs)
    · exact absurd (List.mem_singleton.mp published ▸ needs) (content other)
  laid := by
    intro key members complete m member held found incomplete
    obtain ⟨published, done⟩ :=
      agrees.laid_push fresh empty key members complete m member held found incomplete
    simp [published, done]
  reached := by
    intro key published
    rw [Store.keys_push] at published
    rcases List.mem_append.mp published with published | published
    · exact agrees.reached key published
    · exact List.mem_singleton.mp published ▸ reaches

end

/-- The declaration that is being built has all that it asks for. -/
theorem finish (agrees : forecast.Agrees (key :: unfinished) store) (fresh : key ∉ unfinished)
    (keys : grown.keys = store.keys)
    (others : ∀ other, other ≠ key → grown.body? other = store.body? other)
    (status : grown.status key = forecast.view.status key)
    (covered : ∀ other, forecast.Needs key other → other ∈ store.keys)
    (laid : ∀ members, grown.Complete key members → ∀ m ∈ members, ∀ held,
      forecast.view.held? m.type = some held →
      forecast.view.isIncomplete (.compound held) = true →
      held ∈ store.keys ∧ held ∉ key :: unfinished) :
    forecast.Agrees unfinished grown where
  pending := by
    intro other own
    have differs : other ≠ key := fun same => fresh (same ▸ own)
    rw [keys, Store.status_congr (others other differs)]
    exact agrees.pending other (List.mem_cons_of_mem _ own)
  finished := by
    intro other published done
    by_cases same : other = key
    · rw [same, status]
    · rw [Store.status_congr (others other same)]
      exact agrees.finished other (keys ▸ published) (by simp [same, done])
  covered := by
    intro other published done
    rw [keys] at published ⊢
    by_cases same : other = key
    · exact same ▸ covered
    · exact agrees.covered other published (by simp [same, done])
  laid := by
    intro other members complete m member held found incomplete
    rw [keys]
    have both : held ∈ store.keys ∧ held ∉ key :: unfinished := by
      by_cases same : other = key
      · exact laid members (same ▸ complete) m member held found incomplete
      · refine agrees.laid other members ?_ m member held found incomplete
        exact complete.imp fun kind body => others other same ▸ body
    exact ⟨both.1, fun own => both.2 (List.mem_cons_of_mem _ own)⟩
  reached := fun other published => agrees.reached other (keys ▸ published)

end Agrees

end Forecast

/-! What a visit of a declaration begins with: the declarations that it binds or asks for
itself, in a view that tells which values can be passed. -/

/-- Values of the type can be passed. -/
def Store.passes (store : Store) (type : CType) : Bool :=
  !store.isUnsupported type && !store.isIncomplete type

/-- The types that the values of a function or a global are passed through. -/
def Header.Report.passed (view : Store) (report : Report) : List Answer :=
  match report.kind with
  | .function => .ofType view report.result :: report.arguments.map (.ofType view)
  | .global => [.ofType view report.type]
  | _ => []

/-- What the types ask for. -/
def Header.Report.passAsked (view : Store) (report : Report) : List String :=
  (report.passed view).flatMap (·.asked)

def Header.Report.isRefused (view : Store) (report : Report) : Bool :=
  report.kind == .function && report.inlined && report.storage != .external ||
    (report.passed view).any fun answer => !view.passes answer.type

/-- A selection that can be decided and takes the name in. -/
def chosen (result : Except SelectionError Bool) : Bool :=
  match result with
  | .ok answer => answer
  | .error _ => false

/-- The one declaration, if it is taken in. -/
def startsIf (taken : Bool) (usr : String) : List String := if taken then [usr] else []

theorem startsIf_subset {taken : Bool} {usr : String} {keys : List String}
    (published : taken = true → usr ∈ keys) : startsIf taken usr ⊆ keys := by
  intro key own
  unfold startsIf at own
  split at own
  · rename_i taken
    exact List.mem_singleton.mp own ▸ published taken
  · exact absurd own List.not_mem_nil

namespace Policy

variable (policy : Policy) (c : Cursor)

def recordStarts : List String :=
  startsIf (!c.anonymous &&
    chosen ((recordSelection policy c.kind).includes c.usr c.spelling)) c.usr

def typedefStarts : List String :=
  startsIf ((Primitive.wellKnown? c.spelling).isNone &&
    chosen (policy.typedefs.includes c.usr c.spelling)) c.usr

def interfaceStarts : List String :=
  startsIf (chosen (policy.interfaces.includes c.usr c.spelling)) c.usr

def enumerationStarts : List String :=
  startsIf (chosen (policy.enums.includes c.usr c.spelling)) c.usr

def constantStarts : List String :=
  startsIf (chosen (policy.unnamedEnums.includes c.usr c.spelling)) c.usr

def macroStarts : List String :=
  startsIf (!c.functionLike && chosen (policy.macros.includes c.usr c.spelling) &&
    match Literal.ofTokens? (macroBody c) with
    | .ok (some _) => true
    | _ => false) c.usr

end Policy

namespace Header.Forest

variable (forest : Forest) (view : Store) (policy : Policy)

/-- The USRs that a function or a global is bound under. -/
def valueUsrs (number : Nat) : List String :=
  let c := forest.cursor number
  match c.kind with
  | .function =>
      signatureUsrs c (policy.signatures.specialize c.spelling c.type.isVariadic).1
  | .global => [c.usr]
  | _ => []

/-- Functions and globals of different USRs are bound under different ones. -/
def ValuesApart : Prop :=
  ∀ number other, ∀ key ∈ forest.valueUsrs policy number, key ∈ forest.valueUsrs policy other →
    (forest.cursor number).usr = (forest.cursor other).usr

theorem valueUsrs_missing {number : Nat} (absent : forest.size ≤ number) :
    forest.valueUsrs policy number = [] := by
  have missing : forest.cursor number = {} := by
    simp [cursor, Array.getElem?_eq_none absent]
  rw [valueUsrs, missing]

instance : Decidable (forest.ValuesApart policy) :=
  decidable_of_iff
    (∀ number < forest.size, ∀ other < forest.size, ∀ key ∈ forest.valueUsrs policy number,
      key ∈ forest.valueUsrs policy other →
        (forest.cursor number).usr = (forest.cursor other).usr) (by
    refine ⟨fun listed number other key own also => ?_,
      fun apart number _ other _ => apart number other⟩
    have present (number : Nat) (own : key ∈ forest.valueUsrs policy number) :
        number < forest.size := by
      by_contra absent
      simp [valueUsrs_missing forest policy (Nat.le_of_not_lt absent)] at own
    exact listed number (present number own) other (present other also) key own also)

/-- The types of a function or a global are asked for whether it is refused or not. -/
def valueStarts (number : Nat) : List String :=
  (forest.report number).passAsked view ++
    if (forest.report number).isRefused view then [] else forest.valueUsrs policy number

/-- What a visit begins with if these anonymous declarations have a name. -/
def starts (names : List (String × String)) (number : Nat) : List String :=
  let c := forest.cursor number
  match c.kind with
  | .function =>
      if chosen (policy.functions.includes c.usr c.spelling) then
        forest.valueStarts view policy number
      else []
  | .struct | .union => policy.recordStarts c
  | .enumeration =>
      if !c.anonymous then policy.enumerationStarts c
      else if names.any (·.1 == c.usr) then []
      else (c.children.filter fun child => (forest.cursor child).kind == .enumConstant).flatMap
        fun child => policy.constantStarts (forest.cursor child)
  | .typedef => policy.typedefStarts c
  | .global =>
      if c.storage != .static && chosen (policy.globals.includes c.usr c.spelling) then
        forest.valueStarts view policy number
      else []
  | .macroDefinition => policy.macroStarts c
  | .interface => policy.interfaceStarts c
  | _ => []

end Header.Forest

namespace Sources

variable {sources : Sources} {policy : Policy} {number : Nat} {key : String}

theorem presents_function (allowed : policy ∈ sources.policies)
    (kind : (sources.forest.cursor number).kind = .function)
    (own : key ∈ sources.forest.valueUsrs policy number) : sources.Presents key .function := by
  simp only [Forest.valueUsrs, kind] at own
  obtain ⟨signature, listed, rfl⟩ := List.mem_map.mp own
  exact .function kind allowed listed

/-- A value is presented as one. -/
theorem presents_of_valueUsrs (allowed : policy ∈ sources.policies)
    (own : key ∈ sources.forest.valueUsrs policy number) :
    ∃ kind, sources.Presents key kind ∧ (kind = .function ∨ kind = .global) := by
  by_cases function : (sources.forest.cursor number).kind = .function
  · exact ⟨.function, presents_function allowed function own, .inl rfl⟩
  · simp only [Forest.valueUsrs] at own
    split at own
    · contradiction
    · rename_i kind
      obtain rfl := List.mem_singleton.mp own
      exact ⟨.global, .cursor (by rw [kind]; rfl), .inr rfl⟩
    · exact absurd own List.not_mem_nil

end Sources

end LuaBinder
