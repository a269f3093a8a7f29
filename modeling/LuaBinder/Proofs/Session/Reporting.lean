import LuaBinder.Proofs.Session.Conduct.Visiting
import LuaBinder.Proofs.Session.Emission
import LuaBinder.Proofs.Session.Inert.Pairing
import LuaBinder.Proofs.Session.Layouts.Precedence

namespace LuaBinder

open Header Session

/-! A typedef of an unsupported type is reported if its own visit publishes it. A visit that
finds it published gives it, although it is never emitted. -/

namespace Header.Forest

variable {forest : Forest} {usr : String}

/-- Only typedefs have the USR. -/
def OnlyTypedefs (forest : Forest) (usr : String) : Prop :=
  ∀ number, (forest.cursor number).usr = usr → (forest.cursor number).kind = .typedef

instance : Decidable (forest.OnlyTypedefs usr) :=
  decidable_of_iff (usr ≠ "" ∧ ∀ c ∈ forest.cursors.toList, c.usr = usr → c.kind = .typedef) (by
    constructor
    · intro given number own
      rcases forest.cursor_cases number with listed | missing
      · exact given.2 _ listed own
      · exact absurd (by rw [← own, missing]) given.1
    · intro only
      refine ⟨fun empty => ?_, fun c listed own => ?_⟩
      · have missing : forest.cursor forest.size = {} := by simp [cursor, size]
        have kind := only forest.size (by rw [missing, empty])
        rw [missing] at kind
        cases kind
      · obtain ⟨number, rfl⟩ := exists_number listed
        exact only number own)

end Header.Forest

namespace Session

open Store Step

variable {forest : Forest} {policy : Policy} {s middle after : Session} {number : Nat}
  {usr : String} {top : List Nat} {bindings : List String}

/-- How many diagnostics tell that the declaration has no bound type. -/
def unboundReports (s : Session) (usr : String) : Nat :=
  s.diagnostics.countP fun d => d.reason == .unimplementedType && d.usr == usr

theorem unboundReports_tells {d : Diagnostic}
    (other : d.reason ≠ .unimplementedType ∨ d.usr ≠ usr) :
    { s with diagnostics := s.diagnostics ++ [d] }.unboundReports usr = s.unboundReports usr := by
  have silent : (d.reason == .unimplementedType && d.usr == usr) = false := by
    rcases other with other | other <;> simp [other]
  simp [unboundReports, silent]

/-- Nothing is told of the declaration. -/
def reticently (usr : String) : Manner where
  good := fun s after => after.unboundReports usr = s.unboundReports usr
  bad := fun _ _ _ => True
  refl := fun _ => rfl
  trans := fun first second => second.trans first
  fails := fun _ _ => trivial
  selects := fun _ _ => trivial

/-- Builds tell nothing of a typedef, whatever its type turns out to be. -/
def reticent (only : forest.OnlyTypedefs usr) : Conduct forest where
  toManner := reticently usr
  throws := fun _ _ => trivial
  logs := fun _ _ _ => rfl
  marks := fun _ _ _ _ => rfl
  names := fun _ _ _ _ _ => rfl
  leaves := fun begun _ => begun
  misses := fun _ => trivial
  unwinds := fun _ _ => trivial
  refuses := by
    intro s number d isMethod own _
    refine unboundReports_tells (.inr fun same => ?_)
    rw [only number (own.symm.trans same)] at isMethod
    cases isMethod
  publishes := fun _ _ _ _ _ _ => rfl
  elaborates := fun _ _ _ _ => rfl
  typedefs := fun _ _ _ => rfl
  opens := fun _ _ _ _ _ _ _ _ => rfl
  lays := fun _ _ opens _ begun => begun.trans opens
  clears := by
    intro s opened middle key _ fuel problem _ opens _ begun
    have keeps : (makeOpaque fuel key problem).Keeps forest (reticently usr) :=
      keeps_makeOpaque _ (fun _ => trivial) (fun _ _ => rfl)
        (fun _ _ reason => unboundReports_tells (.inl (by simp [reason]))) (fun _ _ => rfl) _ _ _
    exact (keeps middle).imp (fun _ _ kept => kept.trans (begun.trans opens)) fun _ _ _ => trivial

/-- No visit of another declaration does, either. -/
theorem liberal_reticent (only : forest.OnlyTypedefs usr) {c : Cursor} (differs : c.usr ≠ usr)
    (usrs : List String) : (reticent only).Liberal c usrs where
  aside := fun _ diagnostics _ _ _ => by simp [reticent, reticently, unboundReports, diagnostics]
  tells := fun _ _ own _ => unboundReports_tells (.inr (own ▸ differs))
  binds := fun _ _ _ _ _ _ => rfl

/-! One visit. -/

theorem isUnsupported_typedef_eq (store : Store) (usr : String) :
    store.isUnsupported (.typedef usr) =
      ((store.underlying? usr).map store.isUnsupported).getD false := by
  cases found : store.underlying? usr with
  | none => simp [isUnsupported_pending found]
  | some type => simp [isUnsupported_typedef found]

/-- Where the typedef is of an unsupported type, it is told of once and not given. -/
theorem addTypedef_reports (only : forest.OnlyTypedefs (forest.cursor number).usr)
    (sound : s.Sound) :
    (addTypedef number (forest.cursor number)).Ensures forest s
      (fun value after => (forest.cursor number).usr ∈ after.store.keys ∧
        (after.store.isUnsupported (.typedef (forest.cursor number).usr) = true →
          value = [] ∧ after.unboundReports (forest.cursor number).usr =
            s.unboundReports (forest.cursor number).usr + 1))
      fun _ _ => True := by
  have silent : (buildTypedef declare number).Keeps forest (reticent only) :=
    keeps_buildTypedef keeps_declare number
  have built := (silent s).and (ensures_mem_keys (buildTypedef_runs declare_declares sound))
  refine Ensures.bind (built.imp (fun _ _ given => given) fun _ _ _ => trivial)
    fun _ middle given => Ensures.look rfl ?_
  obtain ⟨kept, published⟩ := given
  rw [← isUnsupported_typedef_eq]
  split
  · refine ⟨published, fun _ => ⟨rfl, ?_⟩⟩
    rw [← show middle.unboundReports _ = s.unboundReports _ from kept]
    simp [unboundReports]
  · rename_i supported
    exact ⟨published, fun unsupported => absurd unsupported supported⟩

/-- Whatever is published under the USR is a typedef of an unsupported type. -/
def Unbound (usr : String) (store : Store) : Prop :=
  usr ∈ store.keys → store.isUnsupported (.typedef usr) = true

/-- The typedef is told of if its own visit publishes it, and given if it is published. -/
structure Told (forest : Forest) (usr : String) (number : Nat) (s : Session)
    (value : List String) (after : Session) : Prop where
  reports : after.unboundReports usr = s.unboundReports usr +
    if (forest.cursor number).usr = usr ∧ usr ∉ s.store.keys ∧ usr ∈ after.store.keys
    then 1 else 0
  value : (forest.cursor number).usr = usr → value = if usr ∈ s.store.keys then [usr] else []

theorem Unbound.published {store grown : Store} (unbound : Unbound usr grown)
    (grows : store.Grows grown) (published : usr ∈ store.keys) :
    publishedAs store usr Declaration.isTypedef = true := by
  have unsupported := unbound (grows.mem_keys published)
  rw [isUnsupported_typedef_eq, grows.underlying? published, underlying?_eq] at unsupported
  obtain ⟨body, found⟩ := exists_body? published
  obtain ⟨d, located, rfl⟩ := Option.map_eq_some_iff.mp found
  rw [found] at unsupported
  cases body : d.body with
  | typedef =>
      have kind : d.isTypedef = true := by
        rw [Declaration.isTypedef, Declaration.kind, body]
        rfl
      simp [publishedAs, located, kind]
  | _ => simp [body, Body.underlying?] at unsupported

theorem Unbound.earlier {store grown : Store} (unbound : Unbound usr grown)
    (grows : store.Grows grown) (closed : store.Closed) : Unbound usr store := by
  intro published
  have knows : store.Knows (.typedef usr) := fun key mentioned =>
    List.mem_singleton.mp mentioned ▸ published
  rw [← grows.isUnsupported closed knows]
  exact unbound (grows.mem_keys published)

/-- What only looks tells nothing. -/
theorem Told.of_untouched {value : List String} (untouched : Untouched s after)
    (given : (forest.cursor number).usr = usr → value = if usr ∈ s.store.keys then [usr] else []) :
    Told forest usr number s value after where
  reports := by
    rw [untouched]
    simp [unboundReports]
  value := given

theorem visitTypedef_told (only : forest.OnlyTypedefs (forest.cursor number).usr)
    (sound : s.Sound) :
    (visitTypedef number).Ensures forest s
      (fun value after => s.store.Grows after.store →
        Unbound (forest.cursor number).usr after.store →
        Told forest (forest.cursor number).usr number s value after) fun _ _ => True := by
  rw [visitTypedef_eq]
  refine Ensures.look rfl (Course.ensures_step (lawful_typedefCourse _) ?_ ?_)
  · intro value after known untouched grows unbound
    refine .of_untouched untouched fun _ => ?_
    by_cases published : (forest.cursor number).usr ∈ s.store.keys
    · have found := unbound.published grows published
      rw [if_pos published]
      cases known with
      | published => rfl
      | passed absent | excluded absent | futile absent => exact absurd found absent
    · rw [if_neg published]
      cases known with
      | published found => exact absurd (mem_keys_of_publishedAs found) published
      | passed | excluded | futile => rfl
  · intro absent _ _
    have next : (typedefCourse (forest.cursor number) number).next true =
      addTypedef number (forest.cursor number) := rfl
    rw [next]
    refine .inr ((addTypedef_reports only (sound.entered _)).imp ?_ fun _ _ failed => failed)
    intro value after given context grows unbound
    obtain ⟨published, reported⟩ := given
    obtain ⟨rfl, reports⟩ := reported (unbound published)
    have fresh : (forest.cursor number).usr ∉ s.store.keys :=
      fun earlier => absent (unbound.published grows earlier)
    refine ⟨?_, fun _ => (if_neg fresh).symm⟩
    rw [if_pos ⟨rfl, fresh, published⟩]
    exact reports

theorem visit_told (only : forest.OnlyTypedefs usr) (sound : s.Sound) :
    (visit number).Ensures forest s
      (fun value after => Unbound usr after.store → Told forest usr number s value after)
      fun _ _ => True := by
  by_cases own : (forest.cursor number).usr = usr
  · subst own
    have told := visitTypedef_told only sound
    rw [Ensures, ← run_visit_typedef (only number rfl), ← Ensures] at told
    have runs : (visit number).Ensures forest s _ _ := visit_runs sound
    refine (runs.and told).imp (fun _ _ given => ?_) fun _ _ _ => trivial
    exact given.2 (given.1.2.advances sound.closed).toGrows
  · have keeps : (visit number).Keeps forest (reticent only) :=
      keeps_visit (liberal_reticent only own)
    refine (keeps s).imp (fun _ after kept _ => ⟨?_, fun same => absurd same own⟩)
      fun _ _ _ => trivial
    rw [if_neg fun given => own given.1]
    exact kept

/-! Runs. -/

/-- What is visited before and after one visit. -/
theorem run_visitAll_apart {seen later : List Nat}
    (succeeded : (visitAll (seen ++ number :: later)).run forest s = (.ok (), after)) :
    ∃ middle value next, (visitAll seen).run forest s = (.ok (), middle) ∧
      (visit number).run forest middle = (.ok value, next) ∧
      (visitAll later).run forest next = (.ok (), after) := by
  induction seen generalizing s with
  | nil =>
      obtain ⟨value, next, visited, rest⟩ := run_bind_eq_ok succeeded
      exact ⟨s, value, next, rfl, visited, rest⟩
  | cons first seen induction =>
      obtain ⟨value, begun, visited, rest⟩ := run_bind_eq_ok succeeded
      obtain ⟨middle, given⟩ := induction rest
      exact ⟨middle, by rwa [run_visitAll_cons visited]⟩

/-- Of all visits only the one that publishes the typedef may tell of it. -/
theorem visitAll_told (only : forest.OnlyTypedefs usr) (top : List Nat) (s : Session)
    (sound : s.Sound) :
    (visitAll top).Ensures forest s
      (fun _ after => Unbound usr after.store →
        (usr ∈ s.store.keys ∨ usr ∉ after.store.keys →
          after.unboundReports usr = s.unboundReports usr) ∧
        (usr ∉ s.store.keys → usr ∈ after.store.keys → ∃ first,
          PublishedBy forest s top usr first ∧ after.unboundReports usr =
            s.unboundReports usr + if (forest.cursor first).usr = usr then 1 else 0))
      fun _ _ => True := by
  induction top generalizing s with
  | nil => exact fun _ => ⟨fun _ => rfl, fun absent published => absurd published absent⟩
  | cons number rest induction =>
      refine Ensures.bind_run (fun value middle visited => ?_) fun _ _ _ => trivial
      obtain ⟨visits, -, sound'⟩ := visits_of_visit sound visited
      have told := Ensures.of_ok (visit_told only sound) (congrArg Prod.fst visited)
      rw [visited] at told
      refine ((induction middle sound').and (visitAll_grows rest sound')).imp ?_
        fun _ _ _ => trivial
      intro _ after given unbound
      obtain ⟨told', grows⟩ := given
      have reports := (told (unbound.earlier grows sound'.closed)).reports
      obtain ⟨silent, onward⟩ := told' unbound
      refine ⟨fun settled => ?_, fun absent published => ?_⟩
      · have unchanged : ¬ (usr ∉ s.store.keys ∧ usr ∈ middle.store.keys) := fun given =>
          settled.elim given.1 fun absent => absent (grows.mem_keys given.2)
        rw [silent (settled.imp_left (visits.advances sound.closed).mem_keys), reports,
          if_neg fun given => unchanged given.2, Nat.add_zero]
      · by_cases here : usr ∈ middle.store.keys
        · refine ⟨number, .here visited absent here, ?_⟩
          rw [silent (.inl here), reports]
          simp [absent, here]
        · obtain ⟨first, publishes, reports'⟩ := onward here published
          refine ⟨first, publishes.later visited, ?_⟩
          rw [reports', reports, if_neg fun given => here given.2.2, Nat.add_zero]

/-- A visit gives the typedef exactly if it finds it published. -/
theorem value_of_visitAll {seen later : List Nat} (only : forest.OnlyTypedefs usr)
    (sound : s.Sound)
    (succeeded : (visitAll (seen ++ number :: later)).run forest s = (.ok (), after))
    (unbound : Unbound usr after.store) (own : (forest.cursor number).usr = usr) :
    ((visit number).run forest ((visitAll seen).run forest s).2).1 =
      .ok (if usr ∈ ((visitAll seen).run forest s).2.store.keys then [usr] else []) := by
  obtain ⟨middle, value, next, first, visited, rest⟩ := run_visitAll_apart succeeded
  have begun : (visitAll seen).Ensures forest s _ _ := visitAll_runs seen s sound
  have begun := Ensures.of_ok begun (congrArg Prod.fst first)
  rw [first] at begun ⊢
  have sound' := sound.of_kept begun.1 (begun.2.advances sound.closed).closed
  obtain ⟨-, -, sound''⟩ := visits_of_visit sound' visited
  have told := Ensures.of_ok (visit_told only sound') (congrArg Prod.fst visited)
  rw [visited] at told ⊢
  have grows := Ensures.of_ok (visitAll_grows later sound'') (congrArg Prod.fst rest)
  rw [rest] at grows
  exact congrArg Except.ok ((told (unbound.earlier grows sound''.closed)).value own)

/-- A typedef that ends with an unsupported type is never emitted. It is told of once if the
visit that publishes it is its own, and never otherwise; and each of its visits gives it
exactly if it is published already. -/
theorem unsupported_typedef_told_iff (forest : Forest) (policy : Policy) (top : List Nat)
    (succeeded : ((runAll top).run forest { policy }).1 = .ok bindings)
    (only : forest.OnlyTypedefs usr)
    (unsupported : ((runAll top).run forest { policy }).2.store.isUnsupported (.typedef usr) =
      true) :
    usr ∉ bindings ∧
    (∃ first, PublishedBy forest (begun forest policy top) top usr first ∧
      ((runAll top).run forest { policy }).2.unboundReports usr =
        if (forest.cursor first).usr = usr then 1 else 0) ∧
    ∀ seen number later, top = seen ++ number :: later → (forest.cursor number).usr = usr →
      let before := ((visitAll seen).run forest (begun forest policy top)).2
      ((visit number).run forest before).1 =
        .ok (if usr ∈ before.store.keys then [usr] else []) := by
  obtain ⟨visited, naming, rfl⟩ := visited_of_run succeeded
  have diagnostics := diagnostics_of_run succeeded
  have runs : (visitAll top).Ensures forest (begun forest policy top) _ _ :=
    visitAll_runs top _ sound_begun
  have grown := Ensures.of_ok (runs.and (visitAll_told only top _ sound_begun)) visited
  obtain ⟨⟨-, visits⟩, told⟩ := grown
  have closed := (visits.advances closed_empty).closed
  have unsupported' := unsupported
  rw [naming.isUnsupported_eq] at unsupported'
  have published : usr ∈ ((visitAll top).run forest (begun forest policy top)).2.store.keys := by
    by_contra absent
    rw [isUnsupported_pending] at unsupported'
    · cases unsupported'
    · rw [underlying?_eq, body?_eq_none_iff.mpr absent]
      rfl
  refine ⟨fun listed => ?_, ?_, fun seen number later whole own => ?_⟩
  · have settled (key : String) := not_pending_of_visits visits naming key
    rw [mem_emitted_iff_supported (naming.closed closed) settled (naming.keys_eq ▸ published),
      unsupported] at listed
    cases listed
  · obtain ⟨first, publishes, reports⟩ := (told fun _ => unsupported').2 (by simp [begun, keys])
      published
    refine ⟨first, publishes, ?_⟩
    rw [unboundReports, diagnostics, ← unboundReports, reports]
    simp [begun, unboundReports]
  · subst whole
    exact value_of_visitAll only sound_begun (Prod.ext visited rfl) (fun _ => unsupported') own

def realUsr : String := "c:real_t"

/-- `typedef long double real_t; real_t scale(void); typedef long double wide_t;` -/
def unboundForest : Forest := ⟨#[
  { kind := .typedef, spelling := "real_t", usr := realUsr, underlying := .ofKind .longDouble },
  { kind := .function, spelling := "scale", usr := "c:scale", result := .declared .typedef 0
    type := .function .functionPrototype (.declared .typedef 0) .nil },
  { kind := .typedef, spelling := "wide_t", usr := "c:wide_t"
    underlying := .ofKind .longDouble }]⟩

def unboundTop : List Nat := [2, 1, 0, 2]

def unboundRun : Except Error (List String) × Session :=
  (runAll unboundTop).run unboundForest { policy := {} }

/-- The type of `scale` publishes `real_t` before its own visit. -/
theorem unboundForest_told :
    unboundRun.1 = .ok [] ∧ unboundForest.OnlyTypedefs realUsr ∧
      unboundRun.2.store.isUnsupported (.typedef realUsr) = true ∧
      (∃ first, PublishedBy unboundForest (begun unboundForest {} unboundTop) unboundTop
        realUsr first ∧ unboundRun.2.unboundReports realUsr =
          if (unboundForest.cursor first).usr = realUsr then 1 else 0) ∧
      ((visit 0).run unboundForest ((visitAll [2, 1]).run unboundForest
        (begun unboundForest {} unboundTop)).2).1 = .ok [realUsr] := by
  have succeeded : unboundRun.1 = .ok [] := by decide +kernel
  have only : unboundForest.OnlyTypedefs realUsr := by decide +kernel
  have unsupported : unboundRun.2.store.isUnsupported (.typedef realUsr) = true := by
    decide +kernel
  obtain ⟨-, told, given⟩ :=
    unsupported_typedef_told_iff unboundForest {} unboundTop succeeded only unsupported
  have published : realUsr ∈ ((visitAll [2, 1]).run unboundForest
      (begun unboundForest {} unboundTop)).2.store.keys := by decide +kernel
  have value := (given [2, 1] 0 [2] rfl rfl).trans (congrArg Except.ok (if_pos published))
  exact ⟨succeeded, only, unsupported, told, value⟩

end Session

end LuaBinder
