import LuaBinder.Proofs.Policy.Signatures
import LuaBinder.Proofs.Session.Interface

namespace LuaBinder

open Header Session

/-! What visits do to a store. A visit that fails may still have published declarations;
no function and no global among them has a type that values cannot be passed through. -/

inductive Body.IsValue : Body → Prop
  | function (f : Function) : IsValue (.function f)
  | global (type : CType) (const exposesAddress : Bool) :
      IsValue (.global type const exposesAddress)
  | constant (rawType : String) (value : Scalar) : IsValue (.constant rawType value)

theorem Body.IsValue.types_eq_values {body : Body} (value : body.IsValue) :
    body.types = body.values := by
  cases value <;> rfl

theorem Body.IsValue.superclass?_eq_none {body : Body} (value : body.IsValue) :
    body.superclass? = none := by
  cases value <;> rfl

/-- A visit builds a record as the visited declaration says, and otherwise whatever the
declaration leads to. -/
def Header.Forest.Opens (forest : Forest) (number target : Nat) : Prop :=
  forest.Leads number target ∧
    (formOf? (forest.cursor number).kind = some .record → target = number)

namespace Store

variable {forest : Forest} {policy : Policy} {store middle grown : Store} {d : Declaration}
  {type : CType} {body : Body} {number : Nat} {reach : Nat → Prop}

structure Advances (store grown : Store) : Prop extends Grows store grown where
  passes : store.PassesValues → grown.PassesValues

namespace Advances

theorem refl (closed : store.Closed) : store.Advances store := ⟨.refl closed, id⟩

theorem trans (first : store.Advances middle) (second : middle.Advances grown) :
    store.Advances grown :=
  ⟨first.toGrows.trans second.toGrows, second.passes ∘ first.passes⟩

end Advances

theorem knows_of_values (closed : store.Closed) {key : String}
    (found : store.body? key = some body) (member : type ∈ body.values) : store.Knows type :=
  fun other mentioned => closed.known key body found other
    (Body.mem_mentions_of_mem_types (Body.mem_types_of_mem_values member) mentioned)

theorem Extends.advances (extended : store.Extends forest reach grown)
    (closed : store.Closed) : store.Advances grown where
  toGrows := extended.toGrows
  passes := by
    intro passes key body found type member
    by_cases published : key ∈ store.keys
    · rw [extended.toGrows.body? published] at found
      exact extended.toGrows.passable closed (knows_of_values closed found member)
        (passes key body found type member)
    · rw [extended.valueless key body found published] at member
      simp at member

/-- A value that is bound has types with a binding and a layout. -/
structure Binding (forest : Forest) (policy : Policy) (number : Nat) (store : Store)
    (body : Body) : Prop where
  value : body.IsValue
  resolved : ∀ type ∈ body.types, store.Resolved (forest.LeadsToBareFunction number) type
  passable : ∀ type ∈ body.types, store.Passable type
  extra : ∀ f, body = .function f → ∀ p ∈ f.extra, policy.signatures.Appends p.type

theorem Binding.grow (binding : Binding forest policy number store body)
    (grows : store.Grows grown) (closed : store.Closed) :
    Binding forest policy number grown body where
  value := binding.value
  resolved := fun type member => grows.resolved closed (binding.resolved type member)
  passable := fun type member =>
    grows.passable closed (binding.resolved type member).known (binding.passable type member)
  extra := binding.extra

theorem Binding.advances (binding : Binding forest policy number store d.body)
    (closed : store.Closed) (fresh : d.usr ∉ store.keys) : store.Advances (store.push d) := by
  have grows : store.Grows (store.push d) := by
    refine .push closed fresh fun other mentioned => ?_
    rw [Body.mentions, binding.value.superclass?_eq_none, Option.toList_none,
      List.append_nil] at mentioned
    obtain ⟨type, member, mentioned⟩ := List.mem_flatMap.mp mentioned
    exact (binding.resolved type member).known other mentioned
  refine ⟨grows, fun passes key body found type member => ?_⟩
  rw [body?_push fresh] at found
  split at found
  · obtain rfl := Option.some.inj found
    rw [← binding.value.types_eq_values] at member
    exact (binding.grow grows closed).passable type member
  · exact grows.passable closed (knows_of_values closed found member)
      (passes key body found type member)

/-- Visits that succeed build declarations and publish values. -/
inductive Visits (forest : Forest) (reach : Nat → Prop) (policy : Policy) :
    Store → Store → Prop
  | trans {store middle grown : Store} (first : Visits forest reach policy store middle)
      (second : Visits forest reach policy middle grown) : Visits forest reach policy store grown
  | build {store grown : Store} (built : Builds forest reach store grown) :
      Visits forest reach policy store grown
  | value {store : Store} {d : Declaration} {number : Nat} {suffix : String}
      (usr : (forest.cursor number).usr ++ suffix = d.usr) (fresh : d.usr ∉ store.keys)
      (binding : Binding forest policy number store d.body) :
      Visits forest reach policy store (store.push d)

namespace Visits

theorem refl (store : Store) : Visits forest reach policy store store := .build (.refl store)

theorem mono {wider : Nat → Prop} (visits : Visits forest reach policy store grown)
    (weaker : ∀ number, reach number → wider number) :
    Visits forest wider policy store grown := by
  induction visits with
  | trans _ _ first second => exact first.trans second
  | build built => exact .build (built.mono weaker)
  | value usr fresh binding => exact .value usr fresh binding

theorem advances (visits : Visits forest reach policy store grown) (closed : store.Closed) :
    store.Advances grown := by
  induction visits with
  | trans _ _ first second =>
      have begun := first closed
      exact begun.trans (second begun.closed)
  | build built => exact (built.extended_wide closed).advances closed
  | value _ fresh binding => exact binding.advances closed fresh

end Visits

end Store

namespace Session

open Store

variable {forest : Forest} {reach wider : Nat → Prop} {s : Session} {number : Nat}
  {type : CType}

/-- A visit that fails has published nothing that it must not. -/
def VisitRuns (forest : Forest) (reach : Nat → Prop) (s : Session) (step : Step α) : Prop :=
  Runs forest s step (fun _ grown => Visits forest reach s.policy s.store grown) s.store.Advances

namespace VisitRuns

theorem pure {value : α} : VisitRuns forest reach s (Pure.pure value) := Runs.pure (.refl _)

theorem mono {step : Step α} (runs : VisitRuns forest reach s step)
    (weaker : ∀ number, reach number → wider number) : VisitRuns forest wider s step :=
  Runs.imp runs fun _ _ visits => visits.mono weaker

theorem look {step : Step α} {next : α → Step β} {value : α}
    (answers : step.run forest s = (.ok value, s))
    (rest : VisitRuns forest reach s (next value)) : VisitRuns forest reach s (step >>= next) :=
  Runs.look answers rest

theorem bind {step : Step α} {next : α → Step β} (first : VisitRuns forest reach s step)
    (sound : s.Sound)
    (second : ∀ value middle, middle.Sound → VisitRuns forest reach middle (next value)) :
    VisitRuns forest reach s (step >>= next) := by
  refine Runs.bind first fun value middle kept visits => ?_
  have advances := visits.advances sound.closed
  have rest := second value middle (sound.of_kept kept advances.closed)
  rw [VisitRuns, kept.policy] at rest
  exact (rest.imp fun _ _ more => visits.trans more).imp_bad fun _ more => advances.trans more

theorem of_quiet {step : Step α} (quiet : step.Quiet) (sound : s.Sound) :
    VisitRuns forest reach s step :=
  (Runs.of_quiet quiet (.refl sound.closed)).imp fun _ _ same => same ▸ .refl _

theorem bind_quiet {step : Step α} {next : α → Step β} (quiet : step.Quiet)
    (sound : s.Sound)
    (second : ∀ value middle, Kept s middle → middle.store = s.store → middle.Sound →
      VisitRuns forest reach middle (next value)) :
    VisitRuns forest reach s (step >>= next) := by
  refine Runs.bind (Runs.of_quiet quiet (.refl sound.closed)) fun value middle kept same => ?_
  have rest := second value middle kept same (sound.of_kept kept (same ▸ sound.closed))
  rwa [VisitRuns, kept.policy, same] at rest

theorem bind_resolves {step : Step CType} {next : CType → Step β} {bare : Prop}
    (resolves : Resolves forest (forest.Leads number) bare s step) (sound : s.Sound)
    (second : ∀ type middle, Kept s middle →
      s.store.Gives forest (forest.Leads number) bare type middle.store → middle.Sound →
      VisitRuns forest (forest.Leads number) middle (next type)) :
    VisitRuns forest (forest.Leads number) s (step >>= next) := by
  refine Runs.bind (resolves.imp_bad fun _ failed => failed.advances sound.closed) ?_
  intro type middle kept gives
  have visits : Visits forest (forest.Leads number) s.policy s.store middle.store :=
    .build gives.built
  have advances := visits.advances sound.closed
  have rest := second type middle kept gives (sound.of_kept kept advances.closed)
  rw [VisitRuns, kept.policy] at rest
  exact (rest.imp fun _ _ more => visits.trans more).imp_bad fun _ more => advances.trans more

theorem withFrame {name : String} {step : Step α}
    (inside : VisitRuns forest reach (s.entered name) step) :
    VisitRuns forest reach s (withFrame name fun _ => step) :=
  Runs.withFrame inside

theorem of_declared {step : Step α} {form : Form} {usr : String} (sound : s.Sound)
    (runs : Runs forest s step (fun _ grown => Declared forest form number s.store usr grown)
      (s.store.Extends forest (forest.Leads number))) :
    VisitRuns forest (forest.Leads number) s step :=
  (runs.imp fun _ _ declared => .build declared.built).imp_bad
    fun _ failed => failed.advances sound.closed

/-- A record that is visited is built as its own declaration says. -/
theorem of_record {step : Step α} {usr : String} (sound : s.Sound)
    (runs : Runs forest s step (fun _ grown => Declared forest .record number s.store usr grown)
      (s.store.Extends forest (forest.Leads number))) : VisitRuns forest (· = number) s step :=
  (runs.imp fun _ _ declared => .build (declared.own rfl)).imp_bad
    fun _ failed => failed.advances sound.closed

theorem publish {d : Declaration} {suffix : String} (sound : s.Sound)
    (usr : (forest.cursor number).usr ++ suffix = d.usr)
    (binding : Binding forest s.policy number s.store d.body) :
    VisitRuns forest reach s (publish d) :=
  (Runs.publish (.refl sound.closed)).imp fun _ _ ⟨fresh, published⟩ =>
    published ▸ .value usr fresh binding

end VisitRuns

/-! Compounds. -/

theorem visitRecord_runs (sound : s.Sound)
    (formed : formOf? (forest.cursor number).kind = some .record) :
    VisitRuns forest (· = number) s (visitRecord number) := by
  refine VisitRuns.look rfl (VisitRuns.withFrame (VisitRuns.look rfl ?_))
  have sound := sound.entered (forest.cursor number).spelling
  split
  · exact .pure
  split
  · exact .pure
  refine VisitRuns.look rfl ?_
  refine VisitRuns.bind (.of_quiet (quiet_selected _) sound) sound fun chosen _ sound => ?_
  split
  · have runs := buildRecord_runs declare_declares sound formed
    refine VisitRuns.bind (.of_record sound runs) sound ?_
    exact fun _ _ _ => .pure
  · exact .pure

theorem visitInterface_runs (sound : s.Sound) :
    VisitRuns forest (forest.Leads number) s (visitInterface number) := by
  refine VisitRuns.look rfl (VisitRuns.withFrame (VisitRuns.look rfl ?_))
  have sound := sound.entered (forest.cursor number).spelling
  split
  · exact .pure
  refine VisitRuns.look rfl ?_
  refine VisitRuns.bind (.of_quiet (quiet_selected _) sound) sound fun chosen _ sound => ?_
  split
  · refine VisitRuns.bind (.of_declared sound (buildInterface_runs declare_declares sound))
      sound ?_
    exact fun _ _ _ => .pure
  · exact .pure

theorem binding_constant {policy : Policy} {store : Store} {rawType : String}
    {value : Scalar} :
    Binding forest policy number store (.constant rawType value) where
  value := .constant rawType value
  resolved := by simp [Body.types]
  passable := by simp [Body.types]
  extra := by simp

theorem visitConstants_runs (numbers : List Nat) (s : Session) (sound : s.Sound) :
    VisitRuns forest reach s (visitConstants numbers) := by
  induction numbers generalizing s with
  | nil => exact .pure
  | cons number rest induction =>
      refine VisitRuns.look rfl (VisitRuns.look rfl (VisitRuns.look rfl ?_))
      split
      · exact VisitRuns.bind (induction s sound) sound fun _ _ _ => .pure
      refine VisitRuns.bind (.of_quiet (quiet_selected _) sound) sound fun chosen s sound => ?_
      split
      · exact induction s sound
      refine VisitRuns.bind (.of_quiet (quiet_selected _) sound) sound fun name s sound => ?_
      refine VisitRuns.look rfl ?_
      refine VisitRuns.bind (.publish sound (String.append_empty ..) binding_constant) sound ?_
      intro _ s sound
      refine VisitRuns.bind (.of_quiet (quiet_debug _ _) sound) sound fun _ s sound => ?_
      exact VisitRuns.bind (induction s sound) sound fun _ _ _ => .pure

theorem visitEnumeration_runs (sound : s.Sound) :
    VisitRuns forest (forest.Leads number) s (visitEnumeration number) := by
  refine VisitRuns.look rfl (VisitRuns.withFrame ?_)
  have sound := sound.entered (forest.cursor number).spelling
  split
  · refine VisitRuns.look rfl ?_
    split
    · exact .pure
    · refine VisitRuns.look rfl ?_
      exact visitConstants_runs _ _ sound
  refine VisitRuns.look rfl ?_
  split
  · exact .pure
  refine VisitRuns.look rfl ?_
  refine VisitRuns.bind (.of_quiet (quiet_selected _) sound) sound fun chosen _ sound => ?_
  split
  · refine VisitRuns.bind (.of_declared sound (buildEnumeration_runs sound)) sound ?_
    exact fun _ _ _ => .pure
  · exact .pure

/-! Typedefs, globals and macro constants. -/

theorem visitTypedef_runs (sound : s.Sound) :
    VisitRuns forest (forest.Leads number) s (visitTypedef number) := by
  refine VisitRuns.look rfl (VisitRuns.withFrame (VisitRuns.look rfl ?_))
  have sound := sound.entered (forest.cursor number).spelling
  split
  · exact .pure
  split
  · exact VisitRuns.bind (.of_quiet (quiet_debug _ _) sound) sound fun _ _ _ => .pure
  refine VisitRuns.look rfl ?_
  refine VisitRuns.bind (.of_quiet (quiet_selected _) sound) sound fun chosen s sound => ?_
  split
  · refine VisitRuns.bind (.of_declared sound (buildTypedef_runs declare_declares sound)) sound
      fun _ s sound => VisitRuns.look rfl ?_
    split
    · refine VisitRuns.bind (.of_quiet (quiet_debug _ _) sound) sound fun _ s sound => ?_
      exact VisitRuns.bind (.of_quiet (quiet_diagnose _ _ _ _) sound) sound fun _ _ _ => .pure
    · exact .pure
  · exact .pure

theorem quiet_drop (usr : String) : (drop usr).Quiet := by
  intro forest s
  simp only [drop, ensures_modify]
  split
  · exact ⟨Kept.refl s, rfl⟩
  · exact ⟨⟨rfl, rfl, Nat.le_refl _⟩, rfl⟩

theorem quiet_refuse (source logged name usr : String) (reason : Reason) (message : String) :
    (refuse source logged name usr reason message).Quiet :=
  (quiet_debug _ _).bind fun _ => (quiet_diagnose _ _ _ _).bind fun _ =>
    (quiet_drop _).bind fun _ => Step.quiet_iff.mpr fun _ => Step.keeps_pure _

theorem passable_of_globalRefusal? {store : Store} (fine : globalRefusal? store type = none) :
    store.Passable type := by
  unfold globalRefusal? at fine
  split at fine
  · simp at fine
  · rename_i supported
    split at fine
    · simp at fine
    · rename_i complete
      exact ⟨by simpa using supported, by simpa using complete⟩

theorem addGlobal_runs (sound : s.Sound) :
    VisitRuns forest (forest.Leads number) s (addGlobal (forest.cursor number)) := by
  refine VisitRuns.bind (.of_quiet (quiet_debug _ _) sound) sound fun _ s sound => ?_
  have own : (forest.cursor number).type ∈ (forest.cursor number).types := by
    simp [Cursor.types]
  have resolves := resolves_type declare_declares (onward_leads number)
    (forest.cursor number).type s sound fun _ found =>
      (Forest.Leads.refl forest number).reference (Cursor.mem_references_of_type own found)
  refine VisitRuns.bind_resolves resolves sound fun type s _ gives sound => ?_
  refine VisitRuns.look rfl ?_
  split
  · exact VisitRuns.of_quiet (quiet_refuse _ _ _ _ _ _) sound
  rename_i fine
  have binding (exposed : Bool) : Binding forest s.policy number s.store
      (.global type (forest.cursor number).type.isConst exposed) :=
    { value := .global _ _ _
      resolved := by
        simpa [Body.types] using
          gives.resolved.imp fun bare => ⟨number, .refl forest number, _, own, bare⟩
      passable := by simpa [Body.types] using passable_of_globalRefusal? fine
      extra := by simp }
  refine VisitRuns.look rfl ?_
  refine VisitRuns.bind_quiet (quiet_selected _) sound fun name named kept same sound => ?_
  refine VisitRuns.look rfl ?_
  refine VisitRuns.bind_quiet (quiet_selected _) sound fun exposed s kept' same' sound => ?_
  rw [← same, ← same', ← kept.policy, ← kept'.policy] at binding
  refine VisitRuns.bind (.publish sound (String.append_empty ..) (binding exposed)) sound ?_
  exact fun _ _ _ => .pure

theorem visitGlobal_runs (sound : s.Sound) :
    VisitRuns forest (forest.Leads number) s (visitGlobal number) := by
  refine VisitRuns.look rfl (VisitRuns.withFrame (VisitRuns.look rfl ?_))
  have sound := sound.entered (forest.cursor number).spelling
  split
  · exact .pure
  split
  · exact .pure
  refine VisitRuns.look rfl ?_
  refine VisitRuns.bind (.of_quiet (quiet_selected _) sound) sound fun chosen s sound => ?_
  split
  · exact .pure
  refine VisitRuns.look rfl ?_
  split
  · exact .pure
  · exact addGlobal_runs sound

theorem addMacro_runs (sound : s.Sound) :
    VisitRuns forest reach s (addMacro (forest.cursor number)) := by
  simp only [addMacro]
  split
  · exact ⟨Kept.refl s, .refl sound.closed⟩
  · exact VisitRuns.bind (.of_quiet (quiet_debug _ _) sound) sound fun _ _ _ => .pure
  · refine VisitRuns.look rfl ?_
    refine VisitRuns.bind (.of_quiet (quiet_selected _) sound) sound fun name s sound => ?_
    refine VisitRuns.look rfl ?_
    refine VisitRuns.bind (.publish sound (String.append_empty ..) binding_constant) sound ?_
    intro _ s sound
    exact VisitRuns.bind (.of_quiet (quiet_debug _ _) sound) sound fun _ _ _ => .pure

theorem visitMacro_runs (sound : s.Sound) :
    VisitRuns forest (forest.Leads number) s (visitMacro number) := by
  refine VisitRuns.look rfl (VisitRuns.withFrame (VisitRuns.look rfl ?_))
  have sound := sound.entered (forest.cursor number).spelling
  split
  · exact .pure
  split
  · exact .pure
  refine VisitRuns.look rfl ?_
  refine VisitRuns.bind (.of_quiet (quiet_selected _) sound) sound fun chosen s sound => ?_
  split
  · exact .pure
  · exact addMacro_runs sound

/-! Functions. -/

theorem functionParameters_runs {outer : Session} (sound : outer.Sound) (owner : String)
    (arguments : List Nat) (index : Nat) (s : Session) (inside : Inside outer s)
    (closed : s.store.Closed) (leads : ∀ argument ∈ arguments, forest.Leads number argument) :
    RunsInside forest outer s (functionParameters outer.frames owner index arguments)
      (Parameters forest (forest.Leads number) (forest.LeadsToBareFunction number) s)
      (s.store.Extends forest (forest.Leads number)) := by
  induction arguments generalizing index s with
  | nil => exact .pure inside .nil
  | cons argument rest induction =>
      have reached := leads argument List.mem_cons_self
      have own : (forest.cursor argument).type ∈ (forest.cursor argument).types := by
        simp [Cursor.types]
      refine RunsInside.look rfl ?_
      refine RunsInside.bind (.of_runs (.of_quiet (quiet_debug _ _) (.refl closed)) inside) ?_
      intro _ logged insideLogged given
      obtain ⟨kept, same⟩ := given
      have resolves := resolveParameter_runs declare_declares (onward_leads number)
        insideLogged sound (same ▸ closed) fun _ found =>
          reached.reference (Cursor.mem_references_of_type own found)
      refine RunsInside.bind (resolves.imp_bad fun _ failed => same ▸ failed) ?_
      intro type resolved within given
      obtain ⟨gives, passable⟩ := given
      have collects (current : Session) (kept' : Kept resolved current)
          (same' : current.store = resolved.store) (inside : Inside outer current) :=
        collectParameter_runs current.policy.functions owner
          (forest.cursor argument).spelling index (onward_leads number) closed
          (same ▸ gives.imp fun bare => ⟨argument, reached, _, own, bare⟩)
          (passable.trans (and_congr_left' kept.clean_iff)) kept' same' inside
          fun named inside closed => induction (index + 1) named inside closed
            fun other later => leads other (List.mem_cons_of_mem _ later)
      refine RunsInside.look rfl ?_
      split
      · have extended : s.store.Extends forest (forest.Leads number) resolved.store :=
          same ▸ gives.built.extended (same ▸ closed) (onward_leads number)
        refine RunsInside.bind (.of_runs (.of_quiet (quiet_debug _ _) extended) within) ?_
        intro _ current insideCurrent given
        obtain ⟨kept, same⟩ := given
        exact RunsInside.look rfl (collects current kept same insideCurrent)
      · exact RunsInside.look rfl (collects resolved (.refl _) rfl within)

def VisitInside (forest : Forest) (reach : Nat → Prop) (outer s : Session) (step : Step α) : Prop :=
  RunsInside forest outer s step
    (fun _ after => Visits forest reach outer.policy s.store after.store) s.store.Advances

namespace VisitInside

variable {outer : Session}

theorem of_visitRuns {step : Step α} (runs : VisitRuns forest reach s step)
    (inside : Inside outer s) : VisitInside forest reach outer s step := by
  refine (RunsInside.of_runs runs inside).imp ?_
  intro _ after given
  obtain ⟨-, visits⟩ := given
  rwa [inside.policy] at visits

theorem pure {value : α} (inside : Inside outer s) :
    VisitInside forest reach outer s (Pure.pure value) := RunsInside.pure inside (.refl _)

theorem rebase {step : Step α} {middle : Session}
    (rest : VisitInside forest reach outer middle step) (closed : s.store.Closed)
    (visits : Visits forest reach outer.policy s.store middle.store) :
    RunsInside forest outer middle step
      (fun _ after => Visits forest reach outer.policy s.store after.store) s.store.Advances :=
  (rest.imp fun _ _ more => visits.trans more).imp_bad
    fun _ more => (visits.advances closed).trans more

theorem bind {step : Step α} {next : α → Step β} (first : VisitInside forest reach outer s step)
    (closed : s.store.Closed)
    (second : ∀ value middle, Inside outer middle →
      Visits forest reach outer.policy s.store middle.store →
      VisitInside forest reach outer middle (next value)) :
    VisitInside forest reach outer s (step >>= next) :=
  RunsInside.bind first fun value middle inside visits =>
    (second value middle inside visits).rebase closed visits

theorem of_quiet {step : Step α} (quiet : step.Quiet) (inside : Inside outer s)
    (closed : s.store.Closed) : VisitInside forest reach outer s step :=
  (RunsInside.of_runs (.of_quiet quiet (.refl closed)) inside).imp
    fun _ _ given => given.2 ▸ .refl _

theorem bind_quiet {step : Step α} {next : α → Step β} (quiet : step.Quiet)
    (inside : Inside outer s) (closed : s.store.Closed)
    (second : ∀ value middle, Inside outer middle → middle.store = s.store →
      VisitInside forest reach outer middle (next value)) :
    VisitInside forest reach outer s (step >>= next) := by
  refine RunsInside.bind (.of_runs (.of_quiet quiet (.refl closed)) inside) ?_
  intro value middle within given
  obtain ⟨-, same⟩ := given
  have rest := second value middle within same
  rwa [VisitInside, same] at rest

end VisitInside

theorem publishFunctions_runs {outer : Session} (number : Nat) (sound : outer.Sound)
    (ds : List Declaration) (s : Session) (inside : Inside outer s) (closed : s.store.Closed)
    (named : ∀ d ∈ ds, ∃ suffix, (forest.cursor number).usr ++ suffix = d.usr)
    (bindings : ∀ d ∈ ds, Binding forest outer.policy number s.store d.body) :
    VisitInside forest reach outer s (publishFunctions outer.frames ds) := by
  induction ds generalizing s with
  | nil => exact .pure inside
  | cons d rest induction =>
      have notes (current : Session) (inside : Inside outer current)
          (visits : Visits forest reach outer.policy s.store current.store) :
          VisitInside forest reach outer current
            (do note outer.frames d.usr; publishFunctions outer.frames rest) := by
        have advances := visits.advances closed
        refine RunsInside.bind (.changeFrame inside sound fun _ => rfl) ?_
        intro _ noted insideNoted given
        obtain ⟨same, -⟩ := given
        have later := induction noted insideNoted (same ▸ advances.closed)
          (fun other member => named other (List.mem_cons_of_mem _ member))
          fun other member => same ▸
            (bindings other (List.mem_cons_of_mem _ member)).grow advances.toGrows closed
        rwa [VisitInside, same] at later
      refine RunsInside.look rfl ?_
      split
      · obtain ⟨suffix, usr⟩ := named d List.mem_cons_self
        have binding := bindings d List.mem_cons_self
        rw [← inside.policy] at binding
        refine VisitInside.bind (.of_visitRuns (.publish (inside.sound sound closed) usr binding)
          inside) closed ?_
        exact fun _ middle within visits => notes middle within visits
      · exact notes s inside (.refl _)

/-- Signatures come from the policy, or there is the one that appends nothing. -/
theorem appends_of_specialize {table : SignatureTable} {name : String} {variadic : Bool}
    {signature : CallSignature} (member : signature ∈ (table.specialize name variadic).1)
    (appended : type ∈ signature.types) : table.Appends type := by
  have fixed (listed : signature ∈ [CallSignature.fixedOnly]) : False := by
    rw [List.mem_singleton.mp listed] at appended
    simp [CallSignature.fixedOnly] at appended
  unfold SignatureTable.specialize at member
  split at member
  · exact (fixed member).elim
  · split at member
    · cases found : table.find? (·.1 == name) with
      | none => simp [SignatureTable.lookup, found] at member
      | some entry =>
          refine ⟨entry, List.mem_of_find?_eq_some found, signature, ?_, appended⟩
          simpa [SignatureTable.lookup, found] using member
    · exact (fixed member).elim

theorem fine_of_functionRefusal? {c : Cursor} {store : Store} {result : CType} {f : Frame}
    (fine : functionRefusal? c store result f = none) :
    store.Passable result ∧ f.incompleteParameter = false ∧
      f.unsupportedParameter = false := by
  unfold functionRefusal? at fine
  split at fine
  · simp at fine
  split at fine
  · simp at fine
  rename_i complete
  split at fine
  · simp at fine
  rename_i supported
  simp only [Bool.or_eq_true, not_or, Bool.not_eq_true] at complete supported
  exact ⟨⟨supported.1, complete.1⟩, complete.2, supported.2⟩

theorem bindFunctions_runs {outer : Session} {signatures : List CallSignature}
    {result : CType} {params : List Parameter} (sound : outer.Sound)
    (inside : Inside outer s) (closed : s.store.Closed)
    (fine : ∀ type ∈ result :: params.map (·.type),
      s.store.Resolved (forest.LeadsToBareFunction number) type ∧ s.store.Passable type)
    (appends : ∀ signature ∈ signatures, ∀ type ∈ signature.types,
      outer.policy.signatures.Appends type) :
    VisitInside forest reach outer s
      (bindFunctions (forest.cursor number) signatures outer.frames result params) := by
  refine RunsInside.look rfl (RunsInside.look rfl ?_)
  refine VisitInside.bind_quiet (quiet_selected _) inside closed fun name named within same => ?_
  refine VisitInside.bind_quiet (quiet_selected _) within (same ▸ closed) ?_
  intro exposure s within' same'
  rw [← same, ← same'] at fine closed
  refine VisitInside.bind (publishFunctions_runs number sound _ s within' closed
    ?_ ?_) closed ?_
  · intro d member
    obtain ⟨signature, -, rfl⟩ := List.mem_map.mp member
    exact ⟨signature.suffix, rfl⟩
  · intro d member
    obtain ⟨signature, listed, rfl⟩ := List.mem_map.mp member
    exact
      { value := .function _
        resolved := fun type member => (fine type member).1
        passable := fun type member => (fine type member).2
        extra := by
          intro f same p appended
          obtain rfl := Body.function.inj same
          obtain ⟨⟨type, index⟩, listed', rfl⟩ := List.mem_map.mp appended
          exact appends signature listed type (List.fst_mem_of_mem_zipIdx listed') }
  · exact fun _ _ insideAfter _ => RunsInside.look rfl (.pure insideAfter (.refl _))

/-- The types are resolved, and the innermost frame notes the parameters that no value can be
passed through. -/
structure Signed (forest : Forest) (number : Nat) (s : Session) (result : CType)
    (params : List Parameter) (after : Session) : Prop where
  built : Builds forest (forest.Leads number) s.store after.store
  resolved : ∀ type ∈ result :: params.map (·.type),
    after.store.Resolved (forest.LeadsToBareFunction number) type
  clean : after.Clean ↔ s.Clean ∧ ∀ p ∈ params, after.store.Passable p.type

theorem resolveSignature_runs {outer : Session} (sound : outer.Sound) (inside : Inside outer s)
    (closed : s.store.Closed) :
    RunsInside forest outer s (resolveSignature (forest.cursor number) outer.frames)
      (fun typed after => Signed forest number s typed.1 typed.2 after)
      (s.store.Extends forest (forest.Leads number)) := by
  refine RunsInside.bind (.of_runs (.of_quiet (quiet_debug _ _) (.refl closed)) inside) ?_
  intro _ logged inside given
  obtain ⟨kept, same⟩ := given
  have same : logged.store = s.store := same
  rw [← same] at closed
  have own : (forest.cursor number).result ∈ (forest.cursor number).types := by
    simp [Cursor.types]
  have here := Forest.Leads.refl forest number
  have resolves := resolves_type declare_declares (onward_leads number)
    (forest.cursor number).result logged (inside.sound sound closed) fun _ found =>
      here.reference (Cursor.mem_references_of_type own found)
  refine RunsInside.bind (.of_runs (resolves.imp_bad fun _ failed => same ▸ failed) inside) ?_
  intro result resolved within given
  obtain ⟨kept', gives⟩ := given
  have extended := gives.built.extended closed (onward_leads number)
  have collects := functionParameters_runs sound (forest.cursor number).spelling
    (forest.cursor number).arguments 0 resolved within extended.closed fun argument member =>
      here.reference (Cursor.mem_references_of_argument member)
  refine RunsInside.bind (collects.imp_bad fun _ failed => same ▸ extended.trans failed) ?_
  intro params after within parameters
  have grows := parameters.built.grows extended.closed
  refine .pure within ⟨same ▸ gives.built.trans parameters.built, fun type member => ?_, ?_⟩
  · rcases List.mem_cons.mp member with rfl | member
    · exact (grows.resolved extended.closed gives.resolved).imp fun bare =>
        ⟨number, here, _, own, bare⟩
    · obtain ⟨p, listed, rfl⟩ := List.mem_map.mp member
      exact parameters.resolved p listed
  · rw [parameters.passable, (kept.trans kept').clean_iff]

theorem addFunction_runs {outer : Session} {signatures : List CallSignature} {ignored : Bool}
    (sound : outer.Sound) (inside : Inside outer s) (closed : s.store.Closed)
    (appends : ∀ signature ∈ signatures, ∀ type ∈ signature.types,
      outer.policy.signatures.Appends type) :
    VisitInside forest (forest.Leads number) outer s
      (addFunction (forest.cursor number) signatures ignored outer.frames) := by
  rw [addFunction_eq]
  refine RunsInside.bind ((resolveSignature_runs sound inside closed).imp_bad
    fun _ failed => failed.advances closed) fun typed s inside signed => ?_
  have visits : Visits forest (forest.Leads number) outer.policy _ s.store := .build signed.built
  refine VisitInside.rebase ?_ closed visits
  have closed := (visits.advances closed).closed
  refine RunsInside.look rfl (RunsInside.look rfl ?_)
  split
  · exact VisitInside.of_quiet (quiet_refuse _ _ _ _ _ _) inside closed
  rename_i fine
  obtain ⟨passable, complete, supported⟩ := fine_of_functionRefusal? fine
  have clean := signed.clean.mp (inside.clean_iff.mpr ⟨complete, supported⟩)
  have fine : ∀ type ∈ typed.1 :: typed.2.map (·.type),
      s.store.Resolved (forest.LeadsToBareFunction number) type ∧ s.store.Passable type := by
    intro type member
    refine ⟨signed.resolved type member, ?_⟩
    rcases List.mem_cons.mp member with rfl | member
    · exact passable
    · obtain ⟨p, listed, rfl⟩ := List.mem_map.mp member
      exact clean.2 p listed
  split
  · refine VisitInside.bind_quiet (quiet_diagnose _ _ _ _) inside closed ?_
    intro _ s inside same
    rw [← same] at closed fine
    exact bindFunctions_runs sound inside closed fine appends
  · exact bindFunctions_runs sound inside closed fine appends

theorem visitFunction_runs (sound : s.Sound) :
    VisitRuns forest (forest.Leads number) s (visitFunction number) := by
  refine VisitRuns.look rfl (VisitRuns.look rfl ?_)
  split
  rename_i signatures ignored specialized
  refine RunsInside.withFrame ?_
  have inside := inside_entered s (forest.cursor number).spelling
  refine RunsInside.look rfl ?_
  refine VisitInside.bind_quiet (quiet_selected _) inside sound.closed ?_
  intro chosen current inside same
  split
  · exact .pure inside
  split
  · exact .pure inside
  refine RunsInside.look rfl ?_
  split
  · exact .pure inside (.refl _)
  · exact addFunction_runs sound inside (same ▸ sound.closed)
      fun signature member type appended =>
        appends_of_specialize (by rw [specialized]; exact member) appended

theorem visit_runs (sound : s.Sound) :
    VisitRuns forest (forest.Opens number) s (visit number) := by
  have other (differs : formOf? (forest.cursor number).kind ≠ some .record) :
      ∀ target, forest.Leads number target → forest.Opens number target :=
    fun target leads => ⟨leads, fun record => absurd record differs⟩
  have own : ∀ target, target = number → forest.Opens number target := by
    rintro _ rfl
    exact ⟨.refl forest _, fun _ => rfl⟩
  refine VisitRuns.look rfl ?_
  split <;> rename_i kind
  · exact (visitFunction_runs sound).mono (other (by simp [kind, formOf?]))
  · exact (visitRecord_runs sound (by rw [kind]; rfl)).mono own
  · exact (visitRecord_runs sound (by rw [kind]; rfl)).mono own
  · exact (visitEnumeration_runs sound).mono (other (by simp [kind, formOf?]))
  · exact (visitTypedef_runs sound).mono (other (by simp [kind, formOf?]))
  · exact (visitGlobal_runs sound).mono (other (by simp [kind, formOf?]))
  · exact (visitMacro_runs sound).mono (other (by simp [kind, formOf?]))
  · exact (visitInterface_runs sound).mono (other (by simp [kind, formOf?]))
  · exact VisitRuns.bind (.of_quiet (quiet_debug _ _) sound) sound fun _ _ _ => .pure

theorem run_visit_function (kind : (forest.cursor number).kind = .function) (s : Session) :
    (visit number).run forest s = (visitFunction number).run forest s := by
  have looked : (cursor number).run forest s = (.ok (forest.cursor number), s) := rfl
  rw [visit, Step.run_bind, looked]
  dsimp only
  rw [kind]

theorem run_visit_typedef (kind : (forest.cursor number).kind = .typedef) (s : Session) :
    (visit number).run forest s = (visitTypedef number).run forest s := by
  have looked : (cursor number).run forest s = (.ok (forest.cursor number), s) := rfl
  rw [visit, Step.run_bind, looked]
  dsimp only
  rw [kind]

end Session

end LuaBinder
