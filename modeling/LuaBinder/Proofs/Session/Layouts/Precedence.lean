import LuaBinder.Proofs.Session.Courses
import LuaBinder.Proofs.Session.Fares.Running
import LuaBinder.Proofs.Session.Layouts.Authors

namespace LuaBinder

open Header Session

/-! Of all declarations of a record, the one that a run reaches first is its author. -/

namespace Header.Forest

variable {forest : Forest} {first author : Nat} {key : String}

/-- The visited declaration leads to one with the USR; if it is such a record itself, to no
other one. -/
structure Reaches (forest : Forest) (first : Nat) (key : String) (author : Nat) : Prop where
  usr : (forest.cursor author).usr = key
  leads : forest.Leads first author
  own : formOf? (forest.cursor first).kind = some .record → (forest.cursor first).usr = key →
    author = first

theorem Origin.reaches (origin : forest.Origin (forest.Opens first) key author) :
    forest.Reaches first key author where
  usr := origin.usr
  leads := by
    rcases origin.reached with opened | ⟨source, opened, -, onward⟩
    · exact opened.1
    · exact opened.1.trans onward
  own := by
    intro formed same
    rcases origin.reached with opened | ⟨source, opened, differs, -⟩
    · exact opened.2 formed
    · exact absurd (opened.2 formed ▸ same) differs

/-- Without a definition the record is opaque, which means without members. With one whose
members are all supported it is complete, and has these members. -/
structure Decides (forest : Forest) (store : Store) (author : Nat) (incomplete : Bool)
    (members : List Member) : Prop where
  formed : formOf? (forest.cursor author).kind = some .record
  undefined : forest.recordDefinition author = none → incomplete = true
  empty : incomplete = true → members = []
  supported : ∀ defined types, forest.recordDefinition author = some defined →
    (forest.report author).Supports store types →
    incomplete = false ∧ List.Forall₂ CType.Alike (members.map (·.type)) types ∧
      members.map (·.nativeName) = (forest.fieldNumbers defined).map forest.memberName

end Header.Forest

theorem Store.Authored.decides {forest : Forest} {store : Store} {author : Nat}
    {incomplete : Bool} {members : List Member}
    (authored : store.Authored forest author incomplete members) :
    forest.Decides store author incomplete members where
  formed := authored.formed
  undefined := by
    intro unknown
    by_contra complete
    obtain ⟨view, -, laid⟩ := authored.laid (by simpa using complete)
    exact absurd laid.types (by simp [Forest.layout_report_of_none view unknown])
  empty := fun hidden => (authored.hidden hidden).1
  supported := by
    intro defined types known supports
    cases incomplete with
    | true => exact absurd supports ((authored.hidden rfl).2 types)
    | false =>
        obtain ⟨view, worsens, laid⟩ := authored.laid rfl
        obtain ⟨own, ⟨same, -⟩, alike⟩ := worsens.supports supports
        obtain rfl := Option.some.inj (same.symm.trans laid.types)
        exact ⟨rfl, alike, laid.names defined known⟩

namespace Session

open Store Step

variable {forest : Forest} {policy : Policy} {s middle : Session} {number author : Nat}
  {key : String} {bindings : List String}

theorem run_visitAll_cons {value : List String}
    (visited : (visit number).run forest s = (.ok value, middle)) (rest : List Nat) :
    (visitAll (number :: rest)).run forest s = (visitAll rest).run forest middle := by
  rw [visitAll, run_bind_of_ok visited]

theorem visits_of_visit {value : List String} (sound : s.Sound)
    (visited : (visit number).run forest s = (.ok value, middle)) :
    Visits forest (forest.Opens number) s.policy s.store middle.store ∧ Kept s middle ∧
      middle.Sound := by
  have runs : (visit number).Ensures forest s _ _ := visit_runs sound
  have given := Ensures.of_ok runs (congrArg Prod.fst visited)
  rw [visited] at given
  obtain ⟨kept, visits⟩ := given
  exact ⟨visits, kept, sound.of_kept kept (visits.advances sound.closed).closed⟩

/-- The visit of the declaration publishes the USR. -/
def PublishedBy (forest : Forest) (s : Session) (top : List Nat) (usr : String) (first : Nat) :
    Prop :=
  ∃ before rest, top = before ++ first :: rest ∧
    usr ∉ ((visitAll before).run forest s).2.store.keys ∧
    usr ∈ ((visitAll (before ++ [first])).run forest s).2.store.keys

/-- The visit that publishes the USR reaches the author. -/
def FirstReached (forest : Forest) (s : Session) (top : List Nat) (key : String)
    (author : Nat) : Prop :=
  ∃ before first rest, top = before ++ first :: rest ∧
    key ∉ ((visitAll before).run forest s).2.store.keys ∧
    key ∈ ((visitAll (before ++ [first])).run forest s).2.store.keys ∧
    forest.Reaches first key author

theorem firstReached_iff {top : List Nat} :
    FirstReached forest s top key author ↔
      ∃ first, PublishedBy forest s top key first ∧ forest.Reaches first key author := by
  constructor
  · rintro ⟨before, first, rest, whole, absent, published, reaches⟩
    exact ⟨first, ⟨before, rest, whole, absent, published⟩, reaches⟩
  · rintro ⟨first, ⟨before, rest, whole, absent, published⟩, reaches⟩
    exact ⟨before, first, rest, whole, absent, published, reaches⟩

namespace PublishedBy

variable {value : List String} {rest : List Nat} {first : Nat}
  (visited : (visit number).run forest s = (.ok value, middle))
include visited

theorem here (absent : key ∉ s.store.keys) (published : key ∈ middle.store.keys) :
    PublishedBy forest s (number :: rest) key number := by
  refine ⟨[], rest, rfl, absent, ?_⟩
  rw [List.nil_append, run_visitAll_cons visited]
  exact published

theorem later (published : PublishedBy forest middle rest key first) :
    PublishedBy forest s (number :: rest) key first := by
  obtain ⟨before, after, rfl, absent, published⟩ := published
  refine ⟨number :: before, after, rfl, ?_, ?_⟩
  · rwa [run_visitAll_cons visited]
  · rwa [List.cons_append, run_visitAll_cons visited]

end PublishedBy

theorem visitAll_grows (top : List Nat) (sound : s.Sound) :
    (visitAll top).Ensures forest s (fun _ after => s.store.Grows after.store) fun _ _ => True := by
  have runs : (visitAll top).Ensures forest s _ _ := visitAll_runs top s sound
  exact runs.imp (fun _ _ given => (given.2.advances sound.closed).toGrows) fun _ _ _ => trivial

/-- Visits publish records as their authors say. -/
def Precedes (forest : Forest) (s : Session) (top : List Nat) (after : Session) : Prop :=
  ∀ key kind incomplete members, after.store.body? key = some (.record kind incomplete members) →
    key ∉ s.store.keys →
    ∃ author, FirstReached forest s top key author ∧
      after.store.Authored forest author incomplete members

theorem visitAll_precedes (top : List Nat) (s : Session) (sound : s.Sound) :
    (visitAll top).Ensures forest s (fun _ after => Precedes forest s top after)
      fun _ _ => True := by
  induction top generalizing s with
  | nil => exact fun _ _ _ _ found absent => absurd (mem_keys_of_body? found) absent
  | cons number rest induction =>
      refine Ensures.bind_run (fun value middle visited => ?_) fun _ _ _ => trivial
      obtain ⟨visits, -, sound'⟩ := visits_of_visit sound visited
      refine ((induction middle sound').and (visitAll_grows rest sound')).imp ?_
        fun _ _ _ => trivial
      intro _ after given key kind incomplete members found absent
      obtain ⟨precedes, grows⟩ := given
      by_cases published : key ∈ middle.store.keys
      · rw [grows.body? published] at found
        obtain ⟨author, origin, authored⟩ :=
          visits.authors sound.closed key kind incomplete members found absent
        have here : PublishedBy forest s (number :: rest) key number :=
          .here visited absent published
        exact ⟨author, firstReached_iff.mpr ⟨number, here, origin.reaches⟩,
          authored.worsens (.of_grows grows)⟩
      · obtain ⟨author, reached, authored⟩ :=
          precedes key kind incomplete members found published
        obtain ⟨first, later, reaches⟩ := firstReached_iff.mp reached
        exact ⟨author, firstReached_iff.mpr ⟨first, later.later visited, reaches⟩, authored⟩

/-- A record that is taken in is published. -/
theorem visit_publishes (sound : s.Sound)
    (formed : formOf? (forest.cursor number).kind = some .record)
    (named : (forest.cursor number).anonymous = false)
    (taken : (recordSelection s.policy (forest.cursor number).kind).includes
      (forest.cursor number).usr (forest.cursor number).spelling = .ok true) :
    (visit number).Ensures forest s (fun _ after => (forest.cursor number).usr ∈ after.store.keys)
      fun _ _ => True := by
  have publishes : (visitRecord number).Ensures forest s
      (fun _ after => (forest.cursor number).usr ∈ after.store.keys) fun _ _ => True := by
    rw [visitRecord_eq]
    exact Ensures.look rfl (Course.publishes (lawful_recordCourse _) (builds_recordCourse formed)
      named taken sound)
  have record : (forest.cursor number).kind = .struct ∨ (forest.cursor number).kind = .union := by
    revert formed
    cases (forest.cursor number).kind <;> simp [formOf?]
  refine Ensures.look rfl ?_
  rcases record with kind | kind <;> rw [kind] <;> exact publishes

theorem visitAll_publishes (top : List Nat) (s : Session) (sound : s.Sound)
    (listed : number ∈ top) (formed : formOf? (forest.cursor number).kind = some .record)
    (named : (forest.cursor number).anonymous = false)
    (taken : (recordSelection s.policy (forest.cursor number).kind).includes
      (forest.cursor number).usr (forest.cursor number).spelling = .ok true) :
    (visitAll top).Ensures forest s
      (fun _ after => (forest.cursor number).usr ∈ after.store.keys) fun _ _ => True := by
  induction top generalizing s with
  | nil => exact absurd listed List.not_mem_nil
  | cons first rest induction =>
      have runs : (visit first).Ensures forest s _ _ := visit_runs sound
      have own : (visit first).Ensures forest s
          (fun _ middle => number = first → (forest.cursor number).usr ∈ middle.store.keys)
          fun _ _ => True := by
        by_cases same : number = first
        · subst same
          exact (visit_publishes sound formed named taken).imp
            (fun _ _ published _ => published) fun _ _ _ => trivial
        · exact runs.imp (fun _ _ _ here => absurd here same) fun _ _ _ => trivial
      refine Ensures.bind ((runs.and own).imp (fun _ _ given => given) fun _ _ _ => trivial)
        fun _ middle given => ?_
      obtain ⟨⟨kept, visits⟩, own⟩ := given
      have sound' := sound.of_kept kept (visits.advances sound.closed).closed
      rcases List.mem_cons.mp listed with same | listed
      · exact (visitAll_grows rest sound').imp (fun _ _ grows => grows.mem_keys (own same))
          fun _ _ failed => failed
      · exact induction middle sound' listed (kept.policy ▸ taken)

/-- What a run visits its declarations from. -/
def begun (forest : Forest) (policy : Policy) (top : List Nat) : Session :=
  { policy, typedefNamed := typedefNames forest top }

theorem sound_begun {top : List Nat} : (begun forest policy top).Sound where
  closed := closed_empty
  framed := by simp [begun, Framed]

/-- A run that succeeds has visited everything, and numbers what is nameless then. -/
theorem store_of_run {top : List Nat}
    (succeeded : ((runAll top).run forest { policy }).1 = .ok bindings) :
    ((visitAll top).run forest (begun forest policy top)).1 = .ok () ∧
      ((runAll top).run forest { policy }).2.store =
        ⟨nameAll [] ((visitAll top).run forest (begun forest policy top)).2.store.entries⟩ ∧
      bindings = emitted ((runAll top).run forest { policy }).2.store := by
  have ensured : (runAll top).Ensures forest { policy }
      (fun bindings ended =>
        ((visitAll top).run forest (begun forest policy top)).1 = .ok () ∧
          ended.store = ⟨nameAll []
            ((visitAll top).run forest (begun forest policy top)).2.store.entries⟩ ∧
          bindings = emitted ended.store) fun _ _ => True := by
    refine Ensures.look rfl (ensures_bind.mpr (ensures_modify.mpr ?_))
    refine Ensures.bind_run (fun _ grown visited => ?_) fun _ _ _ => trivial
    refine Ensures.look rfl ?_
    dsimp only
    split
    · trivial
    have names : nameAnonymous.Ensures forest grown
        (fun _ named => named.store = ⟨nameAll [] grown.store.entries⟩) fun _ _ => True := rfl
    refine Ensures.bind names fun _ ended named => Ensures.look rfl (Ensures.look rfl ?_)
    exact ⟨congrArg Prod.fst visited, by rw [begun, visited]; exact named, rfl⟩
  exact Ensures.of_ok ensured succeeded

theorem visited_of_run {top : List Nat}
    (succeeded : ((runAll top).run forest { policy }).1 = .ok bindings) :
    ((visitAll top).run forest (begun forest policy top)).1 = .ok () ∧
      ((visitAll top).run forest (begun forest policy top)).2.store.NamedAs
        ((runAll top).run forest { policy }).2.store ∧
      bindings = emitted ((runAll top).run forest { policy }).2.store := by
  obtain ⟨visited, numbered, listed⟩ := store_of_run succeeded
  exact ⟨visited, numbered ▸ namedAs_nameAll [] _, listed⟩

/-- Nothing is told after the visits. -/
theorem diagnostics_of_run {top : List Nat}
    (succeeded : ((runAll top).run forest { policy }).1 = .ok bindings) :
    ((runAll top).run forest { policy }).2.diagnostics =
      ((visitAll top).run forest (begun forest policy top)).2.diagnostics := by
  have ensured : (runAll top).Ensures forest { policy }
      (fun _ ended => ended.diagnostics =
        ((visitAll top).run forest (begun forest policy top)).2.diagnostics)
      fun _ _ => True := by
    refine Ensures.look rfl (ensures_bind.mpr (ensures_modify.mpr ?_))
    refine Ensures.bind_run (fun _ grown visited => Ensures.look rfl ?_) fun _ _ _ => trivial
    dsimp only
    split
    · trivial
    · rw [begun, visited]
      rfl
  exact Ensures.of_ok ensured succeeded

theorem mem_emitted_of_record {store : Store} {kind : RecordKind} {incomplete : Bool}
    {members : List Member} (closed : store.Closed)
    (found : store.body? key = some (.record kind incomplete members)) : key ∈ emitted store := by
  obtain ⟨d, located, body⟩ := Option.map_eq_some_iff.mp found
  refine (mem_emitted_iff closed).mpr ⟨d, located, ?_⟩
  rw [isEmitted, body]

/-- Only structs and unions have the USR. -/
def OnlyRecords (sources : Sources) (usr : String) : Prop :=
  ∀ kind, sources.Presents usr kind → kind = .struct ∨ kind = .union

instance (sources : Sources) (usr : String) : Decidable (OnlyRecords sources usr) :=
  decidable_of_iff
    (∀ entry ∈ sources.presented, entry.1 = usr → entry.2 = .struct ∨ entry.2 = .union) (by
    refine ⟨fun listed kind presents => ?_, fun only entry listed same => ?_⟩
    · exact listed _ (Sources.mem_presented_iff.mpr presents) rfl
    · exact only _ (Sources.mem_presented_iff.mp (same ▸ listed)))

theorem OnlyRecords.record {sources : Sources} {body : Body} (only : OnlyRecords sources key)
    (described : sources.Describes key body) :
    ∃ kind incomplete members, body = .record kind incomplete members := by
  have kinds := only _ described.presented
  cases body with
  | record kind incomplete members => exact ⟨kind, incomplete, members, rfl⟩
  | _ => simp [Body.kind] at kinds

/-- A run that succeeds publishes every record that it takes in at the top. Of the cursors of
one USR, the one that is reached first decides for good, whatever stands elsewhere in the
list: without a definition the record stays opaque, and with one whose members are supported
it is complete and has these members. -/
theorem first_reached_decides (forest : Forest) (policy : Policy) (top : List Nat)
    (succeeded : ((runAll top).run forest { policy }).1 = .ok bindings) :
    let store := ((runAll top).run forest { policy }).2.store
    (∀ number ∈ top, formOf? (forest.cursor number).kind = some .record →
      (forest.cursor number).anonymous = false →
      (recordSelection policy (forest.cursor number).kind).includes (forest.cursor number).usr
        (forest.cursor number).spelling = .ok true →
      OnlyRecords (.ofCommands forest policy []) (forest.cursor number).usr →
      (forest.cursor number).usr ∈ bindings ∧ ∃ kind incomplete members,
        store.body? (forest.cursor number).usr = some (.record kind incomplete members)) ∧
    ∀ usr kind incomplete members, store.body? usr = some (.record kind incomplete members) →
      ∃ author, FirstReached forest (begun forest policy top) top usr author ∧
        forest.Decides store author incomplete members := by
  intro store
  obtain ⟨visited, naming, rfl⟩ := visited_of_run succeeded
  have started : (Sources.ofCommands forest policy []).Settled { policy } :=
    ⟨sound_start policy, .empty, List.mem_cons_self⟩
  have ended := (Ensures.of_ok (Sources.runAll_lands started top) succeeded).1
  refine ⟨fun number listed formed named taken only => ?_, ?_⟩
  · have published := Ensures.of_ok
      (visitAll_publishes top (begun forest policy top) sound_begun listed formed named taken)
      visited
    rw [← naming.keys_eq] at published
    obtain ⟨body, found⟩ := exists_body? published
    obtain ⟨kind, incomplete, members, rfl⟩ := only.record (ended.described.body? found)
    exact ⟨mem_emitted_of_record ended.closed found, kind, incomplete, members, found⟩
  · intro usr kind incomplete members found
    rw [naming.body?_eq] at found
    obtain ⟨author, reached, authored⟩ := Ensures.of_ok
      (visitAll_precedes top (begun forest policy top) sound_begun) visited
      usr kind incomplete members found (by simp [begun, Store.keys])
    exact ⟨author, reached, (authored.worsens (.of_body? fun _ => naming.body?_eq)).decides⟩

/-- `typedef struct S *P; struct S { int x; }; struct H;`, where the typedef refers to an
earlier declaration of `S` that knows the definition. -/
def pointerFirst : Forest := ⟨#[
  { kind := .typedef, spelling := "P", usr := "c:P"
    underlying := .pointerTo (.declared .record 1) },
  { kind := .struct, spelling := "S", usr := "c:S", isDefinition := false, definition := some 2 },
  { kind := .struct, spelling := "S", usr := "c:S", children := [3], definition := some 2 },
  { kind := .field, spelling := "x", usr := "c:S@x", type := .ofKind .int },
  { kind := .struct, spelling := "H", usr := "c:H", isDefinition := false }]⟩

def pointerFirstMember : Member := { name := "x", type := .primitive .int, nativeName := "x" }

def pointerFirstRun : Except Error (List String) × Session :=
  (runAll [0, 2, 4]).run pointerFirst { policy := {} }

/-- The declaration that the typedef refers to decides, with the members that it leads to. -/
theorem pointerFirst_decides :
    pointerFirstRun.1 = .ok ["c:P", "c:S", "c:H"] ∧
      (pointerFirst.report 1).Supports pointerFirstRun.2.store [.primitive .int] ∧
      "c:S" ∈ ["c:P", "c:S", "c:H"] ∧
      ∃ author,
        FirstReached pointerFirst (begun pointerFirst {} [0, 2, 4]) [0, 2, 4] "c:S" author ∧
        pointerFirst.Decides pointerFirstRun.2.store author false [pointerFirstMember] := by
  have succeeded : pointerFirstRun.1 = .ok ["c:P", "c:S", "c:H"] := by decide +kernel
  have supports : (pointerFirst.report 1).Supports pointerFirstRun.2.store [.primitive .int] := by
    decide +kernel
  have only : OnlyRecords (.ofCommands pointerFirst {} []) "c:S" := by decide +kernel
  have complete : pointerFirstRun.2.store.Complete "c:S" [pointerFirstMember] := by
    decide +kernel
  unfold pointerFirstRun at *
  obtain ⟨published, decided⟩ := first_reached_decides pointerFirst {} [0, 2, 4] succeeded
  obtain ⟨kind, found⟩ := complete
  obtain ⟨author, reached, decides⟩ := decided _ _ _ _ found
  obtain ⟨listed, -⟩ := published 2 (by decide) rfl rfl (by decide +kernel) only
  exact ⟨succeeded, supports, listed, author, reached, decides⟩

/-- `struct S;` in one header and `struct S { int x; };` in another. -/
def lateDefinition : Forest := ⟨#[
  { kind := .struct, spelling := "S", usr := "c:S", isDefinition := false },
  { kind := .struct, spelling := "S", usr := "c:S", children := [2], definition := some 1 },
  { kind := .field, spelling := "x", usr := "c:S@x", type := .ofKind .int }]⟩

def lateDefinitionRun : Except Error (List String) × Session :=
  (runAll [0, 1]).run lateDefinition { policy := {} }

/-- A definition at the top, taken in and with supported members, comes too late. -/
theorem lateDefinition_ignored :
    lateDefinitionRun.1 = .ok ["c:S"] ∧
      OnlyRecords (.ofCommands lateDefinition {} []) "c:S" ∧
      (recordSelection {} .struct).includes "c:S" "S" = .ok true ∧
      lateDefinition.recordDefinition 1 = some 1 ∧
      (lateDefinition.report 1).Supports lateDefinitionRun.2.store [.primitive .int] ∧
      lateDefinitionRun.2.store.isIncomplete (.compound "c:S") = true ∧
      (lateDefinitionRun.2.store.body? "c:S").map (·.types) = some [] := by
  decide +kernel

end Session

end LuaBinder
