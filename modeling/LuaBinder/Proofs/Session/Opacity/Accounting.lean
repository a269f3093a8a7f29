import LuaBinder.Proofs.Session.Conduct.Visiting
import LuaBinder.Proofs.Session.Opacity.Closure

namespace LuaBinder

open Header Session

/-! Every record that has been built from a definition either has its layout or has been
reported once, at any time. -/

def Body.isRecord : Body → Bool
  | .record _ _ _ => true
  | _ => false

theorem Body.Elaborates.isRecord_cases {body after : Body} (elaborates : body.Elaborates after) :
    after = body ∨ body.isRecord = false ∧ after.isRecord = false := by
  cases elaborates with
  | same => exact .inl rfl
  | enumeration | interface => exact .inr ⟨rfl, rfl⟩

namespace Store

variable {store after : Store} {key usr : String} {d : Declaration} {change : Body → Body}
  {cleared : List String}

/-- The keys of the records, in the order of publication. -/
def records (store : Store) : List String :=
  store.keys.filter fun key => (store.body? key).any Body.isRecord

theorem mem_records_iff : key ∈ store.records ↔
    ∃ kind incomplete members, store.body? key = some (.record kind incomplete members) := by
  unfold records
  rw [List.mem_filter]
  constructor
  · intro given
    cases found : store.body? key with
    | none => simp [found] at given
    | some body => cases body <;> simp_all [Body.isRecord]
  · intro given
    obtain ⟨kind, incomplete, members, found⟩ := given
    exact ⟨mem_keys_of_body? found, by simp [found, Body.isRecord]⟩

theorem mem_keys_of_mem_records (listed : key ∈ store.records) : key ∈ store.keys :=
  (List.mem_filter.mp listed).1

theorem records_congr (keys : after.keys = store.keys)
    (same : ∀ key, (after.body? key).any Body.isRecord = (store.body? key).any Body.isRecord) :
    after.records = store.records := by
  simp only [records, keys, same]

theorem body?_push_of_body? {body : Body} (fresh : d.usr ∉ store.keys)
    (found : store.body? key = some body) : (store.push d).body? key = some body := by
  have differs : key ≠ d.usr := fun same => fresh (same ▸ mem_keys_of_body? found)
  rw [body?_push fresh, if_neg differs, found]

theorem records_push (fresh : d.usr ∉ store.keys) :
    (store.push d).records = store.records ++ if d.body.isRecord then [d.usr] else [] := by
  have earlier : store.keys.filter (fun key => ((store.push d).body? key).any Body.isRecord) =
      store.records := by
    refine List.filter_congr fun key published => ?_
    have differs : key ≠ d.usr := fun same => fresh (same ▸ published)
    simp [body?_push fresh, differs]
  rw [records, keys_push, List.filter_append, earlier]
  congr 1
  simp [body?_push_self fresh, List.filter_cons]

theorem hasLayout_push (fresh : d.usr ∉ store.keys) :
    (store.push d).hasLayout key =
      if key = d.usr then isCompleteRecord d.body else store.hasLayout key := by
  unfold hasLayout
  rw [body?_push fresh]
  split <;> rfl

theorem records_clear : (store.clear cleared).records = store.records := by
  refine records_congr keys_clear fun key => ?_
  rw [body?_clear]
  split
  · cases store.body? key with
    | none => rfl
    | some body => cases body <;> rfl
  · rfl

theorem not_hasLayout (absent : key ∉ store.records) : store.hasLayout key = false := by
  rw [Bool.eq_false_iff]
  intro laid
  obtain ⟨members, kind, found⟩ := hasLayout_iff.mp laid
  exact absent (mem_records_iff.mpr ⟨kind, false, members, found⟩)

/-- Only the bodies of declarations that are no records may differ. -/
structure SameRecords (store after : Store) : Prop where
  keys : after.keys = store.keys
  bodies : ∀ key, after.body? key = store.body? key ∨
    (∃ body, store.body? key = some body ∧ body.isRecord = false) ∧
      ∃ body, after.body? key = some body ∧ body.isRecord = false

namespace SameRecords

theorem refl (store : Store) : store.SameRecords store := ⟨rfl, fun _ => .inl rfl⟩

theorem amendBody (elaborates : ∀ body, store.body? key = some body →
      change body = body ∨ body.isRecord = false ∧ (change body).isRecord = false) :
    store.SameRecords (store.amendBody key change) where
  keys := keys_amendBody
  bodies := by
    intro other
    rw [body?_amendBody]
    split
    · rename_i same
      subst same
      cases found : store.body? other with
      | none => exact .inl rfl
      | some body =>
          rcases elaborates body found with same | ⟨before, after⟩
          · exact .inl (by simp [same])
          · exact .inr ⟨⟨body, rfl, before⟩, _, rfl, after⟩
    · exact .inl rfl

theorem records_eq (same : store.SameRecords after) : after.records = store.records := by
  refine records_congr same.keys fun key => ?_
  rcases same.bodies key with equal | ⟨⟨body, found, other⟩, body', found', other'⟩
  · rw [equal]
  · simp [found, found', other, other']

theorem body?_iff (same : store.SameRecords after) {kind : RecordKind} {incomplete : Bool}
    {members : List Member} :
    after.body? key = some (.record kind incomplete members) ↔
      store.body? key = some (.record kind incomplete members) := by
  rcases same.bodies key with equal | ⟨⟨body, found, other⟩, body', found', other'⟩
  · rw [equal]
  · rw [found, found']
    constructor
    · intro record
      obtain rfl := Option.some.inj record
      cases other'
    · intro record
      obtain rfl := Option.some.inj record
      cases other

theorem hasLayout_eq (same : store.SameRecords after) (key : String) :
    after.hasLayout key = store.hasLayout key := by
  rw [Bool.eq_iff_iff, hasLayout_iff, hasLayout_iff]
  simp only [Complete, same.body?_iff]

end SameRecords

end Store

namespace Session

open Store

variable {forest : Forest} {s middle opened after : Session} {authors : List Nat} {usr : String}

/-- How often the record is reported to have lost its layout. -/
def reports (s : Session) (usr : String) : Nat :=
  s.diagnostics.countP fun d => d.reason == .unsupportedMember && d.usr == usr

/-- The records with the declarations that they have been built from, in the order in which
the log tells of them. Each that has a definition has either its layout or one report. -/
structure Ledger (forest : Forest) (authors : List Nat) (s : Session) : Prop where
  records : s.store.records = authors.map fun author => (forest.cursor author).usr
  lines : s.log.filter LogRecord.tellsRecord = authors.map forest.recordLine
  empty : ∀ key kind members, s.store.body? key = some (.record kind true members) →
    members = []
  balance : ∀ author ∈ authors,
    s.reports (forest.cursor author).usr +
      (s.store.hasLayout (forest.cursor author).usr).toNat =
    (forest.recordDefinition author).isSome.toNat
  silent : ∀ usr ∉ s.store.records, s.reports usr = 0

theorem Ledger.of_same (ledger : Ledger forest authors s)
    (records : after.store.records = s.store.records)
    (lines : after.log.filter LogRecord.tellsRecord = s.log.filter LogRecord.tellsRecord)
    (empty : ∀ key kind members, after.store.body? key = some (.record kind true members) →
      members = [])
    (balance : ∀ key, after.reports key + (after.store.hasLayout key).toNat =
      s.reports key + (s.store.hasLayout key).toNat) : Ledger forest authors after where
  records := records.trans ledger.records
  lines := lines.trans ledger.lines
  empty := empty
  balance := fun author member => (balance _).trans (ledger.balance author member)
  silent := by
    intro usr absent
    have before := ledger.silent usr (records ▸ absent)
    have same := balance usr
    rw [not_hasLayout absent, not_hasLayout (records ▸ absent), before] at same
    simpa using same

/-- What is no record does not become one, and a record without members gets none while
others are built. The ledger is kept. -/
structure Continues (forest : Forest) (s after : Session) : Prop where
  others : ∀ key body, s.store.body? key = some body → body.isRecord = false →
    ∃ body, after.store.body? key = some body ∧ body.isRecord = false
  waiting : ∀ key kind incomplete, s.store.body? key = some (.record kind incomplete []) →
    after.store.body? key = some (.record kind incomplete [])
  ledger : ∀ authors, Ledger forest authors s → ∃ more, Ledger forest (authors ++ more) after

namespace Continues

theorem trans (first : Continues forest s middle) (second : Continues forest middle after) :
    Continues forest s after where
  others := by
    intro key body found other
    obtain ⟨body', found', other'⟩ := first.others key body found other
    exact second.others key body' found' other'
  waiting := fun key kind incomplete found =>
    second.waiting key kind incomplete (first.waiting key kind incomplete found)
  ledger := by
    intro authors ledger
    obtain ⟨more, ledger⟩ := first.ledger authors ledger
    obtain ⟨further, ledger⟩ := second.ledger _ ledger
    exact ⟨more ++ further, List.append_assoc authors more further ▸ ledger⟩

theorem of_same (same : s.store.SameRecords after.store)
    (lines : after.log.filter LogRecord.tellsRecord = s.log.filter LogRecord.tellsRecord)
    (reports : ∀ usr, after.reports usr = s.reports usr) : Continues forest s after where
  others := by
    intro key body found other
    rcases same.bodies key with equal | ⟨-, other⟩
    · exact ⟨body, equal.trans found, other⟩
    · exact other
  waiting := fun _ _ _ => same.body?_iff.mpr
  ledger := by
    intro authors ledger
    refine ⟨[], ?_⟩
    rw [List.append_nil]
    refine ledger.of_same same.records_eq lines ?_ ?_
    · exact fun key kind members found => ledger.empty key kind members (same.body?_iff.mp found)
    · exact fun key => by rw [reports, same.hasLayout_eq]

theorem refl (s : Session) : Continues forest s s := .of_same (.refl _) rfl fun _ => rfl

/-- A published declaration changes nothing of the others. -/
theorem of_push {d : Declaration} {log : List LogRecord} (fresh : d.usr ∉ s.store.keys)
    (ledger : ∀ authors, Ledger forest authors s →
      ∃ more, Ledger forest (authors ++ more) { s with store := s.store.push d, log }) :
    Continues forest s { s with store := s.store.push d, log } where
  others := fun _ body found other => ⟨body, body?_push_of_body? fresh found, other⟩
  waiting := fun _ _ _ found => body?_push_of_body? fresh found
  ledger := ledger

end Continues

namespace Ledger

variable {d : Declaration}

theorem push (ledger : Ledger forest authors s) (fresh : d.usr ∉ s.store.keys)
    (other : d.body.isRecord = false) :
    Ledger forest authors { s with store := s.store.push d } := by
  refine ledger.of_same ?_ rfl ?_ fun key => ?_
  · simp [records_push fresh, other]
  · intro key kind members found
    simp only [body?_push fresh] at found
    split at found
    · rw [Option.some.inj found] at other
      cases other
    · exact ledger.empty key kind members found
  · simp only [reports, hasLayout_push fresh]
    split
    · rename_i same
      have absent : key ∉ s.store.records := fun member =>
        fresh (same ▸ mem_keys_of_mem_records member)
      rw [not_hasLayout absent]
      cases body : d.body <;> simp_all [Body.isRecord, isCompleteRecord]
    · rfl

/-- A record with a definition counts as complete until its members are known. -/
theorem opens {number : Nat} {kind : RecordKind} (ledger : Ledger forest authors s)
    (usr : d.usr = (forest.cursor number).usr) (fresh : d.usr ∉ s.store.keys)
    (body : d.body = .record kind (forest.recordDefinition number).isNone []) :
    Ledger forest (authors ++ [number])
      { s with store := s.store.push d, log := s.log ++ [forest.recordLine number] } where
  records := by
    simp [records_push fresh, body, Body.isRecord, ledger.records, usr]
  lines := by
    simp [ledger.lines]
  empty := by
    intro key kind members found
    simp only [body?_push fresh] at found
    split at found
    · simp_all
    · exact ledger.empty key kind members found
  balance := by
    intro author member
    simp only [reports, hasLayout_push fresh]
    rcases List.mem_append.mp member with earlier | own
    · have listed : (forest.cursor author).usr ∈ s.store.records := by
        rw [ledger.records]
        exact List.mem_map_of_mem earlier
      have differs : (forest.cursor author).usr ≠ d.usr := fun same =>
        fresh (same ▸ mem_keys_of_mem_records listed)
      rw [if_neg differs]
      exact ledger.balance author earlier
    · -- the key is new, so nothing has been reported of it
      obtain rfl := List.mem_singleton.mp own
      have unreported : s.reports (forest.cursor author).usr = 0 :=
        ledger.silent _ fun listed => fresh (usr ▸ mem_keys_of_mem_records listed)
      rw [if_pos usr.symm, body]
      unfold reports at unreported
      rw [unreported]
      cases forest.recordDefinition author <;> rfl
  silent := by
    intro other absent
    refine ledger.silent other fun listed => absent ?_
    simp [records_push fresh, listed]

end Ledger

theorem Reports.reports_eq {told : List Diagnostic} (reports : Reports s after told)
    (usr : String) : after.reports usr = s.reports usr + (told.map (·.usr)).count usr := by
  unfold Session.reports
  rw [reports.diagnostics, List.countP_append, List.count, List.countP_map]
  congr 1
  refine List.countP_congr fun d member => ?_
  simp [reports.reason d member]

namespace Continues

variable {kind : RecordKind} (fresh : usr ∉ s.store.keys) (opens : Continues forest s opened)
  (own : opened.store.body? usr = some (.record kind false []))
  (begun : Continues forest opened middle)
include fresh opens own begun

/-- The record gets its members at last. -/
theorem lays (members : List Member) : Continues forest s
    { middle with store := middle.store.amendBody usr (setMembers members) } := by
  have laid := begun.waiting usr kind false own
  have whole := opens.trans begun
  have amended (key : String) : (middle.store.amendBody usr (setMembers members)).body? key =
      if key = usr then some (.record kind false members) else middle.store.body? key := by
    rw [body?_amendBody, laid]
    rfl
  have kept {key : String} {body : Body} (found : s.store.body? key = some body) :
      (middle.store.amendBody usr (setMembers members)).body? key = middle.store.body? key := by
    rw [amended, if_neg fun same : key = usr => fresh (same ▸ mem_keys_of_body? found)]
  constructor
  · intro key body found other
    rw [kept found]
    exact whole.others key body found other
  · intro key kind incomplete found
    rw [kept found]
    exact whole.waiting key kind incomplete found
  · intro authors ledger
    obtain ⟨more, ledger⟩ := whole.ledger authors ledger
    refine ⟨more, ledger.of_same (records_congr keys_amendBody fun key => ?_) rfl ?_
      fun key => ?_⟩
    · by_cases same : key = usr
      · simp [amended, same, laid, Body.isRecord]
      · simp [amended, same]
    · intro key kind members found
      simp only [amended] at found
      split at found
      · simp at found
      · exact ledger.empty key kind members found
    · by_cases same : key = usr
      · simp [reports, hasLayout, amended, same, laid, isCompleteRecord]
      · simp [reports, hasLayout, amended, same]

omit own in
/-- The record loses its layout instead, and with it those that hold it by now. -/
theorem cleared {cleared : List String} {told : List Diagnostic}
    (result : after.store = middle.store.clear cleared)
    (holding : ∀ other ∈ cleared, Relation.ReflTransGen middle.store.Holds other usr)
    (reports : Reports middle after told) : Continues forest s after := by
  have whole := opens.trans begun
  constructor
  · intro key body found other
    obtain ⟨body, found, other⟩ := whole.others key body found other
    refine ⟨body, ?_, other⟩
    rw [result, body?_clear, found]
    cases body <;> simp_all [clearRecord, Body.isRecord]
  · intro key kind incomplete found
    have same := whole.waiting key kind incomplete found
    -- what waits for its members holds nothing yet, so the clearing passes it by
    have apart : key ∉ cleared := by
      intro member
      cases holding key member using Relation.ReflTransGen.head_induction_on with
      | refl => exact fresh (mem_keys_of_body? found)
      | head holds _ =>
          obtain ⟨members, ⟨kind, complete⟩, m, listed, -⟩ := holds
          rw [same] at complete
          cases complete
          cases listed
    rw [result, body?_clear, if_neg apart, same]
  · intro authors ledger
    obtain ⟨more, ledger⟩ := whole.ledger authors ledger
    refine ⟨more, ledger.of_same (result ▸ records_clear) reports.lines ?_ fun key => ?_⟩
    · intro key kind members found
      rw [result, body?_clear] at found
      split at found
      · obtain ⟨body, -, same⟩ := Option.map_eq_some_iff.mp found
        cases body <;> simp_all [clearRecord]
      · exact ledger.empty key kind members found
    · have balance := reports.balance key
      rw [reports.reports_eq]
      omega

theorem clears (fuel : Nat) (problem : String) :
    (makeOpaque fuel usr problem).Ensures forest middle
      (fun _ after => Continues forest s after) fun _ after => Continues forest s after := by
  have laid : middle.store.hasLayout usr = true :=
    hasLayout_iff.mpr ⟨[], kind, begun.waiting usr kind false own⟩
  refine ((makeOpaque_ensures fuel usr problem middle).and
    (makeOpaque_reporting fuel usr problem middle laid)).imp ?_ ?_
  · intro _ after given
    obtain ⟨⟨-, cleared, result, clears⟩, told, reports⟩ := given
    exact .cleared fresh opens begun result clears.holding reports
  · intro _ after given
    obtain ⟨⟨-, cleared, result, holding⟩, told, reports⟩ := given
    exact .cleared fresh opens begun result holding reports

end Continues

theorem Continues.aside (store : after.store = s.store)
    (diagnostics : after.diagnostics = s.diagnostics) (log : after.log = s.log) :
    Continues forest s after :=
  .of_same (store ▸ .refl _) (by rw [log]) fun usr => by rw [reports, diagnostics, reports]

/-- A frame that is entered and left again does not matter. -/
theorem Continues.left {name : String} (begun : Continues forest (s.entered name) after)
    (context : Context) : Continues forest s { after with context } := by
  have entered : Continues forest s (s.entered name) := .aside rfl rfl rfl
  exact (entered.trans begun).trans (.aside rfl rfl rfl)

theorem Continues.tells {d : Diagnostic} (other : d.reason ≠ .unsupportedMember) :
    Continues forest s { s with diagnostics := s.diagnostics ++ [d] } := by
  refine .of_same (.refl _) rfl fun usr => ?_
  simp [reports, other]

theorem Continues.of_publish {d : Declaration} (fresh : d.usr ∉ s.store.keys)
    (other : d.isRecord = false) : Continues forest s { s with store := s.store.push d } := by
  refine .of_push fresh fun authors ledger => ⟨[], ?_⟩
  rw [List.append_nil]
  exact ledger.push fresh other

/-- Builds keep the ledger, however they end. -/
def accounting (forest : Forest) : Conduct forest where
  good := Continues forest
  bad := fun _ => Continues forest
  refl := .refl
  throws := fun _ => .refl
  trans := .trans
  fails := .trans
  logs := fun s line silent => .of_same (.refl _) (by simp [silent]) fun _ => rfl
  marks := fun _ _ _ _ => .aside rfl rfl rfl
  names := fun _ _ _ _ _ => .aside rfl rfl rfl
  leaves := fun begun _ => begun.left _
  misses := fun {_ _ after _} begun => begun.left after.context
  unwinds := fun context failed => failed.left context
  refuses := by
    intro s number d _ _ refusal
    apply Continues.tells
    rcases refusal with same | same <;> simp [same]
  publishes := by
    exact fun s d fresh other _ _ => .of_publish fresh other
  elaborates := by
    intro s usr change elaborates
    have same : s.store.SameRecords (s.store.amendBody usr change) :=
      .amendBody fun body _ => (elaborates body).isRecord_cases
    exact .of_same same rfl fun _ => rfl
  typedefs := by
    intro s middle usr type begun own
    obtain ⟨body, found, other⟩ := begun.others usr _ own rfl
    have same : middle.store.SameRecords
        (middle.store.amendBody usr fun _ => .typedef (some type)) := by
      refine .amendBody fun body' found' => .inr ⟨?_, rfl⟩
      rw [found] at found'
      exact Option.some.inj found' ▸ other
    exact .of_same same rfl fun _ => rfl
  opens := by
    intro s number d kind usr fresh body _
    refine Continues.of_push fresh fun authors ledger => ⟨[number], ?_⟩
    exact ledger.opens usr fresh body
  lays := fun members fresh opens own begun => opens.lays fresh own begun members
  clears := fun fuel problem fresh opens own begun => opens.clears fresh own begun fuel problem

theorem liberal_accounting (c : Cursor) (usrs : List String) :
    (accounting forest).Liberal c usrs where
  aside := fun store diagnostics log _ _ => .aside store diagnostics log
  tells := fun _ _ _ other => .tells other
  binds := by
    intro s d fresh function _ _
    refine .of_publish fresh ?_
    cases body : d.body with
    | record kind => cases kind <;> simp [isFunction, Declaration.kind, body, Body.kind,
        RecordKind.declarationKind] at function
    | _ => simp [Declaration.isRecord, body]

theorem Continues.named {store : Store} (naming : s.store.NamedAs store) :
    Continues forest s { s with store } :=
  .of_same ⟨naming.keys_eq, fun _ => .inl naming.body?_eq⟩ rfl fun _ => rfl

theorem Step.Keeps.continues {step : Step α} (keeps : step.Keeps forest (accounting forest))
    (s : Session) : Continues forest s (step.run forest s).2 :=
  Step.Ensures.after _ (keeps s)

theorem continues_perform (command : Command) : Continues forest s (command.perform forest s) := by
  cases command with
  | visit number => exact (keeps_visit fun _ => liberal_accounting _ _).continues s
  | run top =>
      have kept : (runAll top).Keeps forest (accounting forest) :=
        keeps_runAll top (fun _ => .aside rfl rfl rfl)
          (fun _ _ => keeps_visit fun _ => liberal_accounting _ _)
          .named
      exact kept.continues s
  | resolve type =>
      have kept : (resolveType type).Keeps forest (accounting forest) :=
        keeps_resolve keeps_declare type
      exact kept.continues s
  | configure policy => exact .aside rfl rfl rfl

theorem ledger_start (policy : Policy) : Ledger forest [] { policy } where
  records := rfl
  lines := rfl
  empty := by simp [Store.body?, Store.lookup?]
  balance := by simp
  silent := fun _ _ => rfl

theorem exists_ledger (forest : Forest) (policy : Policy) (commands : List Command) :
    ∃ authors, Ledger forest authors (history forest policy commands) := by
  refine history_induction (fun s => ∃ authors, Ledger forest authors s)
    ⟨[], ledger_start policy⟩ fun s known command _ => ?_
  obtain ⟨authors, ledger⟩ := known
  obtain ⟨more, ledger⟩ := (continues_perform command).ledger authors ledger
  exact ⟨_, ledger⟩

/-- Whatever is asked of a session, the log tells for each published record in turn whether
it has been built from a definition. An opaque one has no members. If it has a definition
it is reported once, and no other declaration is. -/
theorem opaque_records_reported (forest : Forest) (policy : Policy) (commands : List Command) :
    ∃ authors : List Nat,
      (history forest policy commands).store.records =
        authors.map (fun author => (forest.cursor author).usr) ∧
      (history forest policy commands).log.filter LogRecord.tellsRecord =
        authors.map forest.recordLine ∧
      (∀ author ∈ authors, ∃ kind incomplete members,
        (history forest policy commands).store.body? (forest.cursor author).usr =
          some (.record kind incomplete members) ∧
        (incomplete = true → members = []) ∧
        (history forest policy commands).reports (forest.cursor author).usr =
          if incomplete = true ∧ (forest.recordDefinition author).isSome = true then 1 else 0) ∧
      ∀ usr ∉ (history forest policy commands).store.records,
        (history forest policy commands).reports usr = 0 := by
  obtain ⟨authors, ledger⟩ := exists_ledger forest policy commands
  refine ⟨authors, ledger.records, ledger.lines, fun author member => ?_, ledger.silent⟩
  have listed : (forest.cursor author).usr ∈ (history forest policy commands).store.records := by
    rw [ledger.records]
    exact List.mem_map_of_mem member
  obtain ⟨kind, incomplete, members, found⟩ := mem_records_iff.mp listed
  have balance := ledger.balance author member
  refine ⟨kind, incomplete, members, found, ?_, ?_⟩
  · rintro rfl
    exact ledger.empty _ kind members found
  · simp only [hasLayout, found, Option.any_some] at balance
    cases incomplete with
    | true =>
        cases defined : (forest.recordDefinition author).isSome <;>
          simpa [defined, isCompleteRecord] using balance
    | false =>
        have once := Bool.toNat_le (forest.recordDefinition author).isSome
        simp only [isCompleteRecord, Bool.toNat_true] at balance
        simp only [Bool.false_eq_true, false_and, if_false]
        omega

end Session

end LuaBinder
