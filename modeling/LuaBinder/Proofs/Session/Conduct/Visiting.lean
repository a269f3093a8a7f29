import LuaBinder.Proofs.Session.History
import LuaBinder.Proofs.Session.Values.Visiting

namespace LuaBinder.Session

open Header Store

/-! What visits and runs may do to a session besides building declarations: they note and
drop declarations, tell why, and name what is nameless. -/

/-- The conduct allows it all to a visit of the declaration that may bind the USRs. -/
structure Conduct.Liberal {forest : Forest} (conduct : Conduct forest) (c : Cursor)
    (usrs : List String) : Prop where
  aside {s after : Session} : after.store = s.store → after.diagnostics = s.diagnostics →
    after.log = s.log → after.policy = s.policy → after.typedefNamed = s.typedefNamed →
    conduct.good s after
  tells (s : Session) {d : Diagnostic} : d.usr = c.usr → d.reason ≠ .unsupportedMember →
    conduct.good s { s with diagnostics := s.diagnostics ++ [d] }
  binds (s : Session) {d : Declaration} : d.usr ∉ s.store.keys → isFunction d = true →
    d.nativeName = c.spelling → d.usr ∈ usrs → conduct.good s { s with store := s.store.push d }

variable {forest : Forest} {conduct : Conduct forest}

open Step (keeps_pure keeps_throw keeps_modify)

/-! Steps of visits. -/

theorem keeps_published? {usr : String} {ok : Declaration → Bool}
    {next : Option Declaration → Step α} (rest : ∀ found, (next found).Keeps forest conduct) :
    (published? usr ok >>= next).Keeps forest conduct :=
  .look (fun s => (s.store.lookup? usr).filter ok) (fun _ => rfl) fun _ => rest _

theorem keeps_isDropped {usr : String} {next : Bool → Step α}
    (rest : ∀ dropped, (next dropped).Keeps forest conduct) :
    (isDropped usr >>= next).Keeps forest conduct :=
  .look (fun s => s.dropped.contains usr) (fun _ => rfl) fun _ => rest _

theorem keeps_visitConstants (numbers : List Nat) :
    (visitConstants numbers).Keeps forest conduct := by
  induction numbers with
  | nil => exact keeps_pure _
  | cons number rest induction =>
      refine keeps_cursor (.look (·.policy) (fun _ => rfl) fun s => ?_)
      refine keeps_published? fun found => ?_
      split
      · exact induction.bind fun _ => keeps_pure _
      refine (keeps_selected _).bind fun chosen => ?_
      split
      · exact induction
      refine (keeps_selected _).bind fun name => (keeps_docOf _).bind fun doc => ?_
      refine (keeps_publish rfl rfl fun _ => titles_of_untagged rfl).bind fun _ => ?_
      refine (keeps_debug _ (by simp)).bind fun _ => ?_
      exact induction.bind fun _ => keeps_pure _

theorem keeps_visitEnumeration (number : Nat)
    (enumeration : (forest.cursor number).kind = .enumeration) :
    (visitEnumeration number).Keeps forest conduct := by
  refine keeps_cursor (keeps_withFrame fun _ => ?_)
  split
  · refine .look id (fun _ => rfl) fun s => ?_
    split
    · exact keeps_pure _
    · exact keeps_childrenOf fun _ => keeps_visitConstants _
  refine keeps_published? fun found => ?_
  split
  · exact keeps_pure _
  refine .look (·.policy) (fun _ => rfl) fun s => (keeps_selected _).bind fun chosen => ?_
  split
  · exact (keeps_buildEnumeration number enumeration).bind fun _ => keeps_pure _
  · exact keeps_pure _

theorem keeps_visitRecord (number : Nat)
    (record : formOf? (forest.cursor number).kind = some .record) :
    (visitRecord number).Keeps forest conduct := by
  refine keeps_cursor (keeps_withFrame fun _ => keeps_published? fun found => ?_)
  split
  · exact keeps_pure _
  split
  · exact keeps_pure _
  refine .look (·.policy) (fun _ => rfl) fun s => (keeps_selected _).bind fun chosen => ?_
  split
  · exact (keeps_buildRecord keeps_declare number record).bind fun _ => keeps_pure _
  · exact keeps_pure _

theorem keeps_visitInterface (number : Nat) : (visitInterface number).Keeps forest conduct := by
  refine keeps_cursor (keeps_withFrame fun _ => keeps_published? fun found => ?_)
  split
  · exact keeps_pure _
  refine .look (·.policy) (fun _ => rfl) fun s => (keeps_selected _).bind fun chosen => ?_
  split
  · exact (keeps_buildInterface keeps_declare number).bind fun _ => keeps_pure _
  · exact keeps_pure _

theorem keeps_addMacro (c : Cursor) : (addMacro c).Keeps forest conduct := by
  unfold addMacro
  dsimp only
  split
  · exact keeps_throw _
  · exact (keeps_debug _ (by simp)).bind fun _ => keeps_pure _
  · refine .look (·.policy) (fun _ => rfl) fun s => (keeps_selected _).bind fun name => ?_
    refine (keeps_docOf _).bind fun doc => ?_
    refine (keeps_publish rfl rfl fun _ => titles_of_untagged rfl).bind fun _ => ?_
    exact (keeps_debug _ (by simp)).bind fun _ => keeps_pure _

theorem keeps_visitMacro (number : Nat) : (visitMacro number).Keeps forest conduct := by
  refine keeps_cursor (keeps_withFrame fun _ => keeps_published? fun found => ?_)
  split
  · exact keeps_pure _
  split
  · exact keeps_pure _
  refine .look (·.policy) (fun _ => rfl) fun s => (keeps_selected _).bind fun chosen => ?_
  split
  · exact keeps_pure _
  · exact keeps_addMacro _

section

variable {c : Cursor} {usrs : List String} (liberal : conduct.Liberal c usrs)
include liberal

theorem keeps_diagnose {reason : Reason} (name message : String)
    (other : reason ≠ .unsupportedMember) :
    (diagnose name c.usr reason message).Keeps forest conduct := fun s =>
  ensures_diagnose_of_allowed (liberal.tells s rfl other)

theorem keeps_drop (usr : String) : (drop usr).Keeps forest conduct := by
  refine keeps_modify fun s => ?_
  split
  · exact conduct.refl s
  · exact liberal.aside rfl rfl rfl rfl rfl

theorem keeps_publishFunctions (frameNumber : Nat) (ds : List Declaration)
    (binds : ∀ d ∈ ds, ∀ s : Session, d.usr ∉ s.store.keys →
      conduct.good s { s with store := s.store.push d }) :
    (publishFunctions frameNumber ds).Keeps forest conduct := by
  induction ds with
  | nil => exact keeps_pure _
  | cons d rest induction =>
      have rest := induction fun other member => binds other (List.mem_cons_of_mem _ member)
      have noted : (note frameNumber d.usr).Keeps forest conduct :=
        keeps_modify fun s => liberal.aside rfl rfl rfl rfl rfl
      have published : (publish d).Keeps forest conduct := fun s =>
        ensures_publish (binds d List.mem_cons_self s) fun _ => conduct.throws _ s
      refine .look (·.store) (fun _ => rfl) fun s => ?_
      dsimp only
      split
      · exact published.bind fun _ => noted.bind fun _ => rest
      · exact noted.bind fun _ => rest

/-- What is refused is told and dropped. -/
theorem keeps_refuse {source logged : String} (refusal : Refusal)
    (other : "ffi_gen." ++ source ≠ "ffi_gen.struct")
    (refused : refusal.reason.isRefusal = true) :
    (refuse source logged c.spelling c.usr refusal.reason refusal.message).Keeps
      forest conduct := by
  have reason : refusal.reason ≠ .unsupportedMember := by
    intro same
    rw [same] at refused
    cases refused
  refine (keeps_debug _ other).bind fun _ => ?_
  refine (keeps_diagnose liberal _ _ reason).bind fun _ => ?_
  exact (keeps_drop liberal _).bind fun _ => keeps_pure _

theorem keeps_bindFunctions {signatures : List CallSignature} {result : CType}
    {params : List Parameter} (frameNumber : Nat)
    (binds : ∀ signature ∈ signatures, ∀ native exposure name doc, ∀ s : Session,
      let d := bindFunction native exposure c name doc result params signature
      d.usr ∉ s.store.keys → conduct.good s { s with store := s.store.push d }) :
    (bindFunctions c signatures frameNumber result params).Keeps forest conduct := by
  refine (keeps_docOf _).bind fun doc => .look (·.policy) (fun _ => rfl) fun s => ?_
  refine (keeps_selected _).bind fun name => (keeps_selected _).bind fun exposure => ?_
  refine (keeps_publishFunctions liberal _ _ ?_).bind fun _ => fun s => conduct.refl s
  intro d member
  obtain ⟨signature, listed, rfl⟩ := List.mem_map.mp member
  exact binds signature listed _ _ _ _

theorem keeps_decideFunction {signatures : List CallSignature} {result : CType}
    {params : List Parameter} (ignored : Bool) (frameNumber : Nat)
    (binds : ∀ signature ∈ signatures, ∀ native exposure name doc, ∀ s : Session,
      let d := bindFunction native exposure c name doc result params signature
      d.usr ∉ s.store.keys → conduct.good s { s with store := s.store.push d }) :
    (decideFunction c signatures ignored frameNumber result params).Keeps forest conduct := by
  refine .look (·.store) (fun _ => rfl) fun s => ?_
  refine .look (fun s => (s.context.find? (·.number == frameNumber)).getD
    { number := frameNumber, name := "" }) (fun _ => rfl) fun t => ?_
  split
  · rename_i refusal refused
    exact keeps_refuse liberal refusal (by simp) (isRefusal_of_functionRefusal? refused)
  have bound := keeps_bindFunctions liberal frameNumber binds
  dsimp only
  split
  · exact (keeps_diagnose liberal _ _ (by simp)).bind fun _ => bound
  · exact bound

theorem keeps_addFunction {signatures : List CallSignature}
    (own : signatureUsrs c signatures ⊆ usrs) (ignored : Bool) (frameNumber : Nat) :
    (addFunction c signatures ignored frameNumber).Keeps forest conduct := by
  rw [addFunction_eq]
  refine (keeps_resolveSignature c frameNumber).bind fun typed => ?_
  refine keeps_decideFunction liberal ignored frameNumber ?_
  intro signature listed native exposure name doc s d fresh
  exact liberal.binds s fresh rfl rfl (own (List.mem_map_of_mem listed))

end

section

variable {number : Nat} {usrs : List String}
  (liberal : conduct.Liberal (forest.cursor number) usrs)
include liberal

omit liberal in
/-- A function is added with the signatures that are configured when its visit begins. -/
theorem visitFunction_ensures {s : Session}
    (adds : ∀ ignored frameNumber, (addFunction (forest.cursor number)
      (s.policy.signatures.specialize (forest.cursor number).spelling
        (forest.cursor number).type.isVariadic).1 ignored frameNumber).Keeps forest conduct) :
    (visitFunction number).Ensures forest s (fun _ after => conduct.good s after)
      fun error after => conduct.bad error s after := by
  refine Step.Ensures.look rfl (Step.Ensures.look rfl ?_)
  generalize s.policy.signatures.specialize (forest.cursor number).spelling
    (forest.cursor number).type.isVariadic = specialized at adds
  obtain ⟨signatures, ignored⟩ := specialized
  dsimp only at adds ⊢
  refine keeps_withFrame (fun frameNumber => .look (·.store) (fun _ => rfl) fun t => ?_) s
  refine (keeps_selected _).bind fun chosen => ?_
  split
  · exact keeps_pure _
  split
  · exact keeps_pure _
  refine keeps_isDropped fun dropped => ?_
  split
  · exact keeps_pure _
  · exact adds _ _

/-- What a function may be bound under is known from the start. -/
theorem visitFunction_keeps {s : Session}
    (own : s.policy.functionUsrs (forest.cursor number) ⊆ usrs) :
    (visitFunction number).Ensures forest s (fun _ after => conduct.good s after)
      fun error after => conduct.bad error s after :=
  visitFunction_ensures (keeps_addFunction liberal own)

theorem keeps_addTypedef :
    (addTypedef number (forest.cursor number)).Keeps forest conduct := by
  refine (keeps_buildTypedef keeps_declare number).bind fun _ => ?_
  refine .look (·.store) (fun _ => rfl) fun s => ?_
  split
  · refine (keeps_debug _ (by simp)).bind fun _ => ?_
    exact (keeps_diagnose liberal _ _ (by simp)).bind fun _ => keeps_pure _
  · exact keeps_pure _

theorem keeps_visitTypedef : (visitTypedef number).Keeps forest conduct := by
  refine keeps_cursor (keeps_withFrame fun _ => keeps_published? fun found => ?_)
  split
  · exact keeps_pure _
  split
  · exact (keeps_debug _ (by simp)).bind fun _ => keeps_pure _
  refine .look (·.policy) (fun _ => rfl) fun s => (keeps_selected _).bind fun chosen => ?_
  split
  · exact keeps_addTypedef liberal
  · exact keeps_pure _

theorem keeps_addGlobal : (addGlobal (forest.cursor number)).Keeps forest conduct := by
  refine (keeps_debug _ (by simp)).bind fun _ => ?_
  refine (keeps_resolve keeps_declare _).bind fun type => ?_
  refine .look (·.store) (fun _ => rfl) fun s => ?_
  split
  · rename_i refusal refused
    exact keeps_refuse liberal refusal (by simp) (isRefusal_of_globalRefusal? refused)
  · refine .look (·.policy) (fun _ => rfl) fun t => (keeps_selected _).bind fun name => ?_
    refine (keeps_docOf _).bind fun doc => (keeps_selected _).bind fun exposed => ?_
    exact (keeps_publish rfl rfl fun _ => titles_of_untagged rfl).bind fun _ => keeps_pure _

theorem keeps_visitGlobal : (visitGlobal number).Keeps forest conduct := by
  refine keeps_cursor (keeps_withFrame fun _ => keeps_published? fun found => ?_)
  split
  · exact keeps_pure _
  split
  · exact keeps_pure _
  refine .look (·.policy) (fun _ => rfl) fun s => (keeps_selected _).bind fun chosen => ?_
  split
  · exact keeps_pure _
  refine keeps_isDropped fun dropped => ?_
  split
  · exact keeps_pure _
  · exact keeps_addGlobal liberal

theorem visit_keeps {s : Session} (own : (forest.cursor number).kind = .function →
      s.policy.functionUsrs (forest.cursor number) ⊆ usrs) :
    (visit number).Ensures forest s (fun _ after => conduct.good s after)
      fun error after => conduct.bad error s after := by
  refine Step.Ensures.look rfl ?_
  split
  · rename_i kind
    exact visitFunction_keeps liberal (own kind)
  · rename_i kind
    exact keeps_visitRecord number (by rw [kind]; rfl) s
  · rename_i kind
    exact keeps_visitRecord number (by rw [kind]; rfl) s
  · rename_i kind
    exact keeps_visitEnumeration number kind s
  · exact keeps_visitTypedef liberal s
  · exact keeps_visitGlobal liberal s
  · exact keeps_visitMacro number s
  · exact keeps_visitInterface number s
  · exact (keeps_debug _ (by simp)).bind (fun _ => keeps_pure _) s

end

theorem keeps_visit {number : Nat} (liberal : ∀ usrs, conduct.Liberal (forest.cursor number) usrs) :
    (visit number).Keeps forest conduct := fun _ =>
  visit_keeps (liberal _) fun _ => List.Subset.refl _

/-! Runs. -/

theorem keeps_visitAll (top : List Nat)
    (visits : ∀ number ∈ top, (visit number).Keeps forest conduct) :
    (visitAll top).Keeps forest conduct := by
  induction top with
  | nil => exact keeps_pure _
  | cons number rest induction =>
      refine (visits number List.mem_cons_self).bind fun _ => ?_
      exact induction fun other member => visits other (List.mem_cons_of_mem _ member)

theorem keeps_runAll (top : List Nat)
    (restarts : ∀ s : Session,
      conduct.good s { s with typedefNamed := typedefNames forest top })
    (visits : ∀ number ∈ top, (visit number).Keeps forest conduct)
    (named : ∀ {s : Session} {store : Store}, s.store.NamedAs store →
      conduct.good s { s with store }) : (runAll top).Keeps forest conduct := by
  refine .look (fun _ => forest) (fun _ => rfl) fun _ => ?_
  refine Step.Keeps.bind (keeps_modify restarts) fun _ => ?_
  refine (keeps_visitAll top visits).bind fun _ => .look id (fun _ => rfl) fun s => ?_
  dsimp only
  split
  · exact keeps_throw _
  refine Step.Keeps.bind (keeps_modify fun _ => named (namedAs_nameAll [] _)) fun _ => ?_
  refine .look (·.store) (fun _ => rfl) fun t => .look id (fun _ => rfl) fun u => ?_
  exact (keeps_debug _ (by simp)).bind fun _ => keeps_pure _

end LuaBinder.Session
