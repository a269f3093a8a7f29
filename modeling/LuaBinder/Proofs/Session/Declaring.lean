import LuaBinder.Proofs.Session.Laying
import LuaBinder.Proofs.Session.Stages

namespace LuaBinder

open Header Session

namespace Store

variable {forest : Forest} {store middle grown bound : Store} {type : CType} {key : String}
  {d : Declaration} {number : Nat} {form : Form}

/-! A typedef gets its underlying type. -/

theorem binds_amendBody (pending : store.body? key = some (.typedef none)) :
    store.Binds (store.amendBody key fun _ => .typedef (some type)) key type where
  pending := by simp [underlying?_eq, pending, Body.underlying?]
  given := by simp [underlying?_eq, body?_amendBody, pending, Body.underlying?]
  others := by
    intro other differs
    simp [underlying?_eq, body?_amendBody, differs]

theorem Grows.recent (grows : (store.push d).Grows grown) (fresh : d.usr ∉ store.keys)
    {peel : CType → CType} {inner : CType} {holder : String} {inside : Body}
    {steps : Nat} (closed : store.Closed) (keeps : ∀ type, (peel type).mentions = type.mentions)
    (found : grown.body? holder = some inside) (differs : holder ≠ d.usr)
    (known : ∀ key ∈ inner.mentions, key ∈ inside.mentions)
    (walk : grown.Unfolds peel steps inner (.typedef d.usr)) :
    holder ∉ (store.push d).keys := by
  intro published
  rw [keys_push, List.mem_append, List.mem_singleton] at published
  have older : store.Grows grown := ⟨prefix_push.trans grows.entries, grows.closed⟩
  rw [older.body? (published.resolve_right differs)] at found
  have knows : store.Knows inner := fun key mentioned =>
    closed.known holder inside found key (known key mentioned)
  exact fresh (older.knows_of_unfolds closed keeps knows walk d.usr (by simp [CType.mentions]))

section

variable (grows : (store.push d).Grows grown) (fresh : d.usr ∉ store.keys)
  (body : d.body = .typedef none)
include grows fresh body

/-- A typedef that is being resolved has no underlying type. -/
theorem Grows.pending : grown.body? d.usr = some (.typedef none) := by
  rw [grows.body? (by simp), body?_push fresh]
  simp [body]

theorem Grows.binds (type : CType) :
    grown.Binds (grown.amendBody d.usr fun _ => .typedef (some type)) d.usr type :=
  binds_amendBody (grows.pending fresh body)

end

theorem complete_amendBody_typedef {other : String} {members : List Member}
    (complete : (store.amendBody key fun _ => .typedef (some type)).Complete other members) :
    other ≠ key ∧ store.Complete other members := by
  obtain ⟨kind, found⟩ := complete
  rw [body?_amendBody] at found
  split at found
  · cases body : store.body? key <;> simp [body] at found
  · rename_i differs
    exact ⟨differs, kind, found⟩

theorem HeadsRecords.bind (heads : (store.push d).HeadsRecords forest type grown)
    (grows : (store.push d).Grows grown) (fresh : d.usr ∉ store.keys)
    (body : d.body = .typedef none) :
    store.HeadsRecords forest (.typedef d.usr)
      (grown.amendBody d.usr fun _ => .typedef (some type)) := by
  have binds := grows.binds fresh body type
  intro steps key walk other members complete absent
  obtain ⟨differs, complete⟩ := complete_amendBody_typedef complete
  cases walk with
  | step named found rest =>
      obtain rfl : d.usr = _ := CType.typedef.inj named
      obtain rfl := Option.some.inj (binds.given.symm.trans found)
      have unpublished : other ∉ (store.push d).keys := by simp [absent, differs]
      refine (heads _ key (binds.unfolds_own rest) other members complete unpublished).imp_right
        fun before => ⟨?_, before.2⟩
      have shorter : (store.keys ++ [key, other]).Sublist
          ((store.push d).keys ++ [key, other]) := by simp
      simpa using shorter.trans before.1

theorem Heads.of_inner (usr : d.usr = (forest.cursor number).usr)
    (inner : (store.push d).Extends forest (forest.Leads number) grown) :
    store.Heads forest d.usr grown :=
  Heads.push.extend (by simp) usr.symm inner

theorem sublist_of_published (grows : store.Grows grown) (fresh : key ∉ store.keys)
    (published : key ∈ grown.keys) : (store.keys ++ [key]).Sublist grown.keys := by
  obtain ⟨rest, whole⟩ := prefix_keys grows.entries
  rw [← whole] at published ⊢
  have later : key ∈ rest := (List.mem_append.mp published).resolve_left fresh
  exact (List.Sublist.refl _).append (List.singleton_sublist.mpr later)

end Store

namespace Session

open Store

variable {forest : Forest} {s : Session} {declare : Declare} {number : Nat} {form : Form}
  {store middle grown : Store} {type : CType} {usr : String} {d : Declaration}

namespace Declared

theorem blank (same : d.usr = (forest.cursor number).usr) (fresh : d.usr ∉ store.keys)
    (blank : d.body.IsBlank) (other : form ≠ .typedef)
    (hides : d.isRecord = true → forest.Hides number store) :
    Declared forest form number store d.usr (store.push d) where
  built := .blank (.refl forest number) same fresh blank hides
  same := same.symm
  published := by simp
  heads := .push
  records := fun same => absurd same other
  own := fun _ => .blank rfl same fresh blank hides

theorem typedef (closed : store.Closed) (same : d.usr = (forest.cursor number).usr)
    (fresh : d.usr ∉ store.keys) (body : d.body = .typedef none)
    (inner : Builds forest (forest.Leads number) (store.push d) grown)
    (resolved : grown.Resolved (forest.LeadsToBareFunction number) type)
    (heads : (store.push d).HeadsRecords forest type grown) :
    Declared forest .typedef number store d.usr
      (grown.amendBody d.usr fun _ => .typedef (some type)) := by
  have pushed := closed.push fresh (by simp [body])
  have extended := inner.extended pushed (onward_leads number)
  exact
    { built := .typedef (.refl forest number) same fresh body inner resolved heads
      same := same.symm
      published := by simpa using extended.toGrows.mem_keys (by simp)
      heads := (Heads.of_inner same extended).of_keys keys_amendBody
      records := fun _ => heads.bind extended.toGrows fresh body
      own := by simp }

section

variable {kind : RecordKind} {members : List Member} {cleared : List String}
  (closed : store.Closed) (fresh : d.usr ∉ store.keys) (body : d.body = .record kind false [])
  (inner : Builds forest (forest.Leads number) (store.push d) grown)
include closed fresh body inner

theorem extended_record : (store.push d).Extends forest (forest.Leads number) grown :=
  inner.extended
    (closed.push fresh (by simp [body]))
    (onward_leads number)

variable (same : d.usr = (forest.cursor number).usr)
include same

theorem record
    (resolved : ∀ m ∈ members, grown.Resolved (forest.LeadsToBareFunction number) m.type)
    (passable : ∀ m ∈ members, grown.Passable m.type)
    (laid : forest.Lays number grown members) :
    Declared forest .record number store d.usr
      (grown.amendBody d.usr (setMembers members)) := by
  have extended := extended_record closed fresh body inner
  exact
    { built := .record (.refl forest number) same fresh body inner resolved passable laid
      same := same.symm
      published := by simpa using extended.toGrows.mem_keys (by simp)
      heads := (Heads.of_inner same extended).of_keys keys_amendBody
      records := by simp
      own := fun _ => .record rfl same fresh body inner resolved passable laid }

theorem opaqueRecord (clears : grown.Clears d.usr cleared)
    (hides : forest.Hides number grown) :
    Declared forest .record number store d.usr (grown.clear cleared) := by
  have extended := extended_record closed fresh body inner
  exact
    { built := .opaque_ (.refl forest number) same fresh body inner clears hides
      same := same.symm
      published := by simpa using extended.toGrows.mem_keys (by simp)
      heads := (Heads.of_inner same extended).of_keys keys_clear
      records := by simp
      own := fun _ => .opaque_ rfl same fresh body inner clears hides }

end

theorem grow (declared : Declared forest form number store usr middle)
    (closed : store.Closed) (fresh : usr ∉ store.keys)
    (other : form ≠ .typedef ∧ form ≠ .record)
    (built : Builds forest (forest.Leads number) middle grown) :
    Declared forest form number store usr grown := by
  have extended := declared.built.extended closed (onward_leads number)
  have more := built.extended extended.closed (onward_leads number)
  exact
    { built := declared.built.trans built
      same := declared.same
      published := more.toGrows.mem_keys declared.published
      heads := declared.heads.extend
        (sublist_of_published extended.toGrows fresh declared.published) declared.same more
      records := fun same => absurd same other.1
      own := fun same => absurd same other.2 }

theorem elaborate {change : Body → Body}
    (declared : Declared forest form number store usr grown) (fresh : usr ∉ store.keys)
    (other : form ≠ .typedef ∧ form ≠ .record)
    (elaborates : ∀ body : Body, body.Elaborates (change body))
    (known : ∀ body, ∀ other ∈ (change body).mentions,
      other ∈ body.mentions ∨ other ∈ grown.keys) :
    Declared forest form number store usr (grown.amendBody usr change) where
  built := .elaborate declared.built fresh elaborates known
  same := declared.same
  published := by simpa using declared.published
  heads := declared.heads.of_keys keys_amendBody
  records := fun same => absurd same other.1
  own := fun same => absurd same other.2

end Declared

/-! Typedefs. -/

theorem bindTypedef_runs (declares : Declares forest declare) (sound : s.Sound)
    (closed : store.Closed) (published : s.store = store.push d)
    (same : d.usr = (forest.cursor number).usr) (fresh : d.usr ∉ store.keys)
    (body : d.body = .typedef none) :
    Runs forest s
      (completeTypedef declare (forest.cursor number).usr (forest.cursor number).underlying)
      (fun _ grown =>
        Declared forest .typedef number store (forest.cursor number).usr grown)
      (store.Extends forest (forest.Leads number)) := by
  have pushed : store.Extends forest (forest.Leads number) s.store :=
    published ▸ .push closed (.refl forest number) same fresh
      (by simp [body]) (by rw [body]; rfl)
  have own : (forest.cursor number).underlying ∈ (forest.cursor number).types := by
    simp [Cursor.types]
  have resolves := resolves_type declares (onward_leads number)
    (forest.cursor number).underlying s sound fun _ found =>
      (Forest.Leads.refl forest number).reference (Cursor.mem_references_of_type own found)
  refine Runs.bind (resolves.rebase pushed fun _ leads => leads) fun type resolved _ gives => ?_
  refine Runs.amend.imp fun _ grown result => ?_
  rw [published] at gives
  rw [result, ← same]
  exact .typedef closed same fresh body gives.built
    (gives.resolved.imp fun bare => ⟨number, .refl forest number, _, own, bare⟩) gives.heads

theorem buildTypedef_runs (declares : Declares forest declare) (sound : s.Sound) :
    Runs forest s (buildTypedef declare number)
      (fun _ grown =>
        Declared forest .typedef number s.store (forest.cursor number).usr grown)
      (s.store.Extends forest (forest.Leads number)) := by
  have unchanged : s.store.Extends forest (forest.Leads number) s.store := .refl sound.closed
  refine Runs.look rfl (Runs.look rfl ?_)
  refine Runs.bind (.of_quiet (quiet_selected _) unchanged) fun name named kept same => ?_
  refine Runs.look rfl ?_
  refine Runs.bind (.publish (same ▸ unchanged)) ?_
  intro _ begun keeps given
  obtain ⟨fresh, published⟩ := given
  rw [same] at fresh published
  have pushed : s.store.Extends forest (forest.Leads number) begun.store :=
    published ▸ .push sound.closed (.refl forest number) rfl fresh rfl rfl
  refine Runs.bind (.of_quiet (quiet_debug _ _) pushed) fun _ logged kept' same' => ?_
  have continues (current : Session) (later : Kept logged current)
      (same : current.store = logged.store) := by
    have closed : current.store.Closed := by rw [same, same']; exact pushed.closed
    exact bindTypedef_runs declares
      (sound.of_kept (((kept.trans keeps).trans kept').trans later) closed)
      sound.closed (same.trans (same'.trans published)) rfl fresh rfl
  refine Runs.look rfl ?_
  split
  · refine Runs.bind (.of_quiet (quiet_nameByTypedef _ _) (same' ▸ pushed)) ?_
    exact fun _ current kept same => continues current kept same
  · exact continues logged (.refl _) rfl

/-! Records. -/

theorem passable_of_memberProblem? {name : String}
    (fine : memberProblem? store name type = none) : store.Passable type := by
  unfold memberProblem? at fine
  split at fine
  · simp at fine
  · rename_i supported
    split at fine
    · simp at fine
    · rename_i complete
      exact ⟨by simpa using supported, by simpa using complete⟩

theorem buildMembers_runs (declares : Declares forest declare) (selection : Selection)
    (record : String) (fields : List Nat) (index : Nat) (s : Session) (sound : s.Sound)
    (leads : ∀ field ∈ fields, forest.Leads number field) :
    Runs forest s (buildMembers declare selection record index fields)
      (fun result grown => Builds forest (forest.Leads number) s.store grown ∧
        ∀ members, result = .ok members → ∀ m ∈ members,
          grown.Resolved (forest.LeadsToBareFunction number) m.type ∧ grown.Passable m.type)
      (s.store.Extends forest (forest.Leads number)) := by
  induction fields generalizing index s with
  | nil => exact .pure ⟨.refl _, by simp⟩
  | cons field rest induction =>
      have reached := leads field List.mem_cons_self
      refine Runs.look rfl ?_
      split
      · exact .pure ⟨.refl _, by simp⟩
      have own : (forest.cursor field).type ∈ (forest.cursor field).types := by
        simp [Cursor.types]
      have resolves := resolves_type declares (onward_leads number)
        (forest.cursor field).type s sound fun _ found =>
          reached.reference (Cursor.mem_references_of_type own found)
      refine Runs.bind resolves fun type resolved kept gives => ?_
      have extended := gives.built.extended sound.closed (onward_leads number)
      have typed : resolved.store.Resolved (forest.LeadsToBareFunction number) type :=
        gives.resolved.imp fun bare => ⟨field, reached, _, own, bare⟩
      refine Runs.look rfl ?_
      split
      · exact .pure ⟨gives.built, by simp⟩
      rename_i fine
      have passable := passable_of_memberProblem? fine
      refine Runs.bind (buildMember_runs extended) ?_
      intro member named kept' given
      obtain ⟨same, sameType, -⟩ := given
      have others := induction (index + 1) named
        (sound.of_kept (kept.trans kept') (same ▸ extended.closed))
        fun other later => leads other (List.mem_cons_of_mem _ later)
      refine Runs.bind (others.rebase (same ▸ extended) fun _ leads => leads) ?_
      intro result after _ given
      obtain ⟨built, each⟩ := given
      rw [same] at built
      have grows := built.grows extended.closed
      have whole := gives.built.trans built
      split
      · rename_i members
        refine .pure ⟨whole, fun all found m listed => ?_⟩
        obtain rfl := Except.ok.inj found
        rcases List.mem_cons.mp listed with rfl | listed
        · rw [sameType]
          exact ⟨grows.resolved extended.closed typed,
            grows.passable extended.closed typed.known passable⟩
        · exact each members rfl m listed
      · exact .pure ⟨whole, by simp⟩

theorem layRecord_runs (declares : Declares forest declare) (sound : s.Sound)
    (closed : store.Closed) (published : s.store = store.push d)
    (same : d.usr = (forest.cursor number).usr) (fresh : d.usr ∉ store.keys)
    {kind : RecordKind} (body : d.body = .record kind false []) {defined : Nat}
    (formed : formOf? (forest.cursor number).kind = some .record)
    (found : forest.recordDefinition number = some defined)
    (leads : ∀ field ∈ forest.fieldNumbers defined, forest.Leads number field)
    {selection : Selection} {record : String} {logged : String → String} :
    Runs forest s
      (layRecord declare selection record (forest.cursor number).usr (forest.fieldNumbers defined)
        logged)
      (fun _ grown => Declared forest .record number store (forest.cursor number).usr grown)
      (store.Extends forest (forest.Leads number)) := by
  have pushed : store.Extends forest (forest.Leads number) s.store :=
    published ▸ .push closed (.refl forest number) same fresh
      (by simp [body]) (by rw [body]; rfl)
  have built := buildMembers_runs declares selection record _ 0 s sound leads
  have lays := buildMembers_lays declares selection record (forest.fieldNumbers defined) 0 s sound
  refine Runs.bind (Runs.and (built.rebase pushed fun _ leads => leads) lays) ?_
  intro result built kept given
  obtain ⟨⟨inner, each⟩, -, laid⟩ := given
  rw [← same]
  have extended := pushed.trans (inner.extended pushed.closed (onward_leads number))
  rw [published] at inner
  split
  · rename_i members
    refine Runs.amend.imp fun _ grown changed => ?_
    rw [changed]
    exact .record closed fresh body inner same (fun m member => (each members rfl m member).1)
      (fun m member => (each members rfl m member).2) (laid.lays formed found)
  · refine Runs.bind (.of_quiet (quiet_debug _ _) extended) fun _ logged _ same' => ?_
    refine Runs.look rfl ?_
    refine (Runs.makeOpaque closed fresh (same' ▸ extended)).imp ?_
    intro _ grown given
    obtain ⟨cleared, result, clears⟩ := given
    rw [same'] at result clears
    exact result ▸ .opaqueRecord closed fresh body inner same clears (laid.hides formed found)

theorem leads_definition (forest : Forest) (number defined : Nat)
    (found : defined ∈ if (forest.cursor number).definition.isNone &&
        (forest.cursor number).isDefinition then some number
      else (forest.cursor number).definition) : forest.Leads number defined := by
  split at found
  · cases found
    exact .refl forest number
  · exact (Forest.Leads.refl forest number).reference
      (Cursor.mem_references_of_definition found)

theorem buildRecord_runs (declares : Declares forest declare) (sound : s.Sound)
    (formed : formOf? (forest.cursor number).kind = some .record) :
    Runs forest s (buildRecord declare number)
      (fun _ grown =>
        Declared forest .record number s.store (forest.cursor number).usr grown)
      (s.store.Extends forest (forest.Leads number)) := by
  have unchanged : s.store.Extends forest (forest.Leads number) s.store := .refl sound.closed
  refine Runs.look rfl ?_
  refine Runs.bind (.of_quiet (quiet_nameOf _) unchanged) fun nativeName named kept same => ?_
  refine Runs.look rfl ?_
  refine Runs.bind (.of_quiet (quiet_renameUnlessEmpty _ _) (same ▸ unchanged)) ?_
  intro name renamed kept' same'
  refine Runs.look rfl (Runs.look rfl ?_)
  refine Runs.bind (.publish (same' ▸ same ▸ unchanged)) ?_
  intro _ begun keeps given
  obtain ⟨fresh, published⟩ := given
  rw [same', same] at fresh published
  have leads := leads_definition forest number
  generalize known : (if (forest.cursor number).definition.isNone &&
      (forest.cursor number).isDefinition then some number
    else (forest.cursor number).definition) = definition at leads fresh published ⊢
  have pushed : s.store.Extends forest (forest.Leads number) begun.store :=
    published ▸ .push sound.closed (.refl forest number) rfl fresh rfl rfl
  have kept := (kept.trans kept').trans keeps
  cases definition with
  | none =>
      refine (Runs.of_quiet (quiet_debug _ _) pushed).imp fun _ grown same => ?_
      rw [same, published]
      exact Declared.blank rfl fresh (.record _) (by simp)
        fun _ => ⟨formed, Forest.layout_report_of_none _ known⟩
  | some defined =>
      refine Runs.bind (.of_quiet (quiet_debug _ _) pushed) fun _ logged kept' same => ?_
      refine Runs.look rfl (Runs.look rfl (Runs.look rfl ?_))
      refine layRecord_runs declares (sound.of_kept (kept.trans kept') ?_) sound.closed
        (same.trans published) rfl fresh rfl formed known fun field member => ?_
      · rw [same]
        exact pushed.closed
      · exact (leads defined rfl).reference
          (Cursor.mem_references_of_child (List.mem_of_mem_filter member))

/-! Enumerations. -/

theorem elaborates_addConstant (constant : EnumConstant) (body : Body) :
    body.Elaborates (addConstant constant body) := by
  cases body with
  | enumeration => exact .enumeration _ _ _
  | _ => exact .same _

theorem mentions_addConstant (constant : EnumConstant) (body : Body) :
    (addConstant constant body).mentions = body.mentions := by
  cases body <;> rfl

theorem buildConstant_runs {child : Nat} {selection : Selection} {enumeration : String}
    (declared : Declared forest .enumeration number store usr s.store)
    (closed : store.Closed) (fresh : usr ∉ store.keys) :
    Runs forest s (buildConstant selection usr enumeration child)
      (fun _ grown => Declared forest .enumeration number store usr grown)
      (store.Extends forest (forest.Leads number)) := by
  have extended := declared.built.extended closed (onward_leads number)
  refine Runs.look rfl ?_
  refine Runs.bind (.of_quiet (quiet_selected _) extended) fun name named _ same => ?_
  refine Runs.look rfl (Runs.amend.imp fun _ grown changed => ?_)
  rw [changed, same]
  exact declared.elaborate fresh (by simp) (elaborates_addConstant _) fun body other found =>
    .inl (mentions_addConstant _ body ▸ found)

theorem buildEnumeration_runs (sound : s.Sound) :
    Runs forest s (buildEnumeration number)
      (fun _ grown =>
        Declared forest .enumeration number s.store (forest.cursor number).usr grown)
      (s.store.Extends forest (forest.Leads number)) := by
  have unchanged : s.store.Extends forest (forest.Leads number) s.store := .refl sound.closed
  refine Runs.look rfl (Runs.look rfl (Runs.look rfl ?_))
  refine Runs.bind (.of_quiet (quiet_nameOf _) unchanged) fun nativeName named _ same => ?_
  refine Runs.bind (.of_quiet (quiet_renameUnlessEmpty _ _) (same ▸ unchanged)) ?_
  intro name renamed _ same'
  refine Runs.look rfl ?_
  refine Runs.bind (.publish (same' ▸ same ▸ unchanged)) ?_
  intro _ begun _ given
  obtain ⟨fresh, published⟩ := given
  rw [same', same] at fresh published
  have declared : Declared forest .enumeration number s.store (forest.cursor number).usr
      begun.store := by
    rw [published]
    exact .blank rfl fresh (.enumeration _) (by simp) (by simp [Declaration.isRecord])
  have extended := declared.built.extended sound.closed (onward_leads number)
  refine Runs.bind (.of_quiet (quiet_debug _ _) extended) fun _ logged _ same => ?_
  refine Runs.look rfl (Runs.forM (same ▸ declared) ?_)
  exact fun child _ current _ declared => buildConstant_runs declared sound.closed fresh

end Session

end LuaBinder
