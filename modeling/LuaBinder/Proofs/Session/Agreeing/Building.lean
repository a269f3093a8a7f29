import LuaBinder.Proofs.Session.Agreeing.Resolving
import LuaBinder.Proofs.Session.Stages

namespace LuaBinder

open Header Session

namespace Forecast

variable {forecast : Forecast} {unfinished : List String} {base s middle : Session}
  {key : String} {number : Nat} {declare : Declare}

/-- A published declaration is changed where it stands. -/
theorem Goes.edit {store : Store} (goes : forecast.Goes base s)
    (entries : base.store.entries <+: store.entries) (keys : store.keys = s.store.keys) :
    forecast.Goes base { s with store } where
  policy := goes.policy
  entries := entries
  dropped := goes.dropped
  valueless := fun key published => goes.valueless key (keys ▸ published)
  stillNamed := goes.stillNamed
  named := goes.named

/-- A declaration that has been published since and is still being built. -/
structure Underway (forecast : Forecast) (base : Session) (unfinished : List String)
    (key : String) (s : Session) : Prop where
  fresh : key ∉ base.store.keys
  apart : key ∉ unfinished
  goes : forecast.Goes base s
  agrees : forecast.Agrees (key :: unfinished) s.store

namespace Underway

theorem published (underway : forecast.Underway base unfinished key s) : key ∈ s.store.keys :=
  (underway.agrees.pending key List.mem_cons_self).1

theorem after (underway : forecast.Underway base unfinished key s)
    (goes : forecast.Goes s middle)
    (agrees : forecast.Agrees (key :: unfinished) middle.store) :
    forecast.Underway base unfinished key middle :=
  ⟨underway.fresh, underway.apart, underway.goes.trans goes, agrees⟩

theorem alike (underway : forecast.Underway base unfinished key s) (alike : Alike s middle) :
    forecast.Underway base unfinished key middle :=
  underway.after (.of_alike alike) (alike.store ▸ underway.agrees)

/-- The edit completes the declaration. -/
theorem amend {change : Body → Body} (underway : forecast.Underway base unfinished key s)
    (status : ∀ body, s.store.body? key = some body →
      (change body).status = forecast.view.status key)
    (covered : ∀ other, forecast.Needs key other → other ∈ s.store.keys)
    (laid : ∀ body, s.store.body? key = some body → ∀ kind members,
      change body = .record kind false members → ∀ m ∈ members, ∀ held,
      forecast.view.held? m.type = some held →
      forecast.view.isIncomplete (.compound held) = true →
      held ∈ s.store.keys ∧ held ∉ key :: unfinished) :
    forecast.Ends base unfinished s (amend key change) fun _ grown => key ∈ grown.keys := by
  refine ensures_amend.mpr ?_
  rw [Store.modify_eq_amendBody]
  obtain ⟨body, found⟩ := Store.exists_body? underway.published
  have own : (s.store.amendBody key change).body? key = some (change body) := by
    simp [Store.body?_amendBody, found]
  refine ⟨underway.goes.edit (Store.prefix_amendBody underway.goes.entries underway.fresh)
    Store.keys_amendBody, ?_, by simpa using underway.published⟩
  refine underway.agrees.finish underway.apart Store.keys_amendBody (fun other differs => ?_) ?_
    covered fun members complete => ?_
  · simp [Store.body?_amendBody, differs]
  · rw [Store.status_eq, own]
    exact status body found
  · obtain ⟨kind, complete⟩ := complete
    exact laid body found kind members (Option.some.inj (own.symm.trans complete))

end Underway

/-- What a build may ask for and depend on follows from what its declaration reports. -/
theorem Due.admits {form : Form} (due : forecast.Due unfinished form number)
    (coherent : forecast.Coherent) :
    forecast.Admits ((forecast.sources.forest.cursor number).usr :: unfinished)
      ((forecast.sources.forest.report number).asked forecast.view form)
      ((forecast.sources.forest.report number).weighed forecast.view form) where
  asked := by
    intro key asked
    have needs := (coherent.needs_iff due.requested _).mpr asked
    refine ⟨due.reaches.needs needs, fun started member => ?_⟩
    rcases List.mem_cons.mp member with rfl | member
    · exact .single needs
    · exact (due.led started member).tail needs
  weighed := by
    intro type weighed lost head own started member back
    refine coherent.apart form number due.requested type weighed lost head own ?_
    rcases List.mem_cons.mp member with rfl | member
    · exact back
    · exact back.trans (due.led started member)

theorem Ends.bind_publish {d : Declaration} {next : Unit → Step β} {good : β → Store → Prop}
    (valueless : forecast.sources.Valueless d.usr)
    (second : ∀ middle, forecast.Goes s middle → d.usr ∉ s.store.keys →
      middle.store = s.store.push d → forecast.Ends base unfinished middle (next ()) good) :
    forecast.Ends base unfinished s (publish d >>= next) good := by
  refine Step.ensures_bind.mpr (ensures_publish (fun fresh => ?_) fun _ => trivial)
  refine second _ ?_ fresh rfl
  exact
    { policy := rfl
      entries := Store.prefix_push
      dropped := rfl
      valueless := by
        intro key published
        rw [Store.keys_push] at published
        refine (List.mem_append.mp published).imp_right fun own => ?_
        obtain rfl := List.mem_singleton.mp own
        exact valueless
      stillNamed := fun _ named => named
      named := fun _ named => .inl named }

/-- What is due is published and then built, unless nothing remains to be done. -/
theorem Due.underway {form : Form} {d : Declaration} (due : forecast.Due unfinished form number)
    (usr : d.usr = (forecast.sources.forest.cursor number).usr)
    (agrees : forecast.Agrees unfinished base.store) (fresh : d.usr ∉ base.store.keys)
    (goes : forecast.Goes base s) (published : s.store = base.store.push d)
    (blank : d.body.status = (none, false))
    (empty : ∀ kind members, d.body = .record kind false members → members = []) :
    forecast.Underway base unfinished d.usr s where
  fresh := fresh
  apart := fun own => fresh (agrees.pending d.usr own).1
  goes := goes
  agrees := published ▸ agrees.publish fresh blank empty (usr ▸ due.reaches)

/-! Typedefs. -/

theorem nameByTypedef_goes {tag : Nat} {name : String}
    (requested : forecast.sources.Requests .typedef number)
    (tagged : anonymousTag? forecast.sources.forest
      (forecast.sources.forest.cursor number).underlying = some tag) :
    (nameByTypedef (forecast.sources.forest.cursor tag).usr name).Ensures
      forecast.sources.forest s
      (fun _ after => forecast.Goes s after ∧ after.store = s.store) fun _ _ => True := by
  refine ensures_modify.mpr ?_
  split
  · exact ⟨.refl s, rfl⟩
  · refine ⟨⟨rfl, List.prefix_rfl, rfl, fun _ => .inl, fun usr named => ?_,
      fun usr named => ?_⟩, rfl⟩
    · simp only [isNamed, List.any_append, Bool.or_eq_true] at named ⊢
      exact .inl named
    · simp only [isNamed, List.any_append, List.any_cons, List.any_nil, Bool.or_false,
        Bool.or_eq_true, beq_iff_eq] at named ⊢
      exact named.imp_right fun same => ⟨number, tag, requested, tagged, same⟩

theorem completeTypedef_ends {former : Session} (coherent : forecast.Coherent)
    (supplies : forecast.Supplies declare) (due : forecast.Due unfinished .typedef number)
    (underway : forecast.Underway former unfinished
      (forecast.sources.forest.cursor number).usr s) :
    forecast.Ends former unfinished s
      (completeTypedef declare (forecast.sources.forest.cursor number).usr
        (forecast.sources.forest.cursor number).underlying)
      fun _ grown => (forecast.sources.forest.cursor number).usr ∈ grown.keys := by
  refine (resolve_agrees coherent supplies _
    (Sources.parts_of_cursor (Cursor.underlying_mem_types _)) s _ rfl
    (due.admits coherent) underway.agrees).bind_ends ?_
  intro type resolved goes agrees given
  refine (underway.after goes agrees).amend (fun body _ => ?_) (fun other needs => ?_)
    (by simp)
  · rw [coherent.status .typedef number due.requested, given.1]
    rfl
  · exact given.2 ((coherent.needs_iff due.requested _).mp needs)

theorem buildTypedef_agrees (coherent : forecast.Coherent) (supplies : forecast.Supplies declare)
    (due : forecast.Due unfinished .typedef number)
    (agrees : forecast.Agrees unfinished s.store) :
    forecast.Agreeing unfinished s (buildTypedef declare number) fun _ grown =>
      (forecast.sources.forest.cursor number).usr ∈ grown.keys := by
  refine .look rfl (.look rfl ?_)
  refine .bind_silent (silent_selected _) fun name named alike => ?_
  refine .look rfl (.bind_publish due.requested.valueless ?_)
  intro begun goes fresh published
  have underway := due.underway rfl (alike.store ▸ agrees) fresh goes published rfl (by simp)
  refine .bind_silent (silent_debug _ _) fun _ logged alike => ?_
  have underway := underway.alike alike
  refine .look rfl ?_
  split
  · rename_i tag tagged
    refine .bind_goes (nameByTypedef_goes due.requested tagged) fun _ current given => ?_
    exact completeTypedef_ends coherent supplies due
      (underway.after given.1 (given.2 ▸ underway.agrees))
  · exact completeTypedef_ends coherent supplies due underway

/-! Records. -/

theorem buildMember_agrees {selection : Selection} {record : String} {index : Nat} {c : Cursor}
    {type : CType} (agrees : forecast.Agrees unfinished s.store) :
    forecast.Agreeing unfinished s (buildMember selection record index c type)
      fun m _ => m.type = type := by
  unfold buildMember
  split
  · exact .bind_silent (silent_selected _) fun _ _ alike =>
      .look rfl (.pure (alike.store ▸ agrees) rfl)
  · exact .look rfl (.pure agrees rfl)

/-- The types of the members so far, if there is a layout, are those of the layout. -/
def Laid (layout : Layout) (result : Except String (List Member)) (store : Store) : Prop :=
  (result.toOption.map fun members => members.map (·.type)) = layout.types ∧
    layout.asked ⊆ store.keys

theorem buildMembers_agrees (coherent : forecast.Coherent)
    (supplies : forecast.Supplies declare) (selection : Selection) (record : String)
    (fields : List Nat) (index : Nat) (s : Session) (layout : Layout)
    (own : layout = .ofFields forecast.view (fields.map forecast.sources.forest.reportField))
    (admits : forecast.Admits unfinished layout.asked layout.weighed)
    (agrees : forecast.Agrees unfinished s.store) :
    forecast.Agreeing unfinished s (buildMembers declare selection record index fields)
      (Laid layout) := by
  induction fields generalizing index s layout with
  | nil =>
      subst own
      exact .pure agrees ⟨rfl, List.nil_subset _⟩
  | cons field rest induction =>
      rw [List.map_cons, Forest.reportField] at own
      refine .look rfl ?_
      split
      · rename_i bitfield
        rw [bitfield, Layout.ofFields] at own
        subst own
        exact .pure agrees ⟨rfl, List.nil_subset _⟩
      rename_i plain
      rw [Bool.not_eq_true] at plain
      rw [plain, Layout.ofFields] at own
      obtain ⟨first, named⟩ : ∃ first, first =
        forecast.answer (forecast.sources.forest.cursor field).type := ⟨_, rfl⟩
      obtain ⟨others, rest'⟩ : ∃ others, others =
        Layout.ofFields forecast.view (rest.map forecast.sources.forest.reportField) := ⟨_, rfl⟩
      replace own : layout = .before forecast.view first others := by
        rw [own, named, rest', Forecast.answer]
      obtain ⟨askedFirst, weighedFirst⟩ := Layout.first_subset forecast.view first others
      rw [← own] at askedFirst weighedFirst
      have typed := Cursor.type_mem_types (forecast.sources.forest.cursor field)
      refine (resolve_agrees coherent supplies _ (Sources.parts_of_cursor typed) s first named
        (admits.sub askedFirst fun type member =>
          weighedFirst (List.mem_cons_of_mem _ member)) agrees).bind ?_
      intro type resolved goes agrees given
      obtain ⟨rfl, published⟩ := given
      have mentioned : first.type.mentions ⊆ first.asked := named ▸ Answer.mentions_ofType _
      have seen := agrees.consult coherent (List.Subset.trans mentioned published)
        (admits.weighed _ (weighedFirst List.mem_cons_self))
      have problem := isSome_memberProblem? (forecast.sources.forest.cursor field).spelling ""
        seen.1 seen.2
      unfold Layout.before at own
      refine .look rfl ?_
      split
      · rename_i found
        rw [found, Option.isSome_some] at problem
        simp only [← problem, ↓reduceIte] at own
        subst own
        exact .pure agrees ⟨rfl, published⟩
      rename_i fine
      rw [fine, Option.isSome_none] at problem
      simp only [← problem] at own
      refine (buildMember_agrees agrees).bind fun member built goes agrees same => ?_
      have published := List.Subset.trans published goes.keys
      have later := induction (index + 1) built others rest'
        (admits.sub (by simp [own]) (by simp [own])) agrees
      refine later.bind fun result after goes agrees given => ?_
      obtain ⟨types, askedRest⟩ := given
      have asked : layout.asked ⊆ after.store.keys := by
        rw [own]
        exact List.append_subset.mpr ⟨List.Subset.trans published goes.keys, askedRest⟩
      cases result with
      | ok members =>
          refine .pure agrees ⟨?_, asked⟩
          simp [own, ← types, same, Except.toOption]
      | error problem =>
          refine .pure agrees ⟨?_, asked⟩
          simp [own, ← types, Except.toOption]

/-- Records lose their layouts; nothing else changes but the log and the diagnostics. -/
theorem makeOpaque_names {forest : Forest} (fuel : Nat) (usr problem : String) (s : Session) :
    (makeOpaque fuel usr problem).Ensures forest s
      (fun _ after => after.dropped = s.dropped ∧ after.typedefNamed = s.typedefNamed)
      fun _ _ => True := by
  induction fuel generalizing usr problem s with
  | zero => trivial
  | succ fuel induction =>
      simp only [makeOpaque, Step.ensures_bind, ensures_amend, ensures_lookup?]
      refine (silent_diagnose _ _ _ _ _ _).imp (fun _ middle alike => ?_) fun _ _ failed => failed
      rw [ensures_getStore]
      refine ensures_forM _ (fun _ current => current.dropped = s.dropped ∧
        current.typedefNamed = s.typedefNamed) ⟨alike.dropped, alike.named⟩ ?_
      intro _ holder _ _ current same
      simp only [Step.ensures_bind, ensures_lookup?]
      split
      · exact same
      simp only [Step.ensures_bind, ensures_getStore]
      split
      · exact same
      · simp only [Step.ensures_bind, ensures_debug]
        exact (induction holder _ _).imp (fun _ _ given =>
          ⟨given.1.trans same.1, given.2.trans same.2⟩) fun _ _ failed => failed

theorem makeOpaque_ends {usr problem : String} {fuel : Nat} {kind : RecordKind}
    {members : List Member} (underway : forecast.Underway base unfinished usr s)
    (body : s.store.body? usr = some (.record kind false members))
    (status : forecast.view.status usr = (none, true))
    (covered : ∀ other, forecast.Needs usr other → other ∈ s.store.keys) :
    forecast.Ends base unfinished s (makeOpaque fuel usr problem) fun _ grown =>
      usr ∈ grown.keys := by
  refine ((makeOpaque_ensures fuel usr problem s).and (makeOpaque_names fuel usr problem s)).imp
    ?_ fun _ _ _ => trivial
  intro _ after given
  obtain ⟨⟨kept, cleared, result, clears⟩, dropped, named⟩ := given
  have own (other : String) (member : other ∈ cleared) : other = usr := by
    rcases Relation.ReflTransGen.cases_tail (clears.holding other member) with same | holds
    · exact same.symm
    · obtain ⟨holder, -, holds⟩ := holds
      exact absurd holds
        (underway.agrees.not_holds List.mem_cons_self (congrArg Prod.snd status))
  have agrees : forecast.Agrees unfinished (s.store.clear cleared) := by
    refine underway.agrees.finish underway.apart Store.keys_clear (fun other differs => ?_) ?_
      covered fun members complete => ?_
    · rw [Store.body?_clear, if_neg fun member => differs (own other member)]
    · rw [Store.status_eq, Store.body?_clear, if_pos clears.self, body, status]
      rfl
    · exact absurd clears.self (Store.complete_clear.mp complete).1
  have entries : base.store.entries <+: (s.store.clear cleared).entries := by
    refine Store.prefix_mapBodies underway.goes.entries fun other published body => ?_
    have kept : other ∉ cleared := fun member => underway.fresh (own other member ▸ published)
    simp [kept]
  rw [result]
  refine ⟨?_, agrees, by simpa using underway.published⟩
  exact
    { policy := kept.policy.trans underway.goes.policy
      entries := result ▸ entries
      dropped := dropped.trans underway.goes.dropped
      valueless := fun key published =>
        underway.goes.valueless key (by simpa [result] using published)
      stillNamed := fun usr named' => by
        rw [isNamed, named]
        exact underway.goes.stillNamed usr named'
      named := fun usr named' => underway.goes.named usr (by rwa [isNamed, named] at named') }

/-- The members of a complete record, as far as they can be laid out, are those of the view. -/
theorem layRecord_ends {former : Session} {kind : RecordKind} {layout : Layout}
    {selection : Selection} {record : String} {fields : List Nat} {logged : String → String}
    (coherent : forecast.Coherent) (supplies : forecast.Supplies declare)
    (underway : forecast.Underway former unfinished
      (forecast.sources.forest.cursor number).usr s)
    (body : s.store.body? (forecast.sources.forest.cursor number).usr =
      some (.record kind false []))
    (own : layout = .ofFields forecast.view (fields.map forecast.sources.forest.reportField))
    (admits : forecast.Admits ((forecast.sources.forest.cursor number).usr :: unfinished)
      layout.asked layout.weighed)
    (status : forecast.view.status (forecast.sources.forest.cursor number).usr =
      (none, layout.types.isNone))
    (needs : ∀ other, forecast.Needs (forecast.sources.forest.cursor number).usr other ↔
      other ∈ layout.asked) :
    forecast.Ends former unfinished s
      (layRecord declare selection record (forecast.sources.forest.cursor number).usr fields logged)
      fun _ grown => (forecast.sources.forest.cursor number).usr ∈ grown.keys := by
  subst own
  refine (buildMembers_agrees coherent supplies _ _ _ _ _ _ rfl admits
    underway.agrees).bind_ends ?_
  intro result built goes agrees given
  obtain ⟨types, asked⟩ := given
  rw [← Store.body?_of_prefix goes.entries underway.published] at body
  have underway := underway.after goes agrees
  have covered (other : String) (found : forecast.Needs _ other) : other ∈ built.store.keys :=
    asked ((needs other).mp found)
  split
  · rename_i members
    simp only [Except.toOption, Option.map_some] at types
    rw [← types] at status
    refine underway.amend (fun before found => ?_) covered fun before found => ?_
    · obtain rfl := Option.some.inj (body.symm.trans found)
      exact status.symm
    · obtain rfl := Option.some.inj (body.symm.trans found)
      rintro _ _ ⟨⟩ m member held inView incomplete
      obtain ⟨weighed, mentioned⟩ :=
        Layout.mem_types_ofFields _ types.symm m.type (List.mem_map_of_mem member)
      obtain ⟨steps, walk⟩ := Store.held?_eq_some_iff.mp inView
      obtain ⟨head, own, leads⟩ := coherent.leadsTo_of_unfolds walk rfl
      exact agrees.sunk ((List.Subset.trans mentioned asked) (CType.mem_mentions_of_head? own))
        (admits.weighed m.type weighed (.inr ⟨held, inView, incomplete⟩) head own) leads
  · simp only [Except.toOption, Option.map_none] at types
    rw [← types] at status
    refine .bind_silent (silent_debug _ _) fun _ noted alike => .look rfl ?_
    refine makeOpaque_ends (underway.alike alike) (alike.store ▸ body) status
      fun other found => alike.store ▸ covered other found

theorem buildRecord_agrees (coherent : forecast.Coherent) (supplies : forecast.Supplies declare)
    (due : forecast.Due unfinished .record number)
    (agrees : forecast.Agrees unfinished s.store) :
    forecast.Agreeing unfinished s (buildRecord declare number) fun _ grown =>
      (forecast.sources.forest.cursor number).usr ∈ grown.keys := by
  refine .look rfl ?_
  refine .bind_silent (silent_nameOf _) fun nativeName named alike => ?_
  refine .look rfl ?_
  refine .bind_silent (silent_renameUnlessEmpty _ _) fun name renamed alike' => ?_
  have agrees : forecast.Agrees unfinished renamed.store :=
    (alike.trans alike').store ▸ agrees
  refine .look rfl (.look rfl ?_)
  have admits := due.admits coherent
  have status := coherent.status .record number due.requested
  have needs (other : String) := coherent.needs_iff due.requested other
  generalize definition : (if (forecast.sources.forest.cursor number).definition.isNone &&
      (forecast.sources.forest.cursor number).isDefinition then some number
    else (forecast.sources.forest.cursor number).definition) = known
  have reported : (forecast.sources.forest.report number).fields = known.map fun defined =>
      (forecast.sources.forest.fieldNumbers defined).map forecast.sources.forest.reportField :=
    definition ▸ rfl
  refine .bind_publish due.requested.valueless fun begun goes fresh published => ?_
  cases known with
  | none =>
      simp only [Report.status, Report.asked, Report.layout, reported, Option.map_none,
        Option.isNone_none] at status needs
      have settled := agrees.settle fresh status.symm (by simp)
        (fun other found => absurd ((needs other).mp found) List.not_mem_nil) due.reaches
      refine (silent_debug _ _ _ begun).imp (fun _ after alike => ?_) fun _ _ failed => failed
      refine ⟨goes.trans (.of_alike alike), ?_, ?_⟩
      · rw [alike.store, published]
        exact settled
      · simp [alike.store, published]
  | some defined =>
      have underway := due.underway rfl agrees fresh goes published rfl (by simp)
      have body : begun.store.body? (forecast.sources.forest.cursor number).usr =
          some (.record (recordKind (forecast.sources.forest.cursor number).kind) false []) := by
        rw [published, Store.body?_push fresh, if_pos rfl]
        rfl
      refine .bind_silent (silent_debug _ _) fun _ logged alike => ?_
      have underway := underway.alike alike
      rw [← alike.store] at body
      refine .look rfl (.look rfl (.look rfl ?_))
      simp only [Report.status, Report.asked, Report.weighed, Report.layout, reported,
        Option.map_some] at status needs admits
      exact layRecord_ends coherent supplies underway body rfl admits status needs

/-! Enumerations. -/

theorem Agrees.amend_same {store : Store} {change : Body → Body}
    (agrees : forecast.Agrees unfinished store)
    (status : ∀ body, (change body).status = body.status)
    (record : ∀ body kind members, change body = .record kind false members → body = change body) :
    forecast.Agrees unfinished (store.amendBody key change) := by
  refine agrees.of_same Store.keys_amendBody (fun other => ?_) fun other members complete => ?_
  · rw [Store.status_eq, Store.status_eq, Store.body?_amendBody]
    split
    · rename_i same
      subst same
      cases store.body? other <;> simp [status]
    · rfl
  · obtain ⟨kind, complete⟩ := complete
    rw [Store.body?_amendBody] at complete
    split at complete
    · rename_i same
      obtain ⟨body, found, changed⟩ := Option.map_eq_some_iff.mp complete
      refine ⟨kind, ?_⟩
      rw [same, found, record body kind members changed, changed]
    · exact ⟨kind, complete⟩

/-- A declaration is changed in a way that the view does not tell of. -/
theorem Ends.amend_same {change : Body → Body} (goes : forecast.Goes base s)
    (fresh : key ∉ base.store.keys) (agrees : forecast.Agrees unfinished s.store)
    (status : ∀ body, (change body).status = body.status)
    (record : ∀ body kind members, change body = .record kind false members → body = change body) :
    forecast.Ends base unfinished s (amend key change) fun _ grown =>
      grown.keys = s.store.keys := by
  refine ensures_amend.mpr ?_
  rw [Store.modify_eq_amendBody]
  refine ⟨goes.edit (Store.prefix_amendBody goes.entries fresh) Store.keys_amendBody,
    agrees.amend_same status record, Store.keys_amendBody⟩

theorem buildEnumeration_agrees (coherent : forecast.Coherent)
    (due : forecast.Due unfinished .enumeration number)
    (agrees : forecast.Agrees unfinished s.store) :
    forecast.Agreeing unfinished s (buildEnumeration number) fun _ grown =>
      (forecast.sources.forest.cursor number).usr ∈ grown.keys := by
  refine .look rfl (.look rfl (.look rfl ?_))
  refine .bind_silent (silent_nameOf _) fun nativeName named alike => ?_
  refine .bind_silent (silent_renameUnlessEmpty _ _) fun name renamed alike' => ?_
  have agrees : forecast.Agrees unfinished renamed.store :=
    (alike.trans alike').store ▸ agrees
  have status := coherent.status .enumeration number due.requested
  have needs (other : String) := coherent.needs_iff due.requested other
  simp only [Report.status, Report.asked, Forest.report] at status needs
  refine .look rfl (.bind_publish due.requested.valueless fun begun goes fresh published => ?_)
  have settled := agrees.settle fresh status.symm (by simp)
    (fun other found => absurd ((needs other).mp found) List.not_mem_nil) due.reaches
  refine .bind_silent (silent_debug _ _) fun _ logged alike => .look rfl ?_
  have own : (forecast.sources.forest.cursor number).usr ∈ logged.store.keys := by
    simp [alike.store, published]
  refine ensures_forM _ (fun _ current => forecast.Goes renamed current ∧
    forecast.Agrees unfinished current.store ∧
    (forecast.sources.forest.cursor number).usr ∈ current.store.keys) ?_ ?_
  · exact ⟨goes.trans (.of_alike alike), by rw [alike.store, published]; exact settled, own⟩
  intro _ child _ _ current given
  obtain ⟨goes, agrees, own⟩ := given
  change forecast.Ends renamed unfinished current (buildConstant _ _ _ child)
    fun _ grown => (forecast.sources.forest.cursor number).usr ∈ grown.keys
  refine .look rfl (.bind_silent (silent_selected _) fun name named alike => .look rfl ?_)
  have goes := goes.trans (.of_alike alike)
  refine (Ends.amend_same goes fresh (alike.store ▸ agrees) ?_ ?_).imp fun _ grown same => ?_
  · exact fun body => by cases body <;> rfl
  · exact fun body _ _ same => by cases body <;> simp_all [addConstant]
  · rw [same, alike.store]
    exact own

/-! Interfaces. -/

theorem resolveParameter_agrees (coherent : forecast.Coherent)
    (supplies : forecast.Supplies declare) {frameNumber : Nat}
    (admits : forecast.Admits unfinished
      (forecast.answer (forecast.sources.forest.cursor number).type).asked
      (forecast.answer (forecast.sources.forest.cursor number).type).weighed)
    (agrees : forecast.Agrees unfinished s.store) :
    forecast.Agreeing unfinished s
      (resolveParameter declare frameNumber (forecast.sources.forest.cursor number))
      (Answer.Given (forecast.answer (forecast.sources.forest.cursor number).type)) := by
  refine (resolve_agrees coherent supplies _ (Sources.parts_of_cursor (Cursor.type_mem_types _))
    s _ rfl admits agrees).bind fun type resolved _ agrees given => ?_
  refine .look rfl ?_
  split
  · exact .bind_silent (silent_changeFrame _ _) fun _ _ alike =>
      .pure (alike.store ▸ agrees) (alike.store ▸ given)
  split
  · exact .bind_silent (silent_changeFrame _ _) fun _ _ alike =>
      .pure (alike.store ▸ agrees) (alike.store ▸ given)
  · exact .pure agrees given

/-- What the types of the parameters ask for. -/
def argumentTypes (forecast : Forecast) (arguments : List Nat) : List Answer :=
  arguments.map fun number => forecast.answer (forecast.sources.forest.cursor number).type

theorem methodParameters_agrees (coherent : forecast.Coherent)
    (supplies : forecast.Supplies declare) (frameNumber : Nat) (owner : String)
    (arguments : List Nat) (index : Nat) (s : Session)
    (admits : ∀ answer ∈ forecast.argumentTypes arguments,
      forecast.Admits unfinished answer.asked answer.weighed)
    (agrees : forecast.Agrees unfinished s.store) :
    forecast.Agreeing unfinished s (methodParameters declare frameNumber owner index arguments)
      fun _ grown => ∀ answer ∈ forecast.argumentTypes arguments,
        answer.asked ⊆ grown.keys := by
  induction arguments generalizing index s with
  | nil => exact .pure agrees (by simp [argumentTypes])
  | cons argument rest induction =>
      refine .look rfl ?_
      refine (resolveParameter_agrees coherent supplies (admits _ List.mem_cons_self)
        agrees).bind fun type resolved _ agrees given => ?_
      refine .look rfl (.bind_silent (silent_parameterName _ _ _ _) fun name named alike => ?_)
      refine (induction (index + 1) named (fun answer member =>
        admits answer (List.mem_cons_of_mem _ member)) (alike.store ▸ agrees)).bind
        fun params after goes agrees all => .pure agrees fun answer member => ?_
      rcases List.mem_cons.mp member with rfl | member
      · exact List.Subset.trans (alike.store ▸ given.2) goes.keys
      · exact all answer member

/-- What the types of a method ask for: its result first, then its parameters. -/
def methodTypes (forecast : Forecast) (child : Nat) : List Answer :=
  forecast.answer (forecast.sources.forest.cursor child).result ::
    forecast.argumentTypes (forecast.sources.forest.cursor child).arguments

theorem buildMethod_agrees (coherent : forecast.Coherent) (supplies : forecast.Supplies declare)
    {owner : String} {child : Nat}
    (admits : ∀ answer ∈ forecast.methodTypes child,
      forecast.Admits unfinished answer.asked answer.weighed)
    (agrees : forecast.Agrees unfinished s.store) :
    forecast.Agreeing unfinished s (buildMethod declare owner child) fun _ grown =>
      ∀ answer ∈ forecast.methodTypes child, answer.asked ⊆ grown.keys := by
  refine .look rfl (.withFrame ?_)
  have inside : forecast.Agrees unfinished
    (s.entered (owner ++ "." ++ (forecast.sources.forest.cursor child).spelling)).store := agrees
  refine (resolve_agrees coherent supplies _
    (Sources.parts_of_cursor (Cursor.result_mem_types _)) _ _ rfl (admits _ List.mem_cons_self)
    inside).bind fun result resolved _ agrees given => ?_
  refine (methodParameters_agrees coherent supplies _ _ _ 0 resolved (fun answer member =>
    admits answer (List.mem_cons_of_mem _ member)) agrees).bind
    fun params collected goes agrees all => ?_
  have published : ∀ answer ∈ forecast.methodTypes child,
      answer.asked ⊆ collected.store.keys := by
    intro answer member
    rcases List.mem_cons.mp member with rfl | member
    · exact List.Subset.trans given.2 goes.keys
    · exact all answer member
  refine .look rfl (.look rfl ?_)
  split
  · exact .bind_silent (silent_diagnose _ _ _ _) fun _ _ alike =>
      .pure (alike.store ▸ agrees) (alike.store ▸ published)
  split
  · exact .bind_silent (silent_diagnose _ _ _ _) fun _ _ alike =>
      .pure (alike.store ▸ agrees) (alike.store ▸ published)
  refine .look rfl (.bind_silent (silent_selected _) fun _ _ alike => .look rfl ?_)
  exact .pure (alike.store ▸ agrees) (alike.store ▸ published)

/-- What one part of an interface asks for. -/
def partAsked (forecast : Forecast) (child : Nat) : List String :=
  (forecast.sources.forest.reportParent? child).toList ++
    (forecast.sources.forest.reportMethod child).flatMap fun type =>
      (Answer.ofType forecast.view type).asked

def partWeighed (forecast : Forecast) (child : Nat) : List CType :=
  (forecast.sources.forest.reportMethod child).flatMap fun type =>
    (Answer.ofType forecast.view type).weighed

theorem methodTypes_eq {child : Nat}
    (method : (forecast.sources.forest.cursor child).kind.isMethod = true) :
    forecast.methodTypes child =
      (forecast.sources.forest.reportMethod child).map (Answer.ofType forecast.view) := by
  simp [Forest.reportMethod, method, methodTypes, argumentTypes, answer]

theorem partAsked_eq {child : Nat}
    (method : (forecast.sources.forest.cursor child).kind.isMethod = true) :
    forecast.partAsked child = (forecast.methodTypes child).flatMap (·.asked) := by
  have other : (forecast.sources.forest.cursor child).kind ≠ .superclass := by
    intro same
    simp [same, CursorKind.isMethod] at method
  simp [partAsked, methodTypes_eq method, Forest.reportParent?, other, List.flatMap_map]

theorem partWeighed_eq {child : Nat}
    (method : (forecast.sources.forest.cursor child).kind.isMethod = true) :
    forecast.partWeighed child = (forecast.methodTypes child).flatMap (·.weighed) := by
  simp [partWeighed, methodTypes_eq method, List.flatMap_map]

theorem buildInterfacePart_agrees (coherent : forecast.Coherent)
    (supplies : forecast.Supplies declare) {usr owner : String} {child : Nat}
    (admits : forecast.Admits (usr :: unfinished) (forecast.partAsked child)
      (forecast.partWeighed child))
    (underway : forecast.Underway base unfinished usr s) :
    forecast.Ends base (usr :: unfinished) s (buildInterfacePart declare usr owner child)
      fun _ grown => s.store.keys ⊆ grown.keys ∧ forecast.partAsked child ⊆ grown.keys := by
  refine .look rfl ?_
  split
  · rename_i superclass kind referenced
    have own : forecast.partAsked child = [(forecast.sources.forest.cursor superclass).usr] := by
      simp [partAsked, Forest.reportParent?, Forest.reportMethod, kind, referenced,
        CursorKind.isMethod]
    obtain ⟨reaches, led⟩ := admits.asked (forecast.sources.forest.cursor superclass).usr
      (by simp [own])
    refine (supplies _ .interface superclass s ⟨.superclass kind referenced, reaches, led⟩
      underway.agrees).bind_ends fun parent grown goes agrees given => ?_
    obtain ⟨rfl, published⟩ := given
    refine (Ends.amend_same (underway.goes.trans goes) underway.fresh agrees ?_ ?_).imp
      fun _ after same => ?_
    · exact fun body => by cases body <;> rfl
    · exact fun body _ _ same => by cases body <;> simp_all [setSuperclass]
    · rw [same, own]
      exact ⟨goes.keys, by simpa using published⟩
  · rename_i kind unreferenced
    have own : forecast.partAsked child = [] := by
      simp [partAsked, Forest.reportParent?, Forest.reportMethod, kind, unreferenced,
        CursorKind.isMethod]
    exact .pure underway.goes underway.agrees ⟨List.Subset.refl _, by simp [own]⟩
  · rename_i other none
    split
    · rename_i method
      refine (buildMethod_agrees coherent supplies (fun answer member => admits.sub ?_ ?_)
        underway.agrees).bind_ends fun built grown goes agrees all => ?_
      · rw [partAsked_eq method]
        exact fun key asked => List.mem_flatMap.mpr ⟨answer, member, asked⟩
      · rw [partWeighed_eq method]
        exact fun type weighed => List.mem_flatMap.mpr ⟨answer, member, weighed⟩
      have asked : forecast.partAsked child ⊆ grown.store.keys := by
        rw [partAsked_eq method]
        intro key member
        obtain ⟨answer, listed, asked⟩ := List.mem_flatMap.mp member
        exact all answer listed asked
      split
      · refine (Ends.amend_same (underway.goes.trans goes) underway.fresh agrees ?_ ?_).imp
          fun _ after same => ?_
        · exact fun body => by cases body <;> rfl
        · exact fun body _ _ same => by cases body <;> simp_all [addMethod]
        · rw [same]
          exact ⟨goes.keys, asked⟩
      · exact .pure (underway.goes.trans goes) agrees ⟨goes.keys, asked⟩
    · rename_i notMethod
      have differs : (forecast.sources.forest.cursor child).kind ≠ .superclass := by
        intro same
        cases referenced : (forecast.sources.forest.cursor child).referenced with
        | none => exact none same referenced
        | some superclass => exact other superclass same referenced
      have own : forecast.partAsked child = [] := by
        simp [partAsked, Forest.reportParent?, Forest.reportMethod, differs, notMethod]
      exact .pure underway.goes underway.agrees ⟨List.Subset.refl _, by simp [own]⟩

/-- An interface asks for what its parts ask for. -/
theorem mem_asked_interface {other : String} :
    other ∈ (forecast.sources.forest.report number).asked forecast.view .interface ↔
      ∃ child ∈ forecast.sources.forest.definedChildren number,
        other ∈ forecast.partAsked child := by
  simp only [Report.asked, Forest.report, partAsked, List.mem_append, List.mem_filterMap,
    List.mem_flatMap, Option.mem_toList]
  constructor
  · intro given
    rcases given with ⟨child, member, parent⟩ | ⟨type, ⟨child, member, own⟩, asked⟩
    · exact ⟨child, member, .inl parent⟩
    · exact ⟨child, member, .inr ⟨type, own, asked⟩⟩
  · intro given
    obtain ⟨child, member, parent | ⟨type, own, asked⟩⟩ := given
    · exact .inl ⟨child, member, parent⟩
    · exact .inr ⟨type, ⟨child, member, own⟩, asked⟩

theorem partWeighed_subset {child : Nat}
    (member : child ∈ forecast.sources.forest.definedChildren number) :
    forecast.partWeighed child ⊆
      (forecast.sources.forest.report number).weighed forecast.view .interface := by
  intro type weighed
  obtain ⟨native, own, weighed⟩ := List.mem_flatMap.mp weighed
  exact List.mem_flatMap.mpr ⟨native, List.mem_flatMap.mpr ⟨child, member, own⟩, weighed⟩

/-- What the parts so far ask for is published. -/
theorem buildInterfaceParts_agrees (coherent : forecast.Coherent)
    (supplies : forecast.Supplies declare) {usr owner : String} {children : List Nat}
    (admits : ∀ child ∈ children, forecast.Admits (usr :: unfinished)
      (forecast.partAsked child) (forecast.partWeighed child))
    (underway : forecast.Underway base unfinished usr s) :
    (children.forM (buildInterfacePart declare usr owner)).Ensures forecast.sources.forest s
      (fun _ after => forecast.Underway base unfinished usr after ∧
        ∀ child ∈ children, forecast.partAsked child ⊆ after.store.keys)
      fun _ _ => True := by
  refine ensures_forM children (fun before current =>
    forecast.Underway base unfinished usr current ∧
      ∀ child ∈ before, forecast.partAsked child ⊆ current.store.keys)
    ⟨underway, by simp⟩ ?_
  intro before child rest whole current given
  obtain ⟨underway, asked⟩ := given
  refine Step.Ensures.imp (buildInterfacePart_agrees coherent supplies
    (admits child (by simp [whole])) underway) (fun _ after given => ?_) fun _ _ failed => failed
  obtain ⟨goes, agrees, keys, own⟩ := given
  refine ⟨⟨underway.fresh, underway.apart, goes, agrees⟩, fun other listed => ?_⟩
  rcases List.mem_append.mp listed with listed | listed
  · exact List.Subset.trans (asked other listed) keys
  · exact List.mem_singleton.mp listed ▸ own

theorem buildInterface_agrees (coherent : forecast.Coherent)
    (supplies : forecast.Supplies declare) (due : forecast.Due unfinished .interface number)
    (agrees : forecast.Agrees unfinished s.store) :
    forecast.Agreeing unfinished s (buildInterface declare number) fun _ grown =>
      (forecast.sources.forest.cursor number).usr ∈ grown.keys := by
  refine .look rfl (.look rfl ?_)
  refine .bind_silent (silent_selected _) fun name named alike => ?_
  have agrees : forecast.Agrees unfinished named.store := alike.store ▸ agrees
  have admits := due.admits coherent
  have status := coherent.status .interface number due.requested
  have needs (other : String) := coherent.needs_iff due.requested other
  simp only [mem_asked_interface] at needs
  have children : forecast.sources.forest.definedChildren number =
    ((forecast.sources.forest.cursor number).definition.map fun defined =>
      (forecast.sources.forest.cursor defined).children).getD [] := rfl
  refine .look rfl (.look rfl ?_)
  refine .bind_publish due.requested.valueless fun begun goes fresh published => ?_
  split
  · rename_i unknown
    rw [unknown] at children
    simp only [Report.status, Forest.report, unknown] at status
    have settled := agrees.settle fresh (by rw [status, unknown]; rfl) (by simp)
      (fun other found => by
        obtain ⟨child, member, -⟩ := (needs other).mp found
        simp [children] at member) due.reaches
    refine (silent_debug _ _ _ begun).imp (fun _ after alike => ?_) fun _ _ failed => failed
    refine ⟨goes.trans (.of_alike alike), ?_, ?_⟩
    · rw [alike.store, published]
      exact settled
    · simp [alike.store, published]
  · rename_i defined known
    rw [known] at children
    simp only [Report.status, Forest.report, known] at status
    have underway := due.underway rfl agrees fresh goes published (by rw [known]; rfl) (by simp)
    refine .bind_silent (silent_debug _ _) fun _ logged alike => .look rfl ?_
    refine Step.Ensures.imp (buildInterfaceParts_agrees coherent supplies
      (fun child member => ?_) (underway.alike alike)) (fun _ after given => ?_)
      fun _ _ failed => failed
    · have own : child ∈ forecast.sources.forest.definedChildren number := by
        simpa [children] using member
      exact admits.sub (fun key asked => mem_asked_interface.mpr ⟨child, own, asked⟩)
        (partWeighed_subset own)
    obtain ⟨underway, asked⟩ := given
    refine ⟨underway.goes, ?_, underway.published⟩
    refine underway.agrees.finish underway.apart rfl (fun _ _ => rfl) ?_ (fun other found => ?_)
      (underway.agrees.laid _)
    · rw [status]
      exact (underway.agrees.pending _ List.mem_cons_self).2
    · obtain ⟨child, member, own⟩ := (needs other).mp found
      exact asked child (by simpa [children] using member) own

/-! All together. -/

theorem build_agrees (coherent : forecast.Coherent) (supplies : forecast.Supplies declare)
    (form : Form) (due : forecast.Due unfinished form number)
    (agrees : forecast.Agrees unfinished s.store) :
    forecast.Agreeing unfinished s (build declare form number) fun _ grown =>
      (forecast.sources.forest.cursor number).usr ∈ grown.keys := by
  cases form with
  | typedef => exact buildTypedef_agrees coherent supplies due agrees
  | record => exact buildRecord_agrees coherent supplies due agrees
  | enumeration => exact buildEnumeration_agrees coherent due agrees
  | interface => exact buildInterface_agrees coherent supplies due agrees

theorem declareWithin_supplies (coherent : forecast.Coherent) (fuel : Nat) :
    forecast.Supplies (declareWithin fuel) := by
  induction fuel with
  | zero => exact fun _ _ _ _ _ _ => trivial
  | succ fuel induction =>
      intro unfinished form number s due agrees
      refine .look rfl (.look rfl ?_)
      split
      · rename_i published
        exact .pure agrees ⟨rfl, Store.contains_iff_mem_keys.mp published⟩
      · have built : forecast.Agreeing unfinished s
            (withFrame (forecast.sources.forest.cursor number).spelling fun _ =>
              build (declareWithin fuel) form number)
            fun _ grown => (forecast.sources.forest.cursor number).usr ∈ grown.keys :=
          .withFrame (build_agrees coherent induction form due agrees)
        exact built.bind fun _ _ _ agrees published => .pure agrees ⟨rfl, published⟩

theorem declare_supplies (coherent : forecast.Coherent) : forecast.Supplies Session.declare := by
  intro unfinished form number s due agrees
  refine .look rfl ?_
  exact declareWithin_supplies coherent _ unfinished form number s due agrees

end Forecast

end LuaBinder
