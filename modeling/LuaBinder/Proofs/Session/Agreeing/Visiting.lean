import LuaBinder.Proofs.Session.Agreeing.Building
import LuaBinder.Proofs.Session.Forecast
import LuaBinder.Proofs.Session.Visiting

namespace LuaBinder

open Header Session

namespace Forecast

variable {forecast : Forecast} {s middle after : Session} {policy : Policy}
  {names : List (String × String)} {key : String} {number : Nat}

theorem Ends.bind_selected {base : Session} {unfinished : List String}
    {result : Except SelectionError α} {next : α → Step β} {good : β → Store → Prop}
    (second : ∀ answer, result = .ok answer →
      forecast.Ends base unfinished s (next answer) good) :
    forecast.Ends base unfinished s (selected result >>= next) good := by
  cases result with
  | ok answer => exact .look rfl (second answer rfl)
  | error => exact trivial

theorem mem_keys_of_published {store : Store} {usr : String} {ok : Declaration → Bool}
    (published : ((store.lookup? usr).filter ok).isSome = true) : usr ∈ store.keys := by
  by_contra absent
  simp [Store.lookup?_eq_none_iff.mpr absent] at published

/-- What starts a session is due when nothing is under way. -/
theorem due_of_starts {form : Form} (requested : forecast.sources.Requests form number)
    {taken : Bool} (holds : taken = true)
    (reaches : ∀ key ∈ startsIf taken (forecast.sources.forest.cursor number).usr,
      forecast.Reaches key) : forecast.Due [] form number where
  requested := requested
  reaches := reaches _ (by simp [startsIf, holds])
  led := by simp

/-! Compounds and typedefs. -/

section

variable (coherent : forecast.Coherent) (agrees : forecast.Agrees [] s.store)
include coherent agrees

theorem visitRecord_agrees
    (formed : formOf? (forecast.sources.forest.cursor number).kind = some .record)
    (reaches : ∀ key ∈ s.policy.recordStarts (forecast.sources.forest.cursor number),
      forecast.Reaches key) :
    forecast.Agreeing [] s (visitRecord number) fun _ grown =>
      s.policy.recordStarts (forecast.sources.forest.cursor number) ⊆ grown.keys := by
  have inside : forecast.Agrees []
    (s.entered (forecast.sources.forest.cursor number).spelling).store := agrees
  refine .look rfl (.withFrame (.look rfl ?_))
  split
  · rename_i published
    exact .pure inside (startsIf_subset fun _ => mem_keys_of_published published)
  split
  · rename_i anonymous
    exact .pure inside (startsIf_subset (by simp [anonymous]))
  rename_i named
  refine .look rfl (.bind_selected fun answer selected => ?_)
  simp only [entered] at selected
  split
  · rename_i taken
    have due := due_of_starts (Sources.requests_of_formOf? formed)
      (by simp [named, selected, taken, chosen]) reaches
    exact (buildRecord_agrees coherent (declare_supplies coherent) due inside).bind
      fun _ _ _ agrees published => .pure agrees (startsIf_subset fun _ => published)
  · rename_i refused
    exact Agreeing.pure inside (startsIf_subset (by simp [selected, refused, chosen]))

theorem visitInterface_agrees
    (kind : (forecast.sources.forest.cursor number).kind = .interface)
    (reaches : ∀ key ∈ s.policy.interfaceStarts (forecast.sources.forest.cursor number),
      forecast.Reaches key) :
    forecast.Agreeing [] s (visitInterface number) fun _ grown =>
      s.policy.interfaceStarts (forecast.sources.forest.cursor number) ⊆ grown.keys := by
  have inside : forecast.Agrees []
    (s.entered (forecast.sources.forest.cursor number).spelling).store := agrees
  refine .look rfl (.withFrame (.look rfl ?_))
  split
  · rename_i published
    exact .pure inside (startsIf_subset fun _ => mem_keys_of_published published)
  refine .look rfl (.bind_selected fun answer selected => ?_)
  simp only [entered] at selected
  split
  · rename_i taken
    have due : forecast.Due [] .interface number :=
      due_of_starts (Sources.requests_of_formOf? (by rw [kind]; rfl))
        (by simp [selected, taken, chosen]) reaches
    exact (buildInterface_agrees coherent (declare_supplies coherent) due inside).bind
      fun _ _ _ agrees published => .pure agrees (startsIf_subset fun _ => published)
  · rename_i refused
    exact Agreeing.pure inside (startsIf_subset (by simp [selected, refused, chosen]))

theorem visitTypedef_agrees
    (kind : (forecast.sources.forest.cursor number).kind = .typedef)
    (reaches : ∀ key ∈ s.policy.typedefStarts (forecast.sources.forest.cursor number),
      forecast.Reaches key) :
    forecast.Agreeing [] s (visitTypedef number) fun _ grown =>
      s.policy.typedefStarts (forecast.sources.forest.cursor number) ⊆ grown.keys := by
  have inside : forecast.Agrees []
    (s.entered (forecast.sources.forest.cursor number).spelling).store := agrees
  refine .look rfl (.withFrame (.look rfl ?_))
  split
  · rename_i published
    exact .pure inside (startsIf_subset fun _ => mem_keys_of_published published)
  split
  · rename_i known
    refine .bind_silent (silent_debug _ _) fun _ _ alike => ?_
    refine .pure (alike.store ▸ inside) (startsIf_subset fun taken => ?_)
    simp [Option.isSome_iff_ne_none.mp known] at taken
  rename_i unknown
  refine .look rfl (.bind_selected fun answer selected => ?_)
  simp only [entered] at selected
  split
  · rename_i taken
    have due : forecast.Due [] .typedef number :=
      due_of_starts (.cursor (by rw [kind]; rfl))
        (by simpa [selected, taken, chosen] using unknown) reaches
    refine (buildTypedef_agrees coherent (declare_supplies coherent) due inside).bind ?_
    intro _ built _ agrees published
    refine .look rfl ?_
    split
    · refine .bind_silent (silent_debug _ _) fun _ logged alike =>
        .bind_silent (silent_diagnose _ _ _ _) fun _ noted alike' => ?_
      rw [← (alike.trans alike').store] at agrees published
      exact .pure agrees (startsIf_subset fun _ => published)
    · exact .pure agrees (startsIf_subset fun _ => published)
  · rename_i refused
    exact Agreeing.pure inside (startsIf_subset (by simp [selected, refused, chosen]))

end

/-! Constants. -/

/-- No type refers to a value. -/
theorem not_requested_of_value {body : Body} (coherent : forecast.Coherent)
    (presents : forecast.sources.Presents key body.kind) (value : body.IsValue) :
    ¬ forecast.sources.Requested key := by
  intro given
  obtain ⟨form, number, requested, rfl⟩ := given
  have kind := coherent.oneKind _ _ _ requested presents
  have record : (recordKind (forecast.sources.forest.cursor number).kind).declarationKind ≠
      body.kind := by
    cases value <;> cases recordKind (forecast.sources.forest.cursor number).kind <;>
      simp [Body.kind, RecordKind.declarationKind]
  cases form with
  | record => exact record kind
  | _ => cases value <;> simp [Form.kind, Body.kind] at kind

/-- A value is finished when it is published. -/
theorem Agrees.value {unfinished : List String} {store : Store} {d : Declaration}
    (coherent : forecast.Coherent) (agrees : forecast.Agrees unfinished store)
    (fresh : d.usr ∉ store.keys) (presents : forecast.sources.Presents d.usr d.body.kind)
    (value : d.body.IsValue) (reaches : forecast.Reaches d.usr) :
    forecast.Agrees unfinished (store.push d) := by
  have unrequested := not_requested_of_value coherent presents value
  have status : d.body.status = (none, false) := by
    generalize d.body = body at value
    cases value <;> rfl
  refine agrees.settle fresh ?_ (fun kind members same => ?_) (fun other needs => ?_) reaches
  · rw [coherent.others d.usr unrequested, status]
  · exact nomatch same ▸ value
  · obtain ⟨form, number, requested, same, -⟩ := needs
    exact unrequested ⟨form, number, requested, same⟩

theorem valueless_of_constant
    (kind : (forecast.sources.forest.cursor number).kind.published? = some .constant) :
    forecast.sources.Valueless (forecast.sources.forest.cursor number).usr :=
  ⟨.constant, .cursor kind, by simp, by simp⟩

theorem visitConstants_agrees (coherent : forecast.Coherent) (numbers : List Nat)
    (constants : ∀ number ∈ numbers,
      (forecast.sources.forest.cursor number).kind.published? = some .constant)
    (reaches : ∀ number ∈ numbers,
      ∀ key ∈ policy.constantStarts (forecast.sources.forest.cursor number),
        forecast.Reaches key)
    (s : Session) (configured : s.policy = policy) (agrees : forecast.Agrees [] s.store) :
    forecast.Agreeing [] s (visitConstants numbers) fun _ grown =>
      ∀ number ∈ numbers,
        policy.constantStarts (forecast.sources.forest.cursor number) ⊆ grown.keys := by
  induction numbers generalizing s with
  | nil => exact .pure agrees (by simp)
  | cons number rest induction =>
      have later := induction (fun other member =>
        constants other (List.mem_cons_of_mem _ member)) fun other member =>
        reaches other (List.mem_cons_of_mem _ member)
      have both {store grown : Store} (keys : store.keys ⊆ grown.keys)
          (first : policy.constantStarts (forecast.sources.forest.cursor number) ⊆ store.keys)
          (others : ∀ number ∈ rest,
            policy.constantStarts (forecast.sources.forest.cursor number) ⊆ grown.keys) :
          ∀ other ∈ number :: rest,
            policy.constantStarts (forecast.sources.forest.cursor other) ⊆ grown.keys := by
        intro other member
        rcases List.mem_cons.mp member with rfl | member
        · exact List.Subset.trans first keys
        · exact others other member
      refine .look rfl (.look rfl (.look rfl ?_))
      split
      · rename_i published
        refine (later s configured agrees).bind fun _ _ goes agrees others => .pure agrees ?_
        exact both goes.keys (startsIf_subset fun _ => mem_keys_of_published published) others
      refine .bind_selected fun answer selected => ?_
      rw [configured] at selected
      split
      · rename_i refused
        refine (later s configured agrees).imp fun _ _ others => ?_
        refine both (List.Subset.refl _) (startsIf_subset fun taken => ?_) others
        simp_all [chosen]
      rename_i taken
      have kind := constants number List.mem_cons_self
      refine .bind_selected fun name _ => .look rfl ?_
      refine .bind_publish (valueless_of_constant kind) fun begun goes fresh published => ?_
      have agrees : forecast.Agrees [] begun.store := by
        rw [published]
        refine agrees.value coherent fresh (.cursor kind) (.constant _ _)
          (reaches number List.mem_cons_self _ ?_)
        simpa [Policy.constantStarts, startsIf, selected, chosen] using taken
      refine .bind_silent (silent_debug _ _) fun _ logged alike => ?_
      refine (later logged (alike.policy.trans (goes.policy.trans configured))
        (alike.store ▸ agrees)).bind_ends fun _ after goes' agrees others => ?_
      refine .pure ((goes.trans (.of_alike alike)).trans goes') agrees ?_
      refine both goes'.keys (startsIf_subset fun _ => ?_) others
      simp [alike.store, published]

theorem visitEnumeration_agrees (coherent : forecast.Coherent)
    (agrees : forecast.Agrees [] s.store)
    (kind : (forecast.sources.forest.cursor number).kind = .enumeration)
    (named : (forecast.sources.forest.cursor number).anonymous = true →
      s.isNamed (forecast.sources.forest.cursor number).usr =
        names.any (·.1 == (forecast.sources.forest.cursor number).usr))
    (reaches : ∀ key ∈ forecast.sources.forest.starts forecast.view s.policy names number,
      forecast.Reaches key) :
    forecast.Agreeing [] s (visitEnumeration number) fun _ grown =>
      forecast.sources.forest.starts forecast.view s.policy names number ⊆ grown.keys := by
  have inside : forecast.Agrees []
    (s.entered (forecast.sources.forest.cursor number).spelling).store := agrees
  simp only [Forest.starts, kind] at reaches ⊢
  refine .look rfl (.withFrame ?_)
  split
  · rename_i anonymous
    simp only [anonymous, Bool.not_true, Bool.false_eq_true, ↓reduceIte] at reaches ⊢
    rw [← named anonymous] at reaches ⊢
    refine .look rfl ?_
    split
    · rename_i known
      have known : s.isNamed (forecast.sources.forest.cursor number).usr = true := known
      exact .pure inside (by simp [known])
    · rename_i unknown
      have unknown : ¬ s.isNamed (forecast.sources.forest.cursor number).usr = true := unknown
      simp only [unknown, Bool.false_eq_true, ↓reduceIte] at reaches ⊢
      refine .look rfl (Ends.imp (visitConstants_agrees coherent _ (fun child member => ?_)
        (fun child member key own => reaches key (List.mem_flatMap.mpr ⟨child, member, own⟩))
        (s.entered (forecast.sources.forest.cursor number).spelling) rfl inside)
        fun _ grown all key own => ?_)
      · have constant := (List.mem_filter.mp member).2
        rw [beq_iff_eq] at constant
        rw [constant]
        rfl
      · obtain ⟨child, member, own⟩ := List.mem_flatMap.mp own
        exact all child member own
  rename_i spelled
  simp only [spelled] at reaches ⊢
  refine .look rfl ?_
  split
  · rename_i published
    exact .pure inside (startsIf_subset fun _ => mem_keys_of_published published)
  refine .look rfl (.bind_selected fun answer selected => ?_)
  simp only [entered] at selected
  split
  · rename_i taken
    have due : forecast.Due [] .enumeration number :=
      due_of_starts (Sources.requests_of_formOf? (by rw [kind]; rfl))
        (by simp [selected, taken, chosen]) reaches
    exact (buildEnumeration_agrees coherent due inside).bind
      fun _ _ _ agrees published => .pure agrees (startsIf_subset fun _ => published)
  · rename_i refused
    exact Agreeing.pure inside (startsIf_subset (by simp [selected, refused, chosen]))

theorem visitMacro_agrees (coherent : forecast.Coherent) (agrees : forecast.Agrees [] s.store)
    (kind : (forecast.sources.forest.cursor number).kind = .macroDefinition)
    (reaches : ∀ key ∈ s.policy.macroStarts (forecast.sources.forest.cursor number),
      forecast.Reaches key) :
    forecast.Agreeing [] s (visitMacro number) fun _ grown =>
      s.policy.macroStarts (forecast.sources.forest.cursor number) ⊆ grown.keys := by
  have inside : forecast.Agrees []
    (s.entered (forecast.sources.forest.cursor number).spelling).store := agrees
  refine .look rfl (.withFrame (.look rfl ?_))
  split
  · rename_i published
    exact .pure inside (startsIf_subset fun _ => mem_keys_of_published published)
  split
  · rename_i applied
    exact .pure inside (startsIf_subset (by simp [applied]))
  rename_i plain
  refine .look rfl (.bind_selected fun answer selected => ?_)
  simp only [entered] at selected
  split
  · rename_i refused
    exact Agreeing.pure inside (startsIf_subset (by simp_all [chosen]))
  rename_i taken
  simp only [addMacro]
  split
  · trivial
  · rename_i other
    refine .bind_silent (silent_debug _ _) fun _ _ alike => ?_
    exact .pure (.of_alike alike) (alike.store ▸ inside) (startsIf_subset (by simp [other]))
  · rename_i literal found
    have constant : (forecast.sources.forest.cursor number).kind.published? = some .constant := by
      rw [kind]
      rfl
    refine .look rfl (.bind_selected fun name _ => .look rfl ?_)
    refine .bind_publish (valueless_of_constant constant) fun begun goes fresh published => ?_
    have agrees : forecast.Agrees [] begun.store := by
      rw [published]
      refine inside.value coherent fresh (.cursor constant) (.constant _ _) (reaches _ ?_)
      simp_all [Policy.macroStarts, startsIf, chosen]
    refine .bind_silent (silent_debug _ _) fun _ logged alike => ?_
    refine .pure (goes.trans (.of_alike alike)) (alike.store ▸ agrees) (startsIf_subset fun _ => ?_)
    simp [alike.store, published]

end Forecast

end LuaBinder
