import LuaBinder.Proofs.Session.Naming.Titles

namespace LuaBinder

open Header Session

/-! Compounds that have no name when everything is visited are numbered by kind, in the order
in which they were published. -/

/-- The word for the kind in the names of nameless compounds. -/
def DeclarationKind.word : DeclarationKind → String
  | enumeration => "Enum"
  | kind => kind.name

theorem DeclarationKind.word_injective {kind other : DeclarationKind}
    (same : kind.word = other.word) : kind = other := by
  cases kind <;> cases other <;> first | rfl | exact absurd same (by decide)

theorem Session.kindWord_eq (d : Declaration) : kindWord d = d.kind.word := by
  unfold kindWord DeclarationKind.word
  cases d.kind <;> rfl

def Session.numberedName (kind : DeclarationKind) (number : Nat) : String :=
  "Unnamed" ++ kind.word ++ toString number

theorem Session.numberedName_injective {kind : DeclarationKind} {number other : Nat}
    (same : numberedName kind number = numberedName kind other) : number = other :=
  toString_injective ((String.append_right_inj ("Unnamed" ++ kind.word)).mp same)

/-- A compound of the kind that has no name yet. -/
def Declaration.isNameless (d : Declaration) (kind : DeclarationKind) : Bool :=
  d.isCompound && d.nativeName == "" && d.kind == kind

namespace Store

/-- The USRs of the nameless compounds of the kind, in order of publication. -/
def nameless (store : Store) (kind : DeclarationKind) : List String :=
  (store.entries.filter fun entry => entry.2.isNameless kind).map (·.1)

def nativeName? (store : Store) (usr : String) : Option String :=
  (store.lookup? usr).map (·.nativeName)

variable {key : String} {d : Declaration} {entries : List (String × Declaration)}

theorem nativeName?_cons (usr : String) :
    Store.nativeName? ⟨(key, d) :: entries⟩ usr =
      if key = usr then some d.nativeName else Store.nativeName? ⟨entries⟩ usr := by
  unfold nativeName? lookup?
  by_cases same : key = usr
  · simp [same]
  · simp [same]

theorem nameless_cons (kind : DeclarationKind) :
    nameless ⟨(key, d) :: entries⟩ kind =
      if d.isNameless kind then key :: nameless ⟨entries⟩ kind else nameless ⟨entries⟩ kind := by
  unfold nameless
  by_cases own : d.isNameless kind = true
  · simp [own]
  · simp [own]

theorem mem_nameless {store : Store} {kind : DeclarationKind}
    (found : store.lookup? key = some d) (nameless : d.isNameless kind = true) :
    key ∈ store.nameless kind :=
  List.mem_map.mpr ⟨(key, d), List.mem_filter.mpr ⟨mem_entries_of_lookup? found, nameless⟩, rfl⟩

theorem nameless_subset (entries : List (String × Declaration)) (kind : DeclarationKind) :
    nameless ⟨entries⟩ kind ⊆ keys ⟨entries⟩ :=
  List.map_subset _ (List.filter_subset_self _)

/-- What stands in front under another key does not count. -/
theorem map_nativeName?_cons {usrs : List String} (absent : key ∉ usrs) :
    usrs.map (Store.nativeName? ⟨(key, d) :: entries⟩) = usrs.map (Store.nativeName? ⟨entries⟩) := by
  refine List.map_congr_left fun usr listed => ?_
  have other : key ≠ usr := by
    rintro rfl
    exact absent listed
  rw [nativeName?_cons, if_neg other]

end Store

namespace Session

open Store

def countOf (counts : List (String × Nat)) (word : String) : Nat :=
  ((counts.find? (·.1 == word)).map (·.2)).getD 0

theorem countOf_cons (counts : List (String × Nat)) (word other : String) (count : Nat) :
    countOf ((word, count) :: counts) other = if word = other then count else countOf counts other := by
  unfold countOf
  by_cases same : word = other
  · simp [same]
  · simp [same]

/-- The names go on from what has been counted. -/
theorem nameAll_numbers (kind : DeclarationKind) (counts : List (String × Nat))
    {entries : List (String × Declaration)} (apart : (keys ⟨entries⟩).Nodup) :
    (nameless ⟨entries⟩ kind).map (Store.nativeName? ⟨nameAll counts entries⟩) =
      (List.range (nameless ⟨entries⟩ kind).length).map fun index =>
        some (numberedName kind (countOf counts kind.word + index + 1)) := by
  induction entries generalizing counts with
  | nil => rfl
  | cons entry rest induction =>
      obtain ⟨key, d⟩ := entry
      obtain ⟨fresh, apart⟩ := List.nodup_cons.mp apart
      have absent : key ∉ nameless ⟨rest⟩ kind := fun listed =>
        fresh (nameless_subset rest kind listed)
      rw [nameless_cons, nameAll, kindWord_eq]
      split
      · rename_i named
        by_cases own : d.kind = kind
        · subst own
          have nameless : d.isNameless d.kind = true := by simpa [Declaration.isNameless] using named
          rw [if_pos nameless, List.map_cons, map_nativeName?_cons absent, induction _ apart,
            List.length_cons, List.range_succ_eq_map, List.map_cons, List.map_map,
            nativeName?_cons, if_pos rfl]
          refine congrArg₂ List.cons rfl (List.map_congr_left fun index _ => ?_)
          rw [countOf_cons, if_pos rfl]
          exact congrArg (some ∘ numberedName d.kind) (by
            rw [countOf]
            omega)
        · have other : ¬ d.isNameless kind = true := by simp [Declaration.isNameless, own]
          rw [if_neg other, map_nativeName?_cons absent, induction _ apart, countOf_cons,
            if_neg fun same => own (DeclarationKind.word_injective same)]
      · rename_i named
        have other : ¬ d.isNameless kind = true := by
          intro nameless
          simp only [Declaration.isNameless, Bool.and_eq_true] at nameless
          exact named (Bool.and_eq_true_iff.mpr nameless.1)
        rw [if_neg other, map_nativeName?_cons absent, induction _ apart]

theorem nameAll_named (counts : List (String × Nat)) (entries : List (String × Declaration)) :
    ∀ entry ∈ nameAll counts entries, entry.2.isCompound = true → entry.2.nativeName ≠ "" := by
  induction entries generalizing counts with
  | nil => simp [nameAll]
  | cons entry rest induction =>
      obtain ⟨key, d⟩ := entry
      rw [nameAll]
      split
      · exact List.forall_mem_cons.mpr ⟨fun _ => by simp, induction _⟩
      · rename_i named
        refine List.forall_mem_cons.mpr ⟨fun compound nameless => ?_, induction _⟩
        exact named (by simp [show d.isCompound = true from compound,
          show d.nativeName = "" from nameless])

variable {forest : Forest} {policy : Policy} {top : List Nat} {bindings : List String}

theorem titled_of_visits (forest : Forest) (policy : Policy) (top : List Nat) :
    let visited := ((visitAll top).run forest (begun forest policy top)).2
    Titled forest (typedefNames forest top) visited.typedefNamed visited.store :=
  titled_visitAll top (Titled.begun top)

theorem nodup_keys_of_run
    (succeeded : ((runAll top).run forest { policy }).1 = .ok bindings) :
    ((visitAll top).run forest (begun forest policy top)).2.store.keys.Nodup := by
  have started : (Sources.ofCommands forest policy []).Settled { policy } :=
    ⟨sound_start policy, .empty, List.mem_cons_self⟩
  have ended := (Step.Ensures.of_ok (Sources.runAll_lands started top) succeeded).1
  obtain ⟨-, naming, -⟩ := visited_of_run succeeded
  exact naming.keys_eq ▸ ended.closed.nodup

theorem named_of_run (succeeded : ((runAll top).run forest { policy }).1 = .ok bindings)
    {usr : String} {d : Declaration}
    (found : ((runAll top).run forest { policy }).2.store.lookup? usr = some d)
    (compound : d.isCompound = true) : d.nativeName ≠ "" := by
  rw [(store_of_run succeeded).2.1] at found
  exact nameAll_named [] _ (usr, d) (mem_entries_of_lookup? found) compound

theorem numbered_of_run (succeeded : ((runAll top).run forest { policy }).1 = .ok bindings)
    (kind : DeclarationKind) :
    let visited := ((visitAll top).run forest (begun forest policy top)).2.store
    (visited.nameless kind).map ((runAll top).run forest { policy }).2.store.nativeName? =
      (List.range (visited.nameless kind).length).map fun index =>
        some (numberedName kind (index + 1)) := by
  intro visited
  rw [(store_of_run succeeded).2.1]
  refine (nameAll_numbers kind [] (nodup_keys_of_run succeeded)).trans ?_
  simp [countOf, visited]

/-- What a typedef at the top stands for is called after the first such typedef, if its
cursors agree that it is anonymous. -/
theorem nativeName_of_first_typedef {before rest : List Nat} {number : Nat} {usr : String}
    {d : Declaration}
    (alike : ∀ c ∈ forest.cursors.toList, ∀ other ∈ forest.cursors.toList,
      c.usr = other.usr → c.anonymous = other.anonymous)
    (found : ((visitAll (before ++ number :: rest)).run forest
      (begun forest policy (before ++ number :: rest))).2.store.lookup? usr = some d)
    (tagged : d.kind.isTagged = true) (namesTag : NamesTag forest usr number)
    (first : ∀ other ∈ before, ¬ NamesTag forest usr other) :
    d.nativeName = (forest.cursor number).spelling := by
  have ⟨_, tag, stands, same⟩ := namesTag
  obtain ⟨source, calls⟩ := (titled_of_visits forest policy _).called usr d found tagged
  have nameless : (forest.cursor tag).anonymous = true := anonymous_of_anonymousTag? stands
  have listed : forest.cursor source ∈ forest.cursors.toList :=
    (forest.cursor_cases source).resolve_right fun missing => by
      simpa [missing, CursorKind.published?] using calls.published
  have listed' : forest.cursor tag ∈ forest.cursors.toList :=
    (forest.cursor_cases tag).resolve_right fun missing => by simp [missing] at nameless
  have anonymous : (forest.cursor source).anonymous = true :=
    (alike _ listed _ listed' (calls.own.trans same.symm)).trans nameless
  exact calls.first anonymous _ (find?_typedefNames namesTag first)

/-- After a run that succeeds every compound has a name. An anonymous one that typedefs at the
top stand for has the name of the first of them, from wherever it was reached; the compounds
that are nameless after the visits are numbered from one on, by kind and in the order in which
they were published. -/
theorem compounds_named (forest : Forest) (policy : Policy) (top : List Nat)
    (alike : ∀ c ∈ forest.cursors.toList, ∀ other ∈ forest.cursors.toList,
      c.usr = other.usr → c.anonymous = other.anonymous)
    (succeeded : ((runAll top).run forest { policy }).1 = .ok bindings) :
    let visited := ((visitAll top).run forest (begun forest policy top)).2.store
    let store := ((runAll top).run forest { policy }).2.store
    (∀ usr d, store.lookup? usr = some d → d.isCompound = true → d.nativeName ≠ "") ∧
    (∀ usr d, store.lookup? usr = some d → d.kind.isTagged = true →
      ∀ before number rest, top = before ++ number :: rest → NamesTag forest usr number →
        (∀ other ∈ before, ¬ NamesTag forest usr other) →
        (forest.cursor number).spelling ≠ "" →
        d.nativeName = (forest.cursor number).spelling) ∧
    ∀ kind, (visited.nameless kind).map store.nativeName? =
      (List.range (visited.nameless kind).length).map fun index =>
        some (numberedName kind (index + 1)) := by
  intro visited store
  have naming : visited.NamedAs store := (visited_of_run succeeded).2.1
  refine ⟨fun usr d => named_of_run succeeded, ?_, numbered_of_run succeeded⟩
  rintro usr d found tagged before number rest rfl namesTag first given
  obtain ⟨unnamed, located, names⟩ := naming.exists_lookup? found
  have kind : d.kind = unnamed.kind := congrArg Body.kind names.body
  have native := nativeName_of_first_typedef alike located (kind ▸ tagged) namesTag first
  rcases names with rfl | ⟨-, nameless, -⟩
  · exact native
  · exact absurd (native.symm.trans nameless) given

/-- `typedef struct { int x; } A, B; struct S { B *p; struct { int y; } q; };`, where `S` and `B`
come before `A` in what is visited. -/
def twiceNamed : Forest := ⟨#[
  { kind := .struct, spelling := "S", usr := "c:S", children := [1, 2], definition := some 0 },
  { kind := .field, spelling := "p", usr := "c:S@p", type := .pointerTo (.declared .typedef 4) },
  { kind := .field, spelling := "q", usr := "c:S@q", type := .declared .record 7 },
  { kind := .typedef, spelling := "A", usr := "c:A", underlying := .declared .record 5 },
  { kind := .typedef, spelling := "B", usr := "c:B", underlying := .declared .record 5 },
  { kind := .struct, usr := "c:@SA@A", children := [6], definition := some 5, anonymous := true },
  { kind := .field, spelling := "x", usr := "c:@SA@A@x", type := .ofKind .int },
  { kind := .struct, usr := "c:S@S@0", children := [8], definition := some 7, anonymous := true },
  { kind := .field, spelling := "y", usr := "c:S@S@0@y", type := .ofKind .int }]⟩

def twiceNamedRun : Except Error (List String) × Session :=
  (runAll [0, 3, 4, 5]).run twiceNamed { policy := {} }

/-- The first typedef names the structure, although it is reached through the second one. -/
theorem twiceNamed_named :
    (∀ c ∈ twiceNamed.cursors.toList, ∀ other ∈ twiceNamed.cursors.toList,
        c.usr = other.usr → c.anonymous = other.anonymous) ∧
      twiceNamedRun.1 = .ok ["c:S", "c:B", "c:@SA@A", "c:S@S@0", "c:A"] ∧
      (∃ d, twiceNamedRun.2.store.lookup? "c:@SA@A" = some d ∧ d.kind.isTagged = true ∧
        NamesTag twiceNamed "c:@SA@A" 3 ∧ (∀ other ∈ [0], ¬ NamesTag twiceNamed "c:@SA@A" other) ∧
        d.nativeName = "A") ∧
      ["c:S@S@0"].map twiceNamedRun.2.store.nativeName? = [some "UnnamedStruct1"] := by
  have alike : ∀ c ∈ twiceNamed.cursors.toList, ∀ other ∈ twiceNamed.cursors.toList,
      c.usr = other.usr → c.anonymous = other.anonymous := by decide
  have succeeded : twiceNamedRun.1 = .ok ["c:S", "c:B", "c:@SA@A", "c:S@S@0", "c:A"] := by
    decide +kernel
  have published : (twiceNamedRun.2.store.lookup? "c:@SA@A").map (·.kind.isTagged) =
      some true := by decide +kernel
  obtain ⟨d, found, tagged⟩ := Option.map_eq_some_iff.mp published
  have namesTag : NamesTag twiceNamed "c:@SA@A" 3 := ⟨rfl, 5, rfl, rfl⟩
  have first : ∀ other ∈ [0], ¬ NamesTag twiceNamed "c:@SA@A" other := by
    simp [NamesTag, twiceNamed, Forest.cursor]
  have nameless : ((visitAll [0, 3, 4, 5]).run twiceNamed
      (begun twiceNamed {} [0, 3, 4, 5])).2.store.nameless .struct = ["c:S@S@0"] := by
    decide +kernel
  unfold twiceNamedRun at *
  obtain ⟨-, named, numbered⟩ := compounds_named twiceNamed {} [0, 3, 4, 5] alike succeeded
  have native := named "c:@SA@A" d found tagged [0] 3 [4, 5] rfl namesTag first (by decide)
  have counted := numbered .struct
  rw [nameless] at counted
  exact ⟨alike, succeeded, ⟨d, found, tagged, namesTag, first, native⟩,
    counted.trans (by decide +kernel)⟩

end Session

end LuaBinder
