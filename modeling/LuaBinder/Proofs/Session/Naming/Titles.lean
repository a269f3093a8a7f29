import LuaBinder.Proofs.Session.Agreeing.Running
import LuaBinder.Proofs.Session.Layouts.Precedence
import LuaBinder.Proofs.Session.Values.Spelling

namespace LuaBinder

open Header Session

/-! Where the names of structs, unions and enumerations come from: a declaration has a tag, or
typedefs name it. What a session knows of typedefs only grows, so that the first one decides. -/

namespace Session

variable {forest : Forest} {names : List (String × String)} {number : Nat} {usr : String}

/-- A typedef at the top is noted, unless its compound has a name. -/
def noteTypedef (forest : Forest) (names : List (String × String)) (number : Nat) :
    List (String × String) :=
  let c := forest.cursor number
  if c.kind != .typedef then names
  else
    match anonymousTag? forest c.underlying with
    | none => names
    | some tag =>
        let usr := (forest.cursor tag).usr
        if names.any (·.1 == usr) then names else names ++ [(usr, c.spelling)]

theorem anonymous_of_anonymousTag? {type : NativeType}
    (tagged : anonymousTag? forest type = some number) :
    (forest.cursor number).anonymous = true := by
  fun_induction anonymousTag? forest type with
  | case1 => cases tagged
  | case2 _ _ _ _ _ _ _ _ induction => exact induction tagged
  | case3 | case4 => exact (Option.filter_eq_some_iff.mp tagged).2
  | case5 => cases tagged

theorem typedefNames_eq (top : List Nat) :
    typedefNames forest top = top.foldl (noteTypedef forest) [] := rfl

theorem noteTypedef_cases (forest : Forest) (names : List (String × String)) (number : Nat) :
    noteTypedef forest names number = names ∨
      ∃ tag, anonymousTag? forest (forest.cursor number).underlying = some tag ∧
        noteTypedef forest names number =
          names ++ [((forest.cursor tag).usr, (forest.cursor number).spelling)] := by
  unfold noteTypedef
  dsimp only
  split
  · exact .inl rfl
  split
  · exact .inl rfl
  · rename_i tag tagged
    split
    · exact .inl rfl
    · exact .inr ⟨tag, tagged, rfl⟩

theorem noteTypedef_of_namesTag (namesTag : NamesTag forest usr number)
    (unnamed : names.any (·.1 == usr) = false) :
    noteTypedef forest names number = names ++ [(usr, (forest.cursor number).spelling)] := by
  obtain ⟨kind, tag, tagged, rfl⟩ := namesTag
  simp [noteTypedef, kind, tagged, unnamed]

theorem prefix_foldl_noteTypedef (top : List Nat) (names : List (String × String)) :
    names <+: top.foldl (noteTypedef forest) names := by
  induction top generalizing names with
  | nil => exact List.prefix_rfl
  | cons number rest induction =>
      refine List.IsPrefix.trans ?_ (induction _)
      rcases noteTypedef_cases forest names number with same | ⟨tag, -, longer⟩
      · rw [same]
      · rw [longer]
        exact List.prefix_append _ _

theorem find?_of_prefix {known : List (String × String)} {entry : String × String}
    (grown : names <+: known) (found : names.find? (·.1 == usr) = some entry) :
    known.find? (·.1 == usr) = some entry := by
  obtain ⟨more, rfl⟩ := grown
  rw [List.find?_append, found, Option.some_or]

/-- The first typedef at the top that stands for a compound names it. -/
theorem find?_typedefNames {before rest : List Nat} (namesTag : NamesTag forest usr number)
    (first : ∀ other ∈ before, ¬ NamesTag forest usr other) :
    (typedefNames forest (before ++ number :: rest)).find? (·.1 == usr) =
      some (usr, (forest.cursor number).spelling) := by
  have unnamed : (typedefNames forest before).any (·.1 == usr) = false := by
    rw [Bool.eq_false_iff]
    intro named
    obtain ⟨other, listed, namesTag⟩ := any_typedefNames.mp named
    exact first other listed namesTag
  rw [typedefNames_eq, List.foldl_append, List.foldl_cons, ← typedefNames_eq,
    noteTypedef_of_namesTag namesTag unnamed]
  refine find?_of_prefix (prefix_foldl_noteTypedef rest _) ?_
  rw [List.find?_append, List.find?_eq_none.mpr]
  · simp
  · simpa using unnamed

/-! What is known of typedefs, and what is called after them. -/

/-- A typedef of the name stands for the anonymous compound of the USR. -/
def NamedByTypedef (forest : Forest) (usr name : String) : Prop :=
  ∃ number tag, anonymousTag? forest (forest.cursor number).underlying = some tag ∧
    (forest.cursor tag).usr = usr ∧ (forest.cursor number).spelling = name

theorem namedByTypedef_of_typedefNames (top : List Nat) {entry : String × String}
    (listed : entry ∈ typedefNames forest top) : NamedByTypedef forest entry.1 entry.2 := by
  suffices general : ∀ names : List (String × String),
      (∀ entry ∈ names, NamedByTypedef forest entry.1 entry.2) →
      ∀ entry ∈ top.foldl (noteTypedef forest) names, NamedByTypedef forest entry.1 entry.2 from
    general [] (by simp) entry listed
  clear listed
  induction top with
  | nil => exact fun _ known => known
  | cons number rest induction =>
      intro names known
      rw [List.foldl_cons]
      refine induction _ ?_
      rcases noteTypedef_cases forest names number with same | ⟨tag, tagged, longer⟩
      · rw [same]
        exact known
      · rw [longer, List.forall_mem_append]
        exact ⟨known, by simpa using ⟨number, tag, tagged, rfl, rfl⟩⟩

/-- A declaration of the USR is called by the name: by its tag, or if it is anonymous by a
typedef, of which those given come first, or not at all. -/
structure Calls (forest : Forest) (names : List (String × String)) (usr : String)
    (kind : DeclarationKind) (number : Nat) (name : String) : Prop where
  own : (forest.cursor number).usr = usr
  published : (forest.cursor number).kind.published? = some kind
  tag : (forest.cursor number).anonymous = false → name = (forest.cursor number).spelling
  typedef : (forest.cursor number).anonymous = true → name ≠ "" → NamedByTypedef forest usr name
  first : (forest.cursor number).anonymous = true → ∀ entry,
    names.find? (·.1 == usr) = some entry → name = entry.2

/-- What a session knows of typedefs begins with what it knew at its start, and all that C has
tags for is called after it. -/
structure Titled (forest : Forest) (names known : List (String × String)) (store : Store) :
    Prop where
  grown : names <+: known
  typedefs : ∀ entry ∈ known, NamedByTypedef forest entry.1 entry.2
  called : ∀ usr d, store.lookup? usr = some d → d.kind.isTagged = true →
    ∃ number, Calls forest names usr d.kind number d.nativeName

namespace Titled

variable {known : List (String × String)} {store : Store} {d : Declaration} {s : Session}

theorem begun (top : List Nat) :
    Titled forest (typedefNames forest top) (typedefNames forest top) {} where
  grown := List.prefix_rfl
  typedefs := fun _ => namedByTypedef_of_typedefNames top
  called := fun usr d found => by simp [Store.lookup?] at found

theorem calls (titled : Titled forest names s.typedefNamed store)
    (usr : (forest.cursor number).usr = d.usr)
    (kind : (forest.cursor number).kind.published? = some d.kind)
    (native : d.nativeName = s.nameFor (forest.cursor number)) :
    Calls forest names d.usr d.kind number d.nativeName where
  own := usr
  published := kind
  tag := fun tag => by simp [native, nameFor, tag]
  typedef := by
    intro anonymous given
    rw [native, nameFor, if_pos anonymous, usr] at given ⊢
    cases found : s.typedefNamed.find? (·.1 == d.usr) with
    | none => simp [found] at given
    | some entry =>
        have own : entry.1 = d.usr := by simpa using List.find?_some found
        rw [← own]
        exact titled.typedefs entry (List.mem_of_find?_eq_some found)
  first := by
    intro anonymous entry found
    rw [native, nameFor, if_pos anonymous, usr, find?_of_prefix titled.grown found]
    rfl

theorem push (titled : Titled forest names s.typedefNamed s.store) (fresh : d.usr ∉ s.store.keys)
    (titles : Titles forest s d) : Titled forest names s.typedefNamed (s.store.push d) where
  grown := titled.grown
  typedefs := titled.typedefs
  called := by
    intro usr other found tagged
    rw [Store.lookup?_push fresh] at found
    split at found
    · rename_i same
      obtain rfl := Option.some.inj found
      obtain ⟨number, own, kind, native⟩ := titles tagged
      exact ⟨number, same ▸ titled.calls own kind native⟩
    · exact titled.called usr other found tagged

theorem amendBody {change : Body → Body} (titled : Titled forest names known store) (key : String)
    (keeps : ∀ body, (change body).kind.isTagged = true → (change body).kind = body.kind) :
    Titled forest names known (store.amendBody key change) where
  grown := titled.grown
  typedefs := titled.typedefs
  called := by
    intro usr d found tagged
    rw [Store.amendBody, Store.lookup?_mapBodies] at found
    obtain ⟨before, located, rfl⟩ := Option.map_eq_some_iff.mp found
    have kind : (if usr = key then change before.body else before.body).kind = before.kind := by
      dsimp only [Declaration.kind] at tagged ⊢
      split at tagged
      · rw [if_pos ‹_›, keeps before.body tagged]
      · rw [if_neg ‹_›]
    dsimp only [Declaration.kind] at tagged kind ⊢
    rw [kind] at tagged ⊢
    exact titled.called usr before located tagged

theorem note (titled : Titled forest names known store) {tag : Nat}
    (tagged : anonymousTag? forest (forest.cursor number).underlying = some tag) :
    Titled forest names
      (known ++ [((forest.cursor tag).usr, (forest.cursor number).spelling)]) store where
  grown := titled.grown.trans (List.prefix_append _ _)
  typedefs := by
    rw [List.forall_mem_append]
    exact ⟨titled.typedefs, by simpa using ⟨number, tag, tagged, rfl, rfl⟩⟩
  called := titled.called

end Titled

/-! Every step keeps to it. -/

/-- Whatever is titled stays so. -/
def Entitles (forest : Forest) (names : List (String × String)) (s after : Session) : Prop :=
  Titled forest names s.typedefNamed s.store →
    Titled forest names after.typedefNamed after.store

namespace Entitles

variable {s middle after : Session}

theorem of_same (known : after.typedefNamed = s.typedefNamed) (store : after.store = s.store) :
    Entitles forest names s after := by
  intro titled
  rwa [known, store]

theorem refl (s : Session) : Entitles forest names s s := id

theorem trans (first : Entitles forest names s middle) (second : Entitles forest names middle after) :
    Entitles forest names s after := second ∘ first

/-- Nothing becomes something that C has tags for. -/
theorem amendBody {change : Body → Body} (usr : String)
    (keeps : ∀ body, (change body).kind.isTagged = true → (change body).kind = body.kind) :
    Entitles forest names s { s with store := s.store.amendBody usr change } :=
  fun titled => titled.amendBody usr keeps

end Entitles

def titling (forest : Forest) (names : List (String × String)) : Manner where
  good := Entitles forest names
  bad := fun _ => Entitles forest names
  refl := .refl
  trans := .trans
  fails := .trans
  selects := fun _ => .refl

def entitling (forest : Forest) (names : List (String × String)) : Conduct forest where
  toManner := titling forest names
  throws := fun _ => .refl
  logs := fun _ _ _ => .of_same rfl rfl
  marks := fun _ _ _ _ => .of_same rfl rfl
  names := fun _ _ _ tagged _ titled => titled.note tagged
  leaves := fun begun _ => begun
  misses := fun begun => begun
  unwinds := fun _ failed => failed
  refuses := fun _ _ _ _ _ _ => .of_same rfl rfl
  publishes := fun _ _ fresh _ _ titles titled => titled.push fresh titles
  elaborates := fun _ usr _ elaborates => .amendBody usr fun body _ => (elaborates body).kind_eq
  typedefs := fun _ _ _ => .amendBody _ fun _ tagged => by
    simp [Body.kind, DeclarationKind.isTagged] at tagged
  opens := fun _ _ _ _ _ fresh _ titles titled => titled.push fresh titles
  lays := fun members _ opens _ begun =>
    (opens.trans begun).trans (.amendBody _ fun body _ => by simp)
  clears := by
    intro s opened middle usr _ fuel problem _ opens _ begun
    have keeps : (makeOpaque fuel usr problem).Keeps forest (titling forest names) :=
      keeps_makeOpaque (titling forest names) .refl (fun _ usr => .amendBody usr (by simp))
        (fun _ _ _ => .of_same rfl rfl) (fun _ _ => .of_same rfl rfl) _ _ _
    exact (keeps middle).onward (opens.trans begun)

theorem liberal_entitling (c : Cursor) (usrs : List String) :
    (entitling forest names).Liberal c usrs where
  aside := fun store _ _ _ known => .of_same known store
  tells := fun _ _ _ _ => .of_same rfl rfl
  binds := by
    refine fun s d fresh function _ _ titled => titled.push fresh (titles_of_untagged ?_)
    rw [Declaration.kind, isFunction_iff.mp function]
    rfl

theorem titled_visitAll (top : List Nat) {s : Session}
    (titled : Titled forest names s.typedefNamed s.store) :
    Titled forest names ((visitAll top).run forest s).2.typedefNamed
      ((visitAll top).run forest s).2.store := by
  have keeps : (visitAll top).Keeps forest (entitling forest names) :=
    keeps_visitAll top fun _ _ => keeps_visit fun _ => liberal_entitling _ _
  exact Step.Ensures.after (Entitles forest names s) (keeps s) titled

end Session

end LuaBinder
