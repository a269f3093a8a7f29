import LuaBinder.Proofs.Session.Naming.Numbering
import LuaBinder.Proofs.Text.Lines

namespace LuaBinder

open Header Session

/-! C has one name space for the tags of structs, unions and enumerations. The names come from
tags, from typedefs and from numbering, and only names of the same source are kept apart. -/

namespace Text

variable {text : List Char} {c : Char}

theorem trim_of_plain (starts : text.head? = some c) (other : isBlank c = false)
    (ends : endsPlain text = true) : trim text = text := by
  obtain ⟨rest, rfl⟩ := List.head?_eq_some_iff.mp starts
  rw [trim, trimStart, List.dropWhile_cons_of_neg (by simp [other]), trimEnd_of_endsPlain ends]

theorem endsPlain_toString (number : Nat) : endsPlain (toString number).toList = true := by
  rw [Nat.toString_eq_ofList_toDigits, String.toList_ofList, endsPlain, Bool.not_eq_true',
    ← Bool.not_eq_true, Option.any_eq_true]
  rintro ⟨last, ends, blank⟩
  have digit := Nat.isDigit_of_mem_toDigits (by decide) (by decide) (List.mem_of_getLast? ends)
  rw [Char.isDigit, Bool.and_eq_true, decide_eq_true_eq, decide_eq_true_eq] at digit
  have bounds : 48 ≤ last.toNat ∧ last.toNat ≤ 57 := digit
  have other : last ≠ ' ' := by
    rintro rfl
    exact absurd bounds.1 (by decide)
  simp only [isBlank, other, Bool.or_eq_true, Bool.and_eq_true, decide_eq_true_eq, beq_iff_eq,
    false_or] at blank
  omega

end Text

/-- What stands before the tags of the kind. -/
def DeclarationKind.keyword : DeclarationKind → String
  | struct => "struct"
  | union => "union"
  | enumeration => "enum"
  | _ => ""

theorem Body.keyword_eq (body : Body) : body.keyword = body.kind.keyword := by
  cases body with
  | record kind _ _ => cases kind <;> rfl
  | _ => rfl

namespace Declaration

open Text

variable {d e : Declaration}

/-- What C has tags for is spelled by its keyword and its name. -/
theorem spelling_of_tagged (tagged : d.kind.isTagged = true) (named : d.nativeName ≠ "")
    (plain : endsPlain d.nativeName.toList = true) :
    d.spelling = d.body.keyword ++ " " ++ d.nativeName := by
  have spelled (keyword : String) {c : Char} (starts : keyword.toList.head? = some c)
      (other : isBlank c = false) :
      String.ofList (trim (keyword ++ " " ++ d.nativeName).toList) =
        keyword ++ " " ++ d.nativeName := by
    rw [trim_of_plain (c := c) (by simp [starts]) other, String.ofList_toList]
    rw [String.toList_append, endsPlain_append _ (by simpa using named), plain]
  rw [kind] at tagged
  rw [spelling]
  cases body : d.body with
  | record kind incomplete members =>
      cases kind with
      | struct => exact spelled "struct" (c := 's') (by decide) (by decide)
      | union => exact spelled "union" (c := 'u') (by decide) (by decide)
  | enumeration incomplete constants => exact spelled "enum" (c := 'e') (by decide) (by decide)
  | _ =>
      rw [body] at tagged
      cases tagged

theorem isCompound_of_isTagged (tagged : d.kind.isTagged = true) : d.isCompound = true := by
  unfold kind at tagged
  unfold isCompound
  cases body : d.body with
  | record | enumeration => rfl
  | _ =>
      rw [body] at tagged
      cases tagged

/-- Keywords are told apart by what they begin with. -/
theorem spelling_eq_iff (tagged : d.kind.isTagged = true) (tagged' : e.kind.isTagged = true)
    (named : d.nativeName ≠ "") (named' : e.nativeName ≠ "")
    (plain : endsPlain d.nativeName.toList = true)
    (plain' : endsPlain e.nativeName.toList = true) :
    d.spelling = e.spelling ↔ d.kind = e.kind ∧ d.nativeName = e.nativeName := by
  rw [spelling_of_tagged tagged named plain, spelling_of_tagged tagged' named' plain',
    Body.keyword_eq, Body.keyword_eq]
  change d.kind.keyword ++ " " ++ d.nativeName = e.kind.keyword ++ " " ++ e.nativeName ↔ _
  constructor
  · intro same
    have kinds : d.kind = e.kind := by
      have heads := congrArg (·.toList.head?) same
      simp only [String.toList_append, List.append_assoc, List.head?_append] at heads
      revert heads tagged tagged'
      cases d.kind <;> cases e.kind <;> simp [DeclarationKind.isTagged, DeclarationKind.keyword]
    rw [kinds] at same
    exact ⟨kinds, (String.append_right_inj _).mp same⟩
  · rintro ⟨kinds, names⟩
    rw [kinds, names]

end Declaration

/-- The kind of compound that the declaration has a tag for. -/
def Header.Cursor.tagKind? (c : Cursor) : Option DeclarationKind :=
  if c.anonymous then none else c.kind.published?.filter (·.isTagged)

theorem Header.Cursor.tagKind?_eq_some {c : Cursor} {kind : DeclarationKind}
    (named : c.anonymous = false) (published : c.kind.published? = some kind)
    (tagged : kind.isTagged = true) : c.tagKind? = some kind := by
  simp [tagKind?, named, published, tagged]

/-- The tags of one kind differ, and so do the typedefs of anonymous compounds. No spelling
ends in white space. -/
structure Header.Forest.TagsApart (forest : Forest) : Prop where
  tags : ∀ c ∈ forest.cursors.toList, ∀ other ∈ forest.cursors.toList, c.tagKind? ≠ none →
    c.tagKind? = other.tagKind? → c.spelling = other.spelling → c.usr = other.usr
  typedefs : ∀ c ∈ forest.cursors.toList, ∀ other ∈ forest.cursors.toList,
    ∀ tag ∈ anonymousTag? forest c.underlying, ∀ second ∈ anonymousTag? forest other.underlying,
      c.spelling = other.spelling → (forest.cursor tag).usr = (forest.cursor second).usr
  plain : ∀ c ∈ forest.cursors.toList, Text.endsPlain c.spelling.toList = true

instance (forest : Forest) : Decidable forest.TagsApart :=
  decidable_of_iff
    ((∀ c ∈ forest.cursors.toList, ∀ other ∈ forest.cursors.toList, c.tagKind? ≠ none →
      c.tagKind? = other.tagKind? → c.spelling = other.spelling → c.usr = other.usr) ∧
    (∀ c ∈ forest.cursors.toList, ∀ other ∈ forest.cursors.toList,
      ∀ tag ∈ anonymousTag? forest c.underlying, ∀ second ∈ anonymousTag? forest other.underlying,
        c.spelling = other.spelling → (forest.cursor tag).usr = (forest.cursor second).usr) ∧
    ∀ c ∈ forest.cursors.toList, Text.endsPlain c.spelling.toList = true)
    ⟨fun ⟨tags, typedefs, plain⟩ => ⟨tags, typedefs, plain⟩,
      fun ⟨tags, typedefs, plain⟩ => ⟨tags, typedefs, plain⟩⟩

namespace Session

variable {forest : Forest} {policy : Policy} {top : List Nat} {bindings : List String}
  {visited : Store} {kind : DeclarationKind} {usr other name : String}

theorem NamedByTypedef.exists_cursor (named : NamedByTypedef forest usr name) :
    ∃ c ∈ forest.cursors.toList, ∃ tag, anonymousTag? forest c.underlying = some tag ∧
      (forest.cursor tag).usr = usr ∧ c.spelling = name := by
  obtain ⟨number, tag, stands, same, spelled⟩ := named
  refine ⟨forest.cursor number, ?_, tag, stands, same, spelled⟩
  refine (forest.cursor_cases number).resolve_right fun missing => ?_
  rw [missing] at stands
  cases stands

/-- Where the names of compounds come from. -/
inductive NameSource where
  | tag
  | typedef
  | number
  deriving DecidableEq

namespace NameSource

/-- The name of a compound of the kind and the USR, if its name is from this source. -/
def Gives (forest : Forest) (visited : Store) (kind : DeclarationKind) (usr name : String) :
    NameSource → Prop
  | tag => ∃ c ∈ forest.cursors.toList, c.tagKind? = some kind ∧ c.usr = usr ∧ c.spelling = name
  | typedef => NamedByTypedef forest usr name
  | number => ∃ index, (visited.nameless kind)[index]? = some usr ∧
      name = numberedName kind (index + 1)

variable {source : NameSource}

/-- Within one source a name is given once. -/
theorem Gives.usr_unique (apart : forest.TagsApart)
    (gives : source.Gives forest visited kind usr name)
    (again : source.Gives forest visited kind other name) : usr = other := by
  cases source with
  | tag =>
      obtain ⟨c, listed, own, rfl, spelled⟩ := gives
      obtain ⟨c', listed', own', rfl, spelled'⟩ := again
      exact apart.tags c listed c' listed' (by simp [own]) (own.trans own'.symm)
        (spelled.trans spelled'.symm)
  | typedef =>
      obtain ⟨c, listed, tag, stands, rfl, spelled⟩ := gives.exists_cursor
      obtain ⟨c', listed', tag', stands', rfl, spelled'⟩ := again.exists_cursor
      exact apart.typedefs c listed c' listed' tag stands tag' stands'
        (spelled.trans spelled'.symm)
  | number =>
      obtain ⟨index, found, rfl⟩ := gives
      obtain ⟨index', found', same⟩ := again
      obtain rfl : index = index' := by simpa using numberedName_injective same
      exact Option.some.inj (found.symm.trans found')

theorem Gives.plain (apart : forest.TagsApart)
    (gives : source.Gives forest visited kind usr name) : Text.endsPlain name.toList = true := by
  cases source with
  | tag =>
      obtain ⟨c, listed, -, -, rfl⟩ := gives
      exact apart.plain c listed
  | typedef =>
      obtain ⟨c, listed, -, -, -, rfl⟩ := gives.exists_cursor
      exact apart.plain c listed
  | number =>
      obtain ⟨index, -, rfl⟩ := gives
      rw [numberedName, String.toList_append, Text.endsPlain_append _ (by simp)]
      exact Text.endsPlain_toString _

end NameSource

/-- Every struct, union and enumeration has its name from one of the sources. -/
theorem exists_source (succeeded : ((runAll top).run forest { policy }).1 = .ok bindings)
    {d : Declaration} (found : ((runAll top).run forest { policy }).2.store.lookup? usr = some d)
    (tagged : d.kind.isTagged = true) :
    ∃ source : NameSource, source.Gives forest
      ((visitAll top).run forest (begun forest policy top)).2.store d.kind usr d.nativeName := by
  obtain ⟨before, located, names⟩ := (visited_of_run succeeded).2.1.exists_lookup? found
  have kinds : before.kind = d.kind := congrArg Body.kind names.body.symm
  rcases names with rfl | ⟨compound, nameless, -⟩
  · obtain ⟨source, calls⟩ := (titled_of_visits forest policy top).called usr d located tagged
    cases named : (forest.cursor source).anonymous with
    | false =>
        refine ⟨.tag, forest.cursor source, ?_,
          Cursor.tagKind?_eq_some named calls.published tagged, calls.own, (calls.tag named).symm⟩
        refine (forest.cursor_cases source).resolve_right fun missing => ?_
        simpa [missing, CursorKind.published?] using calls.published
    | true =>
        have given := named_of_run succeeded found (Declaration.isCompound_of_isTagged tagged)
        exact ⟨.typedef, calls.typedef named given⟩
  · have unnamed : before.isNameless d.kind = true := by
      simp [Declaration.isNameless, compound, nameless, kinds]
    obtain ⟨index, own⟩ := List.getElem?_of_mem (Store.mem_nameless located unnamed)
    have bound := (List.getElem?_eq_some_iff.mp own).1
    have numbered := congrArg (·[index]?) (numbered_of_run succeeded d.kind)
    simp only [List.getElem?_map, own, List.getElem?_range bound, Option.map_some,
      Store.nativeName?, found, Option.some.injEq] at numbered
    exact ⟨.number, index, own, numbered⟩

/-- Two structs, unions or enumerations are spelled alike exactly if they are of one kind
and have one name. Then they have it from different sources. -/
theorem shared_spelling_iff (forest : Forest) (policy : Policy) (top : List Nat)
    (apart : forest.TagsApart)
    (succeeded : ((runAll top).run forest { policy }).1 = .ok bindings) :
    let visited := ((visitAll top).run forest (begun forest policy top)).2.store
    let store := ((runAll top).run forest { policy }).2.store
    ∀ usr d other e, store.lookup? usr = some d → store.lookup? other = some e →
      d.kind.isTagged = true → e.kind.isTagged = true → usr ≠ other →
      (d.spelling = e.spelling ↔ d.kind = e.kind ∧ d.nativeName = e.nativeName ∧
        ∃ source second : NameSource, source ≠ second ∧
          source.Gives forest visited d.kind usr d.nativeName ∧
          second.Gives forest visited e.kind other e.nativeName) := by
  intro visited store usr d other e found found' tagged tagged' differ
  obtain ⟨source, gives⟩ := exists_source succeeded found tagged
  obtain ⟨second, gives'⟩ := exists_source succeeded found' tagged'
  have named := named_of_run succeeded found (Declaration.isCompound_of_isTagged tagged)
  have named' := named_of_run succeeded found' (Declaration.isCompound_of_isTagged tagged')
  rw [Declaration.spelling_eq_iff tagged tagged' named named' (gives.plain apart)
    (gives'.plain apart)]
  refine ⟨fun same => ?_, fun same => ⟨same.1, same.2.1⟩⟩
  obtain ⟨kinds, names⟩ := same
  refine ⟨kinds, names, source, second, ?_, gives, gives'⟩
  rintro rfl
  exact differ (gives.usr_unique apart (kinds ▸ names ▸ gives'))

/-- `struct Foo { int x; }; typedef struct { int y; } Foo;` -/
def takenTag : Forest := ⟨#[
  { kind := .struct, spelling := "Foo", usr := "c:@S@Foo", children := [1], definition := some 0 },
  { kind := .field, spelling := "x", usr := "c:@S@Foo@x", type := .ofKind .int },
  { kind := .struct, usr := "c:@SA@Foo", children := [3], definition := some 2, anonymous := true },
  { kind := .field, spelling := "y", usr := "c:@SA@Foo@y", type := .ofKind .int },
  { kind := .typedef, spelling := "Foo", usr := "c:@T@Foo", underlying := .declared .record 2 }]⟩

def takenTagRun : Except Error (List String) × Session :=
  (runAll [0, 2, 4]).run takenTag { policy := {} }

/-- One name is a tag, the other one is from a typedef. -/
theorem takenTag_shared :
    takenTag.TagsApart ∧ takenTagRun.1 = .ok ["c:@S@Foo", "c:@T@Foo", "c:@SA@Foo"] ∧
      ∃ d e, takenTagRun.2.store.lookup? "c:@S@Foo" = some d ∧
        takenTagRun.2.store.lookup? "c:@SA@Foo" = some e ∧
        d.kind.isTagged = true ∧ e.kind.isTagged = true ∧ d.spelling = e.spelling ∧
        ∃ source second : NameSource, source ≠ second ∧
          source.Gives takenTag ((visitAll [0, 2, 4]).run takenTag
            (begun takenTag {} [0, 2, 4])).2.store d.kind "c:@S@Foo" d.nativeName ∧
          second.Gives takenTag ((visitAll [0, 2, 4]).run takenTag
            (begun takenTag {} [0, 2, 4])).2.store e.kind "c:@SA@Foo" e.nativeName := by
  have apart : takenTag.TagsApart := by decide
  have succeeded : takenTagRun.1 = .ok ["c:@S@Foo", "c:@T@Foo", "c:@SA@Foo"] := by
    decide +kernel
  have first : (takenTagRun.2.store.lookup? "c:@S@Foo").map
      (fun d => (d.kind.isTagged, d.spelling)) = some (true, "struct Foo") := by decide +kernel
  have second : (takenTagRun.2.store.lookup? "c:@SA@Foo").map
      (fun d => (d.kind.isTagged, d.spelling)) = some (true, "struct Foo") := by decide +kernel
  obtain ⟨d, found, own⟩ := Option.map_eq_some_iff.mp first
  obtain ⟨e, found', own'⟩ := Option.map_eq_some_iff.mp second
  obtain ⟨tagged, spelled⟩ := Prod.mk.inj own
  obtain ⟨tagged', spelled'⟩ := Prod.mk.inj own'
  have same : d.spelling = e.spelling := spelled.trans spelled'.symm
  unfold takenTagRun at *
  obtain ⟨-, -, sources⟩ := (shared_spelling_iff takenTag {} [0, 2, 4] apart succeeded
    _ d _ e found found' tagged tagged' (by decide)).mp same
  exact ⟨apart, succeeded, d, e, found, found', tagged, tagged', same, sources⟩

/-- The tags of a kind and the typedefs differ in their spellings as they do in their USRs, and
still two structs are spelled alike. -/
theorem takenTag_defined_twice :
    (∀ c ∈ takenTag.cursors.toList, ∀ other ∈ takenTag.cursors.toList, c.tagKind? ≠ none →
      c.tagKind? = other.tagKind? → c.usr ≠ other.usr → c.spelling ≠ other.spelling) ∧
    (∀ c ∈ takenTag.cursors.toList, ∀ other ∈ takenTag.cursors.toList, c.kind = .typedef →
      other.kind = .typedef → c.usr ≠ other.usr → c.spelling ≠ other.spelling) ∧
    takenTagRun.1 = .ok ["c:@S@Foo", "c:@T@Foo", "c:@SA@Foo"] ∧
    ((bindingsOf takenTagRun.2.store ["c:@S@Foo", "c:@T@Foo", "c:@SA@Foo"]).filter
      (·.2.kind.isTagged)).map (fun binding => (binding.1, binding.2.spelling)) =
        [("c:@S@Foo", "struct Foo"), ("c:@SA@Foo", "struct Foo")] := by
  decide +kernel

end Session

end LuaBinder
