import LuaBinder.Policy.Selection
import LuaBinder.Proofs.Pattern.Outcomes
import LuaBinder.Proofs.Policy.Mapping
import LuaBinder.Proofs.Policy.Signatures

namespace LuaBinder

open Pattern SelectionError

/-! What a rule makes of a name that it matches as a whole: the match of the whole name decides
that the rule is used, and the first match within the name is what is replaced. -/

/-- The first of the rules whose pattern matches the whole name. -/
def RenameRule.IsFirst (rule : RenameRule) (name : String) (rules : List RenameRule) : Prop :=
  ∃ before after, rules = before ++ rule :: after ∧
    (∀ other ∈ before, matched other.pattern name = .ok false) ∧
      matched rule.pattern name = .ok true

/-- The first such rule for a member, of all owners that match in their order. -/
def RenameRule.IsFirstFor (rule : RenameRule) (owner member : String)
    (entries : List MemberRules) : Prop :=
  ∃ before entry after, entries = before ++ entry :: after ∧
    (∀ other ∈ before, matched other.owner owner = .ok false ∨
      matched other.owner owner = .ok true ∧
        ∀ rule ∈ other.rules, matched rule.pattern member = .ok false) ∧
      matched entry.owner owner = .ok true ∧ rule.IsFirst member entry.rules

/-- The new name that a selection has by the rule, for a declaration or for a member. -/
inductive RenameRule.Renames (rule : RenameRule) (name : String) :
    Except SelectionError String → Prop
  | declaration {selection : Selection} (first : rule.IsFirst name selection.renames) :
      rule.Renames name (selection.rename name)
  | member {selection : Selection} {owner : String}
      (first : rule.IsFirstFor owner name selection.memberRenames) :
      rule.Renames name (selection.renameMember owner name)

namespace RenameRule

variable {rule : RenameRule} {name : String}

theorem firstFor?_append {before : List RenameRule}
    (missed : ∀ other ∈ before, matched other.pattern name = .ok false) (rest : List RenameRule) :
    firstFor? name (before ++ rest) = firstFor? name rest := by
  induction before with
  | nil => rfl
  | cons other others induction =>
      obtain ⟨own, further⟩ := List.forall_mem_cons.mp missed
      rw [← induction further, List.cons_append, firstFor?, List.findM?, own]
      rfl

theorem firstFor?_eq_none {rules : List RenameRule}
    (missed : ∀ other ∈ rules, matched other.pattern name = .ok false) :
    firstFor? name rules = .ok none := by
  rw [← List.append_nil rules, firstFor?_append missed]
  rfl

theorem IsFirst.firstFor? {rules : List RenameRule} (first : rule.IsFirst name rules) :
    RenameRule.firstFor? name rules = .ok (some rule) := by
  obtain ⟨before, after, rfl, missed, own⟩ := first
  rw [firstFor?_append missed, RenameRule.firstFor?, List.findM?, own]
  rfl

theorem IsFirstFor.memberRule? {owner : String} {entries : List MemberRules}
    (first : rule.IsFirstFor owner name entries) :
    Selection.memberRule? owner name entries = .ok (some rule) := by
  obtain ⟨before, entry, after, rfl, missed, own, inner⟩ := first
  induction before with
  | nil =>
      rw [List.nil_append, Selection.memberRule?, own, inner.firstFor?]
      rfl
  | cons other others induction =>
      obtain ⟨passed, further⟩ := List.forall_mem_cons.mp missed
      rw [← induction further, List.cons_append, Selection.memberRule?]
      rcases passed with unmatched | ⟨same, none⟩
      · rw [unmatched]
        rfl
      · rw [same, firstFor?_eq_none none]
        rfl

/-- The new name is what the rule makes of the old one. -/
theorem Renames.eq_apply {result : Except SelectionError String}
    (renames : rule.Renames name result) :
    matched rule.pattern name = .ok true ∧ result = rule.apply name := by
  cases renames with
  | declaration first =>
      rw [Selection.rename, first.firstFor?]
      obtain ⟨-, -, -, -, own⟩ := first
      exact ⟨own, rfl⟩
  | member first =>
      rw [Selection.renameMember, first.memberRule?]
      obtain ⟨-, -, -, -, -, -, -, -, -, -, own⟩ := first
      exact ⟨own, rfl⟩

theorem exists_full {pattern : Compiled} (own : matched pattern name = .ok true) :
    ∃ full, pattern.fullMatch? name = some full ∧ full.check = .ok full := by
  simp only [matched, Compiled.matchesAll] at own
  split at own
  · cases own
  · rename_i full found
    refine ⟨full, found, ?_⟩
    unfold Match.check at own ⊢
    split_ifs at own ⊢
    · cases own
    · rfl

/-- The text of the match replaced, and what it leaves. -/
def replaced (found : Match) (template : List Piece) : String :=
  String.ofList (found.before ++ Template.expand found template ++ found.after)

theorem apply_eq {source : String} {template : List Piece}
    (text : rule.replacement = .string source)
    (read : Template.parse rule.pattern source = .ok template) :
    rule.apply name = (rule.pattern.replaceFirst template name).mapError .match := by
  rw [apply, text]
  simp only [read]

theorem apply_of_search? {source : String} {template : List Piece}
    (text : rule.replacement = .string source)
    (read : Template.parse rule.pattern source = .ok template) {found : Match}
    (given : rule.pattern.search? name = some found) :
    (found.check = .ok found → rule.apply name = .ok (replaced found template)) ∧
      ∀ renamed, rule.apply name = .ok renamed → renamed = replaced found template := by
  rw [apply_eq text read]
  simp only [Compiled.replaceFirst, given]
  split_ifs
  · cases found.check with
    | ok => exact ⟨fun _ => rfl, fun _ same => (Except.ok.inj same).symm⟩
    | error => exact ⟨nofun, nofun⟩
  · exact ⟨fun _ => rfl, fun _ same => (Except.ok.inj same).symm⟩

/-- A name that a rule matches has a match as a whole. The replacement of that match is the new
name if it is also the first match within the name, and it is exactly if the first match leaves
nothing of the name. What the first match leaves stays in the new name. A name without a match
within it stays as it is; this is so only where something is known of how matches begin. -/
theorem renames_whole_iff {result : Except SelectionError String}
    (renames : rule.Renames name result) {source : String} {template : List Piece}
    (text : rule.replacement = .string source)
    (read : Template.parse rule.pattern source = .ok template) :
    ∃ full, rule.pattern.fullMatch? name = some full ∧
      (rule.pattern.search? name = none →
        result = .ok name ∧ rule.pattern.program.beginning ≠ .anywhere) ∧
      ∀ found, rule.pattern.search? name = some found →
        (found = full ↔ found.before = [] ∧ found.after = []) ∧
        (found = full → result = .ok (String.ofList (Template.expand full template))) ∧
        (found.check = .ok found → result = .ok (replaced found template)) ∧
        ∀ renamed, result = .ok renamed → renamed = replaced found template := by
  obtain ⟨own, rfl⟩ := renames.eq_apply
  obtain ⟨full, whole, told⟩ := exists_full own
  obtain ⟨front, back⟩ := Compiled.ends_of_fullMatch? whole
  refine ⟨full, whole, fun missed => ⟨?_, fun unknown => ?_⟩, fun found given => ?_⟩
  · rw [apply_eq text read, Compiled.replaceFirst, missed]
    rfl
  · obtain ⟨found, given, -⟩ := Compiled.search?_of_fullMatch? whole unknown
    rw [missed] at given
    cases given
  · obtain ⟨replaces, only⟩ := apply_of_search? text read given
    refine ⟨⟨?_, ?_⟩, ?_, replaces, only⟩
    · rintro rfl
      exact ⟨front, back⟩
    · rintro ⟨nothing, behind⟩
      rw [Compiled.fullMatch?_of_search? given nothing behind] at whole
      exact Option.some.inj whole
    · rintro rfl
      rw [replaces told, replaced, front, back, List.nil_append, List.append_nil]

/-- Of the alternatives the shorter one comes first. -/
def shorterFirst : RenameRule where
  pattern := ((Pattern.parse "a|ab").toOption).getD ⟨"", ⟨[], 0, .anywhere⟩, 0, []⟩
  replacement := .string "x"

def shorterFirstSelection : Selection where
  renames := [shorterFirst]
  memberRenames := [⟨shorterFirst.pattern, [shorterFirst]⟩]

/-- The rule is used for the whole name, and replaces the first letter. -/
theorem shorterFirst_leaves_rest :
    shorterFirst.IsFirst "ab" shorterFirstSelection.renames ∧
      shorterFirst.IsFirstFor "a" "ab" shorterFirstSelection.memberRenames ∧
      shorterFirstSelection.rename "ab" = .ok "xb" ∧
      shorterFirstSelection.renameMember "a" "ab" = .ok "xb" ∧
      ∃ full, shorterFirst.pattern.fullMatch? "ab" = some full ∧
        Template.expand full [.text ['x']] = ['x'] ∧
        ∀ found, shorterFirst.pattern.search? "ab" = some found → found ≠ full := by
  have own : matched shorterFirst.pattern "ab" = .ok true := by rfl
  have owner : matched shorterFirst.pattern "a" = .ok true := by rfl
  have first : shorterFirst.IsFirst "ab" shorterFirstSelection.renames :=
    ⟨[], [], rfl, nofun, own⟩
  have ofOwner : shorterFirst.IsFirstFor "a" "ab" shorterFirstSelection.memberRenames :=
    ⟨[], ⟨shorterFirst.pattern, [shorterFirst]⟩, [], rfl, nofun, owner, first⟩
  have read : Template.parse shorterFirst.pattern "x" = .ok [.text ['x']] := by rfl
  have left : (shorterFirst.pattern.search? "ab").map
      (fun found => (found.before, found.after, found.captures)) = some ([], ['b'], []) := by
    decide +kernel
  obtain ⟨found, given, parts⟩ := Option.map_eq_some_iff.mp left
  simp only [Prod.mk.injEq] at parts
  obtain ⟨begins, rest, captures⟩ := parts
  have told : found.check = .ok found := by
    rw [Match.check, captures]
    rfl
  obtain ⟨full, whole, -, shown⟩ := renames_whole_iff (.declaration first) rfl read
  obtain ⟨same, -, new, -⟩ := shown found given
  obtain ⟨_, -, -, member⟩ := renames_whole_iff (.member ofOwner) rfl read
  have renamed : replaced found [.text ['x']] = "xb" := by
    rw [replaced, begins, rest]
    rfl
  rw [renamed] at new
  refine ⟨first, ofOwner, new told, ?_, full, whole, rfl, ?_⟩
  · rw [← renamed]
    exact (member found given).2.2.1 told
  · rintro other again rfl
    obtain rfl := Option.some.inj (given.symm.trans again)
    have none := (same.mp rfl).2
    rw [rest] at none
    cases none

end RenameRule

/-! Replacements that are no texts. A selection fails for want of a text exactly if the rule that it
comes to has none. -/

/-- A replacement of the policy that is no text. -/
def Policy.Misfit (policy : Policy) (replacement : Json) : Prop :=
  (∃ kind, replacement ∈ (policy.selection kind).replacements) ∧ ¬ replacement.IsText

theorem Policy.IsTyped.no_misfit {policy : Policy} (typed : policy.IsTyped) (replacement : Json) :
    ¬ policy.Misfit replacement :=
  fun ⟨⟨kind, listed⟩, other⟩ => other (typed.replacements kind replacement listed)

/-! What only asks for matches. -/

/-- A match cannot be told. -/
def SelectionError.IsMatch : SelectionError → Prop
  | .match _ => True
  | _ => False

theorem ne_notText {result : Except SelectionError α} (matching : FailsOnly IsMatch result)
    (replacement : Json) : result ≠ .error (.notText replacement) :=
  fun failed => matching _ failed

theorem matching_matched (pattern : Compiled) (name : String) :
    FailsOnly IsMatch (matched pattern name) :=
  .mapError fun _ _ => trivial

theorem matching_firstFor? (name : String) (rules : List RenameRule) :
    FailsOnly IsMatch (RenameRule.firstFor? name rules) :=
  .findM? rules fun rule => matching_matched rule.pattern name

namespace Selection

theorem matching_covers (patterns : List Compiled) (usr name : String) :
    FailsOnly IsMatch (covers patterns usr name) :=
  .anyM patterns fun _ => .ite (.ok true) (matching_matched _ _)

theorem matching_includes (selection : Selection) (usr name : String) :
    FailsOnly IsMatch (selection.includes usr name) := by
  refine (matching_covers _ _ _).bind fun excluded => .ite (.ok false) ?_
  split
  · exact .ok true
  · exact matching_covers _ _ _

theorem matching_exposesAddress (selection : Selection) (name : String) :
    FailsOnly IsMatch (selection.exposesAddress name) :=
  .anyM _ fun pattern => matching_matched pattern name

theorem matching_memberRule? (owner member : String) (entries : List MemberRules) :
    FailsOnly IsMatch (memberRule? owner member entries) := by
  induction entries with
  | nil => exact .ok _
  | cons entry rest induction =>
      refine (matching_matched entry.owner owner).bind fun found => .ite ?_ induction
      refine (matching_firstFor? member entry.rules).bind fun rule => ?_
      cases rule with
      | none => exact induction
      | some rule => exact .ok (some rule)

end Selection

/-! The rule that is come to. -/

namespace RenameRule

variable {rule : RenameRule} {name : String}

theorem firstFor?_eq_some_iff {rules : List RenameRule} :
    firstFor? name rules = .ok (some rule) ↔ rule.IsFirst name rules := by
  refine ⟨fun found => ?_, IsFirst.firstFor?⟩
  induction rules with
  | nil => cases found
  | cons other rest induction =>
      obtain ⟨told, own, found⟩ := bind_eq_ok.mp found
      cases told with
      | true =>
          cases found
          exact ⟨[], rest, rfl, nofun, own⟩
      | false =>
          obtain ⟨before, after, rfl, missed, first⟩ := induction found
          exact ⟨other :: before, after, rfl, List.forall_mem_cons.mpr ⟨own, missed⟩, first⟩

theorem missed_of_firstFor? {rules : List RenameRule} (none : firstFor? name rules = .ok none) :
    ∀ rule ∈ rules, matched rule.pattern name = .ok false := by
  induction rules with
  | nil => exact nofun
  | cons other rest induction =>
      obtain ⟨told, own, found⟩ := bind_eq_ok.mp none
      cases told with
      | true => cases found
      | false => exact List.forall_mem_cons.mpr ⟨own, induction found⟩

theorem memberRule?_eq_some_iff {owner : String} {entries : List MemberRules} :
    Selection.memberRule? owner name entries = .ok (some rule) ↔
      rule.IsFirstFor owner name entries := by
  refine ⟨fun found => ?_, IsFirstFor.memberRule?⟩
  induction entries with
  | nil => cases found
  | cons other rest induction =>
      obtain ⟨told, own, found⟩ := bind_eq_ok.mp found
      have later (missed : matched other.owner owner = .ok false ∨
          matched other.owner owner = .ok true ∧
            ∀ rule ∈ other.rules, matched rule.pattern name = .ok false)
          (found : Selection.memberRule? owner name rest = .ok (some rule)) :
          rule.IsFirstFor owner name (other :: rest) := by
        obtain ⟨before, entry, after, rfl, passed, first⟩ := induction found
        exact ⟨other :: before, entry, after, rfl, List.forall_mem_cons.mpr ⟨missed, passed⟩, first⟩
      cases told with
      | false => exact later (.inl own) found
      | true =>
          obtain ⟨inner, given, found⟩ := bind_eq_ok.mp found
          cases inner with
          | some first =>
              cases found
              exact ⟨[], other, rest, rfl, nofun, own, firstFor?_eq_some_iff.mp given⟩
          | none => exact later (.inr ⟨own, missed_of_firstFor? given⟩) found

theorem apply_eq_notText_iff {replacement : Json} :
    rule.apply name = .error (.notText replacement) ↔
      rule.replacement = replacement ∧ ¬ replacement.IsText := by
  unfold apply
  cases rule.replacement with
  | string source =>
      refine iff_of_false ?_ ?_
      · dsimp only
        split
        · intro failed
          cases replaced : rule.pattern.replaceFirst _ name <;> rw [replaced] at failed <;>
            cases failed
        · exact nofun
      · rintro ⟨rfl, other⟩
        exact other ⟨source, rfl⟩
  | _ =>
      refine ⟨?_, ?_⟩
      · rintro ⟨⟩
        exact ⟨rfl, nofun⟩
      · rintro ⟨rfl, -⟩
        rfl

end RenameRule

namespace Selection

variable {selection : Selection} {name : String} {replacement : Json}

/-- To look for a rule never fails for want of a text; to apply it does. -/
theorem applied_eq_notText_iff {found : Except SelectionError (Option RenameRule)}
    (matching : FailsOnly IsMatch found) :
    (do match ← found with
        | some rule => rule.apply name
        | .none => return name) = .error (.notText replacement) ↔
      ∃ rule : RenameRule, found = .ok (some rule) ∧ rule.replacement = replacement ∧
        ¬ replacement.IsText := by
  cases found with
  | error error =>
      refine iff_of_false ?_ nofun
      rintro ⟨⟩
      exact ne_notText matching replacement rfl
  | ok rule? =>
      cases rule? with
      | none => exact iff_of_false nofun nofun
      | some rule =>
          refine RenameRule.apply_eq_notText_iff.trans ⟨fun misfit => ⟨rule, rfl, misfit⟩, ?_⟩
          rintro ⟨_, ⟨⟩, misfit⟩
          exact misfit

/-- A declaration is not renamed for want of a text exactly if the first rule that matches it has
none. -/
theorem rename_eq_notText_iff :
    selection.rename name = .error (.notText replacement) ↔
      ∃ rule : RenameRule, rule.IsFirst name selection.renames ∧
        rule.replacement = replacement ∧ ¬ replacement.IsText := by
  simp only [← RenameRule.firstFor?_eq_some_iff]
  exact applied_eq_notText_iff (matching_firstFor? name selection.renames)

theorem renameMember_eq_notText_iff {owner : String} :
    selection.renameMember owner name = .error (.notText replacement) ↔
      ∃ rule : RenameRule, rule.IsFirstFor owner name selection.memberRenames ∧
        rule.replacement = replacement ∧ ¬ replacement.IsText := by
  simp only [← RenameRule.memberRule?_eq_some_iff]
  exact applied_eq_notText_iff (matching_memberRule? owner name selection.memberRenames)

theorem mem_replacements_of_rename (failed : selection.rename name = .error (.notText replacement)) :
    replacement ∈ selection.replacements ∧ ¬ replacement.IsText := by
  obtain ⟨rule, ⟨before, after, rules, -⟩, rfl, other⟩ := rename_eq_notText_iff.mp failed
  refine ⟨List.mem_map.mpr ⟨rule, ?_, rfl⟩, other⟩
  simp [rules]

theorem mem_replacements_of_renameMember {owner : String}
    (failed : selection.renameMember owner name = .error (.notText replacement)) :
    replacement ∈ selection.replacements ∧ ¬ replacement.IsText := by
  obtain ⟨rule, first, rfl, other⟩ := renameMember_eq_notText_iff.mp failed
  obtain ⟨before, entry, after, entries, -, -, inner, behind, rules, -⟩ := first
  refine ⟨List.mem_map.mpr ⟨rule, ?_, rfl⟩, other⟩
  simp [entries, rules]

end Selection

end LuaBinder
