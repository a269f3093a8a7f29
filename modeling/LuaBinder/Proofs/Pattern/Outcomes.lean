import LuaBinder.Pattern.Match
import Mathlib.Tactic.SplitIfs

namespace LuaBinder.Pattern

/-! A run that may end anywhere beside one of the same program that must end with the subject:
if the first fails, or happens to end with the subject, both have the same outcome. -/

/-! Places within the subject. -/

theorem CharTest.lt_of_holdsAt {test : CharTest} {subject : Array Char} {place : Nat}
    (holds : test.holdsAt subject place = true) : place < subject.size := by
  obtain ⟨c, found, -⟩ := (Option.any_eq_true _ _).mp holds
  exact (Array.getElem?_eq_some_iff.mp found).1

theorem CharTest.count_le {test : CharTest} {subject : Array Char} {place : Nat}
    (inside : place ≤ subject.size) (most : Nat) :
    place + test.count subject place most ≤ subject.size := by
  induction most generalizing place with
  | zero => exact inside
  | succ most induction =>
      simp only [CharTest.count]
      split_ifs with holds
      · have further := @induction (place + 1) (CharTest.lt_of_holdsAt holds)
        omega
      · exact inside

theorem repeatedAt_le {subject : Array Char} {folding : Folding} {text : List Char}
    {place after : Nat} (inside : place ≤ subject.size)
    (repeated : repeatedAt subject folding place text = some after) : after ≤ subject.size := by
  induction text generalizing place with
  | nil =>
      cases repeated
      exact inside
  | cons c rest induction =>
      rw [repeatedAt] at repeated
      split at repeated
      · rename_i d found
        split_ifs at repeated
        exact induction (Array.getElem?_eq_some_iff.mp found).1 repeated
      · cases repeated

@[simp] theorem State.backTo_place (former : Array (Option Nat)) (inLoop : Bool) (state : State) :
    (state.backTo former inLoop).place = state.place := rfl

@[simp] theorem State.setMark_place (index place : Nat) (state : State) :
    (state.setMark index place).place = state.place := rfl

@[simp] theorem State.moveTo_place (place : Nat) (state : State) :
    (state.moveTo place).place = place := rfl

theorem CharTest.afterCount_le {test : CharTest} {bound place count : Nat}
    (inside : place + count ≤ bound) (state : State) :
    (test.afterCount place count state).place ≤ bound := by
  unfold CharTest.afterCount
  split_ifs <;> simp only [State.moveTo_place] <;> omega

/-! Outcomes side by side. -/

/-- The second of two outcomes is that of an attempt that must end with the subject. -/
structure Confirmed (subject : Array Char) (loose strict : Outcome) : Prop where
  loose_le : loose.2.place ≤ subject.size
  strict_le : strict.2.place ≤ subject.size
  strict_eq : (loose.1 = true → loose.2.place = subject.size) → strict = loose
  ends : strict.1 = true → strict.2.place = subject.size

def Confirms (subject : Array Char) (loose strict : Attempt) : Prop :=
  ∀ state, state.place ≤ subject.size → Confirmed subject (loose state) (strict state)

section

variable {subject : Array Char} {mend : State → State}
  (mended : ∀ state, state.place ≤ subject.size → (mend state).place ≤ subject.size)

theorem confirms_fail : Confirms subject fail fail :=
  fun _ inside => ⟨inside, inside, fun _ => rfl, fun found => absurd found (by simp [fail])⟩

include mended in
theorem Confirmed.orElse {loose strict : Outcome} {other otherStrict : Attempt}
    (own : Confirmed subject loose strict) (others : Confirms subject other otherStrict) :
    Confirmed subject (Pattern.orElse loose mend other)
      (Pattern.orElse strict mend otherStrict) := by
  have behind := others _ (mended _ own.loose_le)
  have apart := others _ (mended _ own.strict_le)
  unfold Pattern.orElse
  constructor
  case loose_le =>
    split_ifs
    · exact own.loose_le
    · exact behind.loose_le
  case strict_le =>
    split_ifs
    · exact own.strict_le
    · exact apart.strict_le
  case strict_eq =>
    intro complete
    by_cases found : loose.1 = true
    · rw [if_pos found] at complete ⊢
      rw [own.strict_eq complete, if_pos found]
    · rw [if_neg found] at complete ⊢
      rw [own.strict_eq fun given => absurd given found, if_neg found]
      exact behind.strict_eq complete
  case ends =>
    split_ifs with found
    · exact own.ends
    · exact apart.ends

include mended in
theorem confirms_firstBranch {place : Nat} {attempt strict : Code → Attempt}
    (inside : place ≤ subject.size)
    (own : ∀ branch, Confirms subject (attempt branch) (strict branch)) (branches : List Code) :
    Confirms subject (firstBranch subject place attempt mend branches)
      (firstBranch subject place strict mend branches) := by
  induction branches with
  | nil => exact confirms_fail
  | cons branch others induction =>
      intro state begun
      simp only [firstBranch]
      split_ifs
      · exact (own branch _ inside).orElse mended induction
      · exact induction state begun

include mended in
theorem confirms_longestFirst {lead : Option Nat} {base : Nat} {attempt strict : Nat → Attempt}
    (own : ∀ place ≤ subject.size, Confirms subject (attempt place) (strict place)) {extra : Nat}
    (inside : base + extra ≤ subject.size) :
    Confirms subject (longestFirst subject lead base attempt mend extra)
      (longestFirst subject lead base strict mend extra) := by
  induction extra with
  | zero =>
      intro state begun
      simp only [longestFirst]
      split_ifs
      · exact (own _ inside _ inside).orElse mended confirms_fail
      · exact confirms_fail state begun
  | succ fewer induction =>
      intro state begun
      simp only [longestFirst]
      split_ifs
      · exact (own _ inside _ inside).orElse mended (induction (by omega))
      · exact induction (by omega) state begun

theorem confirms_shortestFirst {test : CharTest} {attempt strict : Nat → Attempt}
    (own : ∀ place ≤ subject.size, Confirms subject (attempt place) (strict place))
    {extra place : Nat} (inside : place ≤ subject.size) :
    Confirms subject (shortestFirst subject test attempt mend extra place)
      (shortestFirst subject test strict mend extra place) := by
  induction extra generalizing place with
  | zero =>
      intro state begun
      rw [shortestFirst, shortestFirst]
      refine (own _ inside _ inside).orElse (fun _ _ => inside) fun state begun => ?_
      split_ifs with holds
      · exact confirms_fail _ (CharTest.afterCount_le (CharTest.lt_of_holdsAt holds) state)
      · exact confirms_fail state begun
  | succ extra induction =>
      intro state begun
      rw [shortestFirst, shortestFirst]
      refine (own _ inside _ inside).orElse (fun _ _ => inside) fun state begun => ?_
      split_ifs with holds
      · exact induction (CharTest.lt_of_holdsAt holds) _
          (CharTest.afterCount_le (CharTest.lt_of_holdsAt holds) state)
      · exact confirms_fail state begun

end

/-! Possessive repetitions end where they will. -/

/-- What begins within the subject leaves a place within it. -/
def Stays (subject : Array Char) (attempt : Attempt) : Prop :=
  ∀ state, state.place ≤ subject.size → (attempt state).2.place ≤ subject.size

theorem requiredRounds_le {subject : Array Char} {attempt : Attempt} (own : Stays subject attempt)
    (count : Nat) : Stays subject (requiredRounds attempt count) := by
  induction count with
  | zero => exact fun _ begun => begun
  | succ count induction =>
      intro state begun
      simp only [requiredRounds]
      split_ifs
      · exact induction _ (own state begun)
      · exact own state begun

theorem optionalRounds_le {subject : Array Char} {attempt : Attempt} (own : Stays subject attempt)
    {fuel : Nat} {most last : Option Nat} {state : State} (begun : state.place ≤ subject.size) :
    (optionalRounds attempt fuel most last state).place ≤ subject.size := by
  induction fuel generalizing most last state with
  | zero => exact begun
  | succ fuel induction =>
      simp only [optionalRounds]
      split_ifs
      · exact begun
      · exact induction (own state begun)
      · exact own state begun

/-! Runs side by side. -/

/-- Each run of this length that may end anywhere, and the same one if it must end with the
subject. -/
def RunsConfirmed (subject : Array Char) (fuel : Nat) : Prop :=
  ∀ {code : Code} {loops : List Loop} {place : Nat}, place ≤ subject.size →
    Confirms subject (run subject fuel false code loops place)
      (run subject fuel true code loops place)

theorem confirms_end {subject : Array Char} {fuel : Nat} {loops : List Loop} {place : Nat}
    (inside : place ≤ subject.size) :
    Confirms subject (run subject (fuel + 1) false [] loops place)
      (run subject (fuel + 1) true [] loops place) := by
  intro state begun
  by_cases ended : place = subject.size
  · have either (whole : Bool) :
        run subject (fuel + 1) whole [] loops place state = (true, state.moveTo place) := by
      simp [run, ended]
    rw [either, either]
    exact ⟨inside, inside, fun _ => rfl, fun _ => ended⟩
  · have strict : run subject (fuel + 1) true [] loops place state = fail state := by
      simp [run, ended]
    have loose : run subject (fuel + 1) false [] loops place state =
        (true, state.moveTo place) := by simp [run]
    rw [strict, loose]
    exact ⟨inside, begun, fun complete => absurd (complete rfl) ended,
      (confirms_fail state begun).ends⟩

example : run #['a'] 1 true [] [] 1 ⟨0, #[]⟩ = (true, ⟨1, #[]⟩) := by cbv

namespace RunsConfirmed

variable {subject : Array Char} {fuel : Nat} (fewer : RunsConfirmed subject fuel)
  {rest : Code} {loops : List Loop} {place : Nat} (inside : place ≤ subject.size)

include fewer

theorem stays {place : Nat} (inside : place ≤ subject.size) (code : Code) (loops : List Loop) :
    Stays subject (run subject fuel false code loops place) :=
  fun state begun => (fewer inside state begun).loose_le

include inside

theorem repeatOne (greed : Greed) (least : Nat) (most : Option Nat) (test : CharTest) :
    Confirms subject (run subject (fuel + 1) false (.repeatOne greed least most test :: rest)
      loops place)
      (run subject (fuel + 1) true (.repeatOne greed least most test :: rest) loops place) := by
  intro state begun
  simp only [run]
  generalize (if (greed == .lazy) = true then least
    else min (subject.size - place) (most.getD (subject.size - place))) = goal
  have counted := @CharTest.count_le test _ _ inside goal
  generalize test.count subject place goal = count at counted ⊢
  have after := @CharTest.afterCount_le test _ _ _ counted state
  split_ifs with short less
  · exact confirms_fail state begun
  · exact confirms_fail _ after
  · cases greed with
    | greedy =>
        have reached : place + least + (count - least) ≤ subject.size := by omega
        refine confirms_longestFirst ?_ ?_ reached _ after
        · exact fun _ begun => begun
        · exact fun place inside => fewer inside
    | lazy =>
        have reached : place + least ≤ subject.size := by omega
        exact confirms_shortestFirst (fun place inside => fewer inside) reached _ after
    | possessive => exact fewer counted _ counted

theorem again : Confirms subject (run subject (fuel + 1) false (.again :: rest) loops place)
    (run subject (fuel + 1) true (.again :: rest) loops place) := by
  intro state begun
  cases loops with
  | nil =>
      simp only [run]
      exact confirms_fail state begun
  | cons loop outer =>
      simp only [run]
      have rewound {loose strict : Outcome} (own : Confirmed subject loose strict) :
          Confirmed subject (orElse loose (State.moveTo place) fail)
            (orElse strict (State.moveTo place) fail) :=
        own.orElse (fun _ _ => inside) confirms_fail
      split_ifs
      · exact rewound (fewer inside _ inside)
      · refine (fewer inside _ inside).orElse (fun _ _ => inside) ?_
        exact fun state begun => rewound (fewer inside state begun)
      · exact rewound (fewer inside _ inside)
      · refine (fewer inside _ inside).orElse (fun _ _ => inside) ?_
        exact fun state begun => rewound (fewer inside state begun)
      · exact (fewer inside _ inside).orElse (fun _ _ => inside) confirms_fail

theorem possessive (least : Nat) (most : Option Nat) (body : Code) :
    Confirms subject (run subject (fuel + 1) false (.possessive least most body :: rest)
      loops place)
      (run subject (fuel + 1) true (.possessive least most body :: rest) loops place) := by
  intro state begun
  simp only [run]
  have own : Stays subject fun s => run subject fuel false body loops s.place s :=
    fun state begun => fewer.stays begun body loops state begun
  have required := requiredRounds_le own least (state.moveTo place) inside
  split_ifs
  · have reached := @optionalRounds_le _ _ own fuel (most.map (· - least)) none _ required
    exact fewer reached _ reached
  · exact confirms_fail _ inside

theorem atomic (body : Code) :
    Confirms subject (run subject (fuel + 1) false (.atomic body :: rest) loops place)
      (run subject (fuel + 1) true (.atomic body :: rest) loops place) := by
  intro state begun
  simp only [run]
  have inner := fewer.stays inside body loops (state.moveTo place) inside
  split_ifs
  · exact fewer inner _ inner
  · exact confirms_fail _ inside

theorem look (back : Nat) (positive : Bool) (body : Code) :
    Confirms subject (run subject (fuel + 1) false (.look back positive body :: rest) loops place)
      (run subject (fuel + 1) true (.look back positive body :: rest) loops place) := by
  intro state begun
  simp only [run]
  have nearer : place - back ≤ subject.size := by omega
  have inner := fewer.stays nearer body loops (state.moveTo (place - back)) nearer
  split_ifs
  · exact confirms_fail state begun
  · exact fewer inside _ begun
  · exact confirms_fail _ inner
  · exact fewer inside _ inner
  · exact fewer inside _ inner

end RunsConfirmed

theorem confirms_run {subject : Array Char} {fuel : Nat} : RunsConfirmed subject fuel := by
  induction fuel with
  | zero => exact fun _ => confirms_fail
  | succ fuel fewer =>
      intro code loops place inside state begun
      have failed := confirms_fail state begun
      cases code with
      | nil => exact confirms_end inside state begun
      | cons step rest =>
          cases step with
          | one test =>
              simp only [run]
              split_ifs with holds
              · exact fewer (CharTest.lt_of_holdsAt holds) state begun
              · exact failed
          | anchor multiline ascii anchor =>
              simp only [run]
              split_ifs
              · exact fewer inside state begun
              · exact failed
          | mark index =>
              simp only [run]
              exact fewer inside _ begun
          | backref group folding =>
              simp only [run]
              split
              · exact failed
              · split
                · rename_i repeated
                  exact fewer (repeatedAt_le inside repeated) state begun
                · exact failed
          | given group yes no =>
              simp only [run]
              exact fewer inside state begun
          | join =>
              simp only [run]
              exact fewer inside state begun
          | choice branches =>
              simp only [run]
              refine confirms_firstBranch ?_ inside ?_ branches state begun
              · exact fun _ begun => begun
              · exact fun branch state begun => fewer begun state begun
          | repeatOne greed least most test =>
              exact fewer.repeatOne inside greed least most test state begun
          | loop greedy least most body =>
              simp only [run]
              exact fewer inside _ inside
          | again => exact fewer.again inside state begun
          | possessive least most body => exact fewer.possessive inside least most body state begun
          | atomic body => exact fewer.atomic inside body state begun
          | look back positive body => exact fewer.look inside back positive body state begun

/-! Matches: the first one within a text beside the one of the whole text. -/

theorem Program.confirmed (program : Program) {subject : Array Char} {start : Nat}
    (inside : start ≤ subject.size) :
    (∀ state, program.runFrom true subject start = some state → state.place = subject.size) ∧
      (∀ state, program.runFrom false subject start = some state → state.place ≤ subject.size ∧
        (state.place = subject.size → program.runFrom true subject start = some state)) ∧
      (program.runFrom false subject start = none → program.runFrom true subject start = none) := by
  simp only [Program.runFrom]
  generalize (subject.size + 2) * codeBound (subject.size + 2) program.code = fuel
  have begun : (State.mk start #[]).place ≤ subject.size := inside
  have confirmed := @confirms_run _ fuel program.code [] _ inside _ begun
  refine ⟨?_, ?_, ?_⟩
  · intro state ended
    split_ifs at ended with found
    cases ended
    exact confirmed.ends found
  · intro state ended
    split_ifs at ended with found
    cases ended
    refine ⟨confirmed.loose_le, fun complete => ?_⟩
    rw [confirmed.strict_eq fun _ => complete, if_pos found]
  · intro missed
    split_ifs at missed with found
    rw [confirmed.strict_eq fun given => absurd given found, if_neg found]

theorem textOf_eq_nil {subject : Array Char} {span : Span} :
    textOf subject span = [] ↔ min span.last subject.size ≤ span.first := by
  rw [textOf, ← List.length_eq_zero_iff, Array.length_toList, Array.size_extract]
  omega

theorem Beginning.starts_le {subject : Array Char} {least start : Nat} {beginning : Beginning}
    (member : start ∈ beginning.starts subject least) :
    least ≤ subject.size ∧ start ≤ subject.size := by
  unfold Beginning.starts at member
  split_ifs at member with short
  · cases member
  · refine ⟨by omega, ?_⟩
    split at member
    · rw [List.mem_range] at member
      omega
    · rw [List.mem_filter, List.mem_range] at member
      exact Nat.le_of_lt member.1

namespace Compiled

variable {pattern : Compiled} {text : String}

/-- The match of the whole text leaves nothing of it. -/
theorem ends_of_fullMatch? {full : Match} (given : pattern.fullMatch? text = some full) :
    full.before = [] ∧ full.after = [] := by
  simp only [fullMatch?] at given
  split_ifs at given
  obtain ⟨state, ended, rfl⟩ := Option.map_eq_some_iff.mp given
  have place := (pattern.program.confirmed (Nat.zero_le _)).1 state ended
  refine ⟨textOf_eq_nil.mpr (Nat.min_le_left _ _), textOf_eq_nil.mpr ?_⟩
  simp [matchOf, place]

/-- The first match within the text is the match of the whole text if it leaves nothing. -/
theorem fullMatch?_of_search? {found : Match} (given : pattern.search? text = some found)
    (front : found.before = []) (back : found.after = []) :
    pattern.fullMatch? text = some found := by
  simp only [search?] at given
  obtain ⟨start, member, read⟩ := List.exists_of_findSome?_eq_some given
  obtain ⟨state, ended, rfl⟩ := Option.map_eq_some_iff.mp read
  obtain ⟨long, inside⟩ := Beginning.starts_le member
  obtain rfl : start = 0 := by
    have short := textOf_eq_nil.mp front
    simp only [matchOf] at short
    omega
  obtain ⟨place_le, whole⟩ := (pattern.program.confirmed inside).2.1 state ended
  have reached : state.place = text.toList.toArray.size := by
    have short := textOf_eq_nil.mp back
    simp only [matchOf] at short
    omega
  simp only [fullMatch?]
  rw [if_neg (by omega), whole reached]
  rfl

/-- Where nothing is known of how a match begins, a text that is matched as a whole has a match
at its start. -/
theorem search?_of_fullMatch? {full : Match} (given : pattern.fullMatch? text = some full)
    (unknown : pattern.program.beginning = .anywhere) :
    ∃ found, pattern.search? text = some found ∧ found.before = [] := by
  simp only [fullMatch?] at given
  split_ifs at given with short
  obtain ⟨state, ended, -⟩ := Option.map_eq_some_iff.mp given
  have begun : pattern.program.runFrom false text.toList.toArray 0 ≠ none := by
    intro missed
    rw [(pattern.program.confirmed (Nat.zero_le _)).2.2 missed] at ended
    cases ended
  obtain ⟨first, reached⟩ := Option.ne_none_iff_exists'.mp begun
  refine ⟨pattern.matchOf text.toList.toArray 0 first, ?_, textOf_eq_nil.mpr (Nat.min_le_left _ _)⟩
  simp only [search?, Beginning.starts, unknown]
  rw [if_neg short, List.range_succ_eq_map, List.findSome?_cons, reached]
  rfl

end Compiled

end LuaBinder.Pattern
