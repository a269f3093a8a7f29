import LuaBinder.Text.Blank
import LuaBinder.Text.Lines
import Mathlib.Data.List.Basic
import Mathlib.Tactic.SplitIfs

namespace LuaBinder.Text

/-! Blanks at the end of a text, and the lines that a text is made of. -/

variable {text : List Char} {c : Char}

/-- No white space stands at the end. -/
def endsPlain (text : List Char) : Bool := !text.getLast?.any isBlank

theorem trimEnd_of_endsPlain (plain : endsPlain text = true) : trimEnd text = text := by
  rw [endsPlain, ← List.head?_reverse] at plain
  rw [trimEnd, dropLast]
  cases written : text.reverse with
  | nil => simpa using written.symm
  | cons last rest =>
      have other : isBlank last = false := by simpa [written] using plain
      rw [List.dropWhile_cons_of_neg (by simp [other]), ← written, List.reverse_reverse]

theorem trimEnd_append_blank (blank : isBlank c = true) : trimEnd (text ++ [c]) = trimEnd text := by
  simp [trimEnd, dropLast, blank]

theorem endsPlain_append (front : List Char) (given : text ≠ []) :
    endsPlain (front ++ text) = endsPlain text := by
  rw [endsPlain, endsPlain, List.getLast?_append_of_ne_nil _ given]

/-- What ends a line: a separator, or a carriage return and a line feed. -/
inductive LineBreak : List Char → Prop
  | separator {c : Char} (ends : isLineEnd c = true) : LineBreak [c]
  | carriageReturn : LineBreak ['\r', '\n']

/-- A text within one line. -/
def IsLine (text : List Char) : Prop := ∀ c ∈ text, isLineEnd c = false

instance (text : List Char) : Decidable (IsLine text) :=
  decidable_of_iff (text.all fun c => !isLineEnd c) (by simp [IsLine])

theorem linesFrom_append {front : List Char} (whole : IsLine front) (line rest : List Char) :
    linesFrom line (front ++ rest) = linesFrom (line ++ front) rest := by
  induction front generalizing line with
  | nil => simp
  | cons c front induction =>
      obtain ⟨inner, whole⟩ := List.forall_mem_cons.mp whole
      have same : linesFrom line (c :: (front ++ rest)) =
          linesFrom (line ++ [c]) (front ++ rest) := by
        rw [linesFrom.eq_3 _ _ _ (by rintro _ rfl; exact absurd inner (by decide)), inner]
        rfl
      rw [List.cons_append, same, induction whole, List.append_assoc, List.singleton_append]

theorem linesFrom_lineBreak {lineBreak : List Char} (breaks : LineBreak lineBreak)
    (inner : isLineEnd c = false) (line rest : List Char) :
    linesFrom line (lineBreak ++ c :: rest) = line :: linesFrom [] (c :: rest) := by
  cases breaks with
  | carriageReturn => rw [List.cons_append, List.singleton_append, linesFrom]
  | separator ends =>
      rw [List.singleton_append, linesFrom.eq_3 _ _ _ ?_, ends, if_pos rfl]
      rintro _ - equal
      obtain ⟨rfl, -⟩ := List.cons.inj equal
      exact absurd inner (by decide)

theorem exists_intercalate (between part : List Char) (parts : List (List Char)) :
    ∃ rest, between.intercalate (part :: parts) = part ++ rest := by
  cases parts with
  | nil => exact ⟨[], by rw [List.intercalate_singleton, List.append_nil]⟩
  | cons next parts =>
      exact ⟨between ++ between.intercalate (next :: parts), by
        rw [List.intercalate_cons_cons, List.append_assoc]⟩

/-- Lines with breaks between them are read as these lines, if none is empty. -/
theorem lines_intercalate {lineBreak : List Char} (breaks : LineBreak lineBreak)
    {parts : List (List Char)} (whole : ∀ part ∈ parts, IsLine part)
    (given : ∀ part ∈ parts, part ≠ []) : lines (lineBreak.intercalate parts) = parts := by
  induction parts with
  | nil => rfl
  | cons part parts induction =>
      obtain ⟨partWhole, whole⟩ := List.forall_mem_cons.mp whole
      obtain ⟨partGiven, given⟩ := List.forall_mem_cons.mp given
      cases parts with
      | nil =>
          have single := linesFrom_append partWhole [] []
          rw [List.append_nil, List.nil_append, linesFrom] at single
          rw [List.intercalate_singleton, lines, single, if_neg (by simp [partGiven])]
      | cons next parts =>
          obtain ⟨c, more, rfl⟩ := List.exists_cons_of_ne_nil (given _ List.mem_cons_self)
          obtain ⟨rest, following⟩ := exists_intercalate lineBreak (c :: more) parts
          have inner : isLineEnd c = false := whole _ List.mem_cons_self c List.mem_cons_self
          have behind := induction whole given
          rw [following, List.cons_append] at behind
          rw [List.intercalate_cons_cons, List.append_assoc, following, List.cons_append, lines,
            linesFrom_append partWhole, List.nil_append, linesFrom_lineBreak breaks inner]
          exact congrArg (List.cons part) behind

theorem isLine_of_mem_linesFrom {line part : List Char} (whole : IsLine line)
    (member : part ∈ linesFrom line text) : IsLine part := by
  fun_induction linesFrom line text with
  | case1 => cases member
  | case2 line given =>
      rw [List.mem_singleton.mp member]
      exact whole
  | case3 line rest induction =>
      rcases List.mem_cons.mp member with rfl | member
      · exact whole
      · exact induction (List.forall_mem_nil _) member
  | case4 line c rest _ ends induction =>
      rcases List.mem_cons.mp member with rfl | member
      · exact whole
      · exact induction (List.forall_mem_nil _) member
  | case5 line c rest _ inner induction =>
      exact induction (List.forall_mem_append.mpr ⟨whole, by simpa using inner⟩) member

theorem isLine_of_mem_lines {part : List Char} (member : part ∈ lines text) : IsLine part :=
  isLine_of_mem_linesFrom (List.forall_mem_nil _) member

theorem front_trimEnd (text : List Char) : trimEnd text <+: text := by
  rw [trimEnd, dropLast, ← List.reverse_suffix, List.reverse_reverse]
  exact List.dropWhile_suffix _

end LuaBinder.Text
