import LuaBinder.Header.Comment
import LuaBinder.Proofs.Text.Lines

namespace LuaBinder.Header.Comment

open Text

/-! What a documentation comment says is read back from it, both from a block with an asterisk at
each line and from lines of slashes. -/

/-- A line without blanks at its end that does not close a comment. -/
structure Content (line : List Char) : Prop where
  whole : IsLine line
  trimmed : endsPlain line = true
  unclosed : ¬ ['*', '/'] <:+ line

instance (line : List Char) : Decidable (Content line) :=
  decidable_of_iff (IsLine line ∧ endsPlain line = true ∧ ¬ ['*', '/'] <:+ line)
    ⟨fun ⟨whole, trimmed, unclosed⟩ => ⟨whole, trimmed, unclosed⟩,
      fun content => ⟨content.whole, content.trimmed, content.unclosed⟩⟩

def blockLines (content : List String) : List String :=
  "/**" :: (content.map (" * " ++ ·) ++ [" */"])

def slashLines (content : List String) : List String := content.map ("/// " ++ ·)

theorem dropClosing_of_unclosed {line : List Char} (unclosed : ¬ ['*', '/'] <:+ line) :
    dropClosing line = line := by
  unfold dropClosing
  split
  · rename_i rest written
    refine absurd ⟨rest.reverse, ?_⟩ unclosed
    rw [← line.reverse_reverse, written]
    simp
  · rfl

/-- With a blank before it a line closes no comment either. -/
theorem not_suffix_append {line : List Char} (front : List Char) (given : line ≠ [])
    (unclosed : ¬ ['*', '/'] <:+ line) : ¬ ['*', '/'] <:+ front ++ ' ' :: line := by
  intro closed
  have long : ['*', '/'].length ≤ (' ' :: line).length :=
    Nat.succ_le_succ (List.length_pos_iff.mpr given)
  have closed := List.suffix_of_suffix_length_le closed (List.suffix_append front _) long
  rcases List.suffix_cons_iff.mp closed with same | closed
  · exact absurd (List.cons.inj same).1 (by decide)
  · exact unclosed closed

/-- A marker is taken off with the blank behind it, and nothing else is. -/
theorem bareLine_append (marker : List Char) {line : List Char} (content : Content line)
    (marked : ∀ rest, dropMarker (marker ++ ' ' :: rest) = rest)
    (alone : bareLine (marker ++ [' ']) = []) : bareLine (marker ++ ' ' :: line) = line := by
  by_cases given : line = []
  · rw [given, alone]
  · have trimmed : endsPlain (marker ++ ' ' :: line) = true := by
      rw [endsPlain_append marker (List.cons_ne_nil _ _), ← List.singleton_append,
        endsPlain_append [' '] given, content.trimmed]
    rw [bareLine, trimEnd_of_endsPlain trimmed,
      dropClosing_of_unclosed (not_suffix_append marker given content.unclosed), marked,
      trimEnd_of_endsPlain content.trimmed]

theorem bareLine_block {line : List Char} (content : Content line) :
    bareLine (" * ".toList ++ line) = line :=
  bareLine_append " *".toList content (fun _ => rfl) (by decide)

theorem bareLine_slashes {line : List Char} (content : Content line) :
    bareLine ("/// ".toList ++ line) = line :=
  bareLine_append "///".toList content (fun _ => rfl) (by decide)

/-- Empty lines are taken off at both ends, and only there. -/
theorem dropEmptyEnds_eq {content : List (List Char)} (starts : content.head? ≠ some [])
    (ends : content.getLast? ≠ some []) :
    dropEmptyEnds content = content ∧ dropEmptyEnds ([] :: (content ++ [[]])) = content := by
  have kept {lines : List (List Char)} (starts : lines.head? ≠ some []) :
      lines.dropWhile List.isEmpty = lines := by
    cases lines with
    | nil => rfl
    | cons line rest =>
        have given : line ≠ [] := fun empty => starts (congrArg some empty)
        exact List.dropWhile_cons_of_neg (by simpa using given)
  have behind : content.reverse.dropWhile List.isEmpty = content.reverse :=
    kept (by rwa [List.head?_reverse])
  constructor
  · rw [dropEmptyEnds, kept starts, behind, List.reverse_reverse]
  · cases content with
    | nil => rfl
    | cons line rest =>
        have inner : (line :: rest ++ [[]]).dropWhile List.isEmpty = line :: rest ++ [[]] :=
          kept starts
        rw [dropEmptyEnds, List.dropWhile_cons_of_pos rfl, inner, List.reverse_append,
          List.reverse_singleton, List.singleton_append, List.dropWhile_cons_of_pos rfl, behind,
          List.reverse_reverse]

/-- A comment says what its lines say without their markers, whichever breaks stand between
them. -/
theorem text_intercalate {lineBreak : String} (breaks : LineBreak lineBreak.toList)
    {parts content : List String} (whole : ∀ part ∈ parts, IsLine part.toList)
    (given : ∀ part ∈ parts, part ≠ "")
    (bare : dropEmptyEnds (parts.map (bareLine ·.toList)) = content.map String.toList) :
    text (lineBreak.intercalate parts) = String.intercalate "\n" content := by
  have whole : ∀ part ∈ parts.map String.toList, IsLine part := by simpa using whole
  have given : ∀ part ∈ parts.map String.toList, part ≠ [] := by simpa using given
  rw [text, String.toList_intercalate, lines_intercalate breaks whole given, List.map_map]
  exact congrArg _ ((congrArg _ bare).trans (by simp [Function.comp_def]))

section Marked

variable {marker : String} {content : List String}

theorem isLine_marked (contents : ∀ line ∈ content, Content line.toList)
    (whole : IsLine marker.toList) :
    ∀ part ∈ content.map (marker ++ ·), IsLine part.toList := by
  intro part member
  obtain ⟨line, listed, rfl⟩ := List.mem_map.mp member
  rw [String.toList_append]
  exact List.forall_mem_append.mpr ⟨whole, (contents line listed).whole⟩

theorem marked_ne_empty (given : marker ≠ "") :
    ∀ part ∈ content.map (marker ++ ·), part ≠ "" := by
  intro part member
  obtain ⟨line, -, rfl⟩ := List.mem_map.mp member
  simp [given]

theorem map_bareLine (contents : ∀ line ∈ content, Content line.toList)
    (bare : ∀ line, Content line → bareLine (marker.toList ++ line) = line) :
    (content.map (marker ++ ·)).map (bareLine ·.toList) = content.map String.toList := by
  rw [List.map_map]
  refine List.map_congr_left fun line listed => ?_
  rw [Function.comp_apply, String.toList_append, bare _ (contents line listed)]

end Marked

/-- A comment says its content, written as a block or with slashes at each line. -/
theorem comments_recovered (lineBreak : String) (breaks : LineBreak lineBreak.toList)
    {content : List String} (contents : ∀ line ∈ content, Content line.toList)
    (starts : content.head? ≠ some "") (ends : content.getLast? ≠ some "") :
    text (lineBreak.intercalate (blockLines content)) = String.intercalate "\n" content ∧
      text (lineBreak.intercalate (slashLines content)) = String.intercalate "\n" content := by
  have starts : (content.map String.toList).head? ≠ some [] := by simpa using starts
  have ends : (content.map String.toList).getLast? ≠ some [] := by simpa using ends
  obtain ⟨kept, trimmed⟩ := dropEmptyEnds_eq starts ends
  constructor
  · refine text_intercalate breaks ?_ ?_ ?_
    · exact List.forall_mem_cons.mpr ⟨by decide, List.forall_mem_append.mpr
        ⟨isLine_marked contents (by decide), by decide⟩⟩
    · exact List.forall_mem_cons.mpr ⟨by decide, List.forall_mem_append.mpr
        ⟨marked_ne_empty (by decide), by decide⟩⟩
    · rw [blockLines, List.map_cons, List.map_append,
        map_bareLine contents fun _ content => bareLine_block content]
      exact trimmed
  · refine text_intercalate breaks (isLine_marked contents (by decide))
      (marked_ne_empty (by decide)) ?_
    rw [slashLines, map_bareLine contents fun _ content => bareLine_slashes content]
    exact kept

/-- Three lines, of which one is empty and one could be taken for a marker. -/
def remark : List String := ["Adds:", "", "  */ * //x"]

theorem remark_recovered :
    (∀ line ∈ remark, Content line.toList) ∧ remark.head? ≠ some "" ∧
      remark.getLast? ≠ some "" ∧
      text "/**\n * Adds:\n * \n *   */ * //x\n */" = "Adds:\n\n  */ * //x" ∧
      text "/// Adds:\n/// \n///   */ * //x" = "Adds:\n\n  */ * //x" := by
  have contents : ∀ line ∈ remark, Content line.toList := by decide
  have recovered :=
    comments_recovered "\n" (.separator (by decide)) contents (by decide) (by decide)
  have block : "\n".intercalate (blockLines remark) =
      "/**\n * Adds:\n * \n *   */ * //x\n */" := by decide
  have slashes : "\n".intercalate (slashLines remark) =
      "/// Adds:\n/// \n///   */ * //x" := by decide
  have content : "\n".intercalate remark = "Adds:\n\n  */ * //x" := by decide
  rw [block, slashes, content] at recovered
  exact ⟨contents, by decide, by decide, recovered⟩

end LuaBinder.Header.Comment
