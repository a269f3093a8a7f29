import LuaBinder.Proofs.LuaModule.Agreement
import LuaBinder.Proofs.LuaModule.Undocumented
import LuaBinder.Proofs.Text.Lines

namespace LuaBinder.LuaModule

open Text

/-! Documentation adds comments to the texts of a module and to nothing else: without the lines of
the comments the texts are the same whatever the documentation says. -/

section Lists

variable {α β ε : Type} {note : String → List α} {texts more : List String} {plain full : List α}

/-- Entries among which the notes on some texts stand, text by text. -/
inductive Annotated (note : String → List α) : List String → List α → List α → Prop
  | nil : Annotated note [] [] []
  | own (entry : α) {texts : List String} {plain full : List α}
      (rest : Annotated note texts plain full) :
      Annotated note texts (entry :: plain) (entry :: full)
  | note (text : String) {texts : List String} {plain full : List α}
      (rest : Annotated note texts plain full) :
      Annotated note (text :: texts) plain (note text ++ full)

namespace Annotated

theorem refl (note : String → List α) (plain : List α) : Annotated note [] plain plain := by
  induction plain with
  | nil => exact .nil
  | cons entry _ induction => exact .own entry induction

theorem append (front : Annotated note texts plain full) {plain' full' : List α}
    (back : Annotated note more plain' full') :
    Annotated note (texts ++ more) (plain ++ plain') (full ++ full') := by
  induction front with
  | nil => exact back
  | own entry _ induction => exact .own entry induction
  | note text _ induction =>
      rw [List.append_assoc]
      exact .note text induction

theorem before (texts : List String) (plain : List α) :
    Annotated note texts plain (texts.flatMap note ++ plain) := by
  induction texts with
  | nil => exact refl note plain
  | cons text texts induction =>
      rw [List.flatMap_cons, List.append_assoc]
      exact .note text induction

theorem within (annotated : Annotated note texts plain full) (front back : List α) :
    Annotated note texts (front ++ plain ++ back) (front ++ full ++ back) := by
  simpa using ((refl note front).append annotated).append (refl note back)

theorem ne_nil (annotated : Annotated note texts plain full) (given : plain ≠ []) :
    full ≠ [] := by
  induction annotated with
  | nil => exact given
  | own entry _ _ => exact List.cons_ne_nil _ _
  | note text _ induction => exact List.append_ne_nil_of_right_ne_nil _ (induction given)

theorem gather {entries : List β} {texts : β → List String} {plain full : β → List α}
    (each : ∀ entry ∈ entries, Annotated note (texts entry) (plain entry) (full entry)) :
    Annotated note (entries.flatMap texts) (entries.flatMap plain) (entries.flatMap full) := by
  induction entries with
  | nil => exact .nil
  | cons entry entries induction =>
      obtain ⟨own, others⟩ := List.forall_mem_cons.mp each
      rw [List.flatMap_cons, List.flatMap_cons, List.flatMap_cons]
      exact own.append (induction others)

/-- Where nothing is noted, nothing is added. -/
theorem eq_of_silent (annotated : Annotated note texts plain full)
    (silent : ∀ text, note text = []) : full = plain := by
  induction annotated with
  | nil => rfl
  | own entry _ induction => rw [induction]
  | note text _ induction => rw [silent, induction, List.nil_append]

theorem flatMap (annotated : Annotated note texts plain full) (f : α → List β) :
    Annotated (fun text => (note text).flatMap f) texts (plain.flatMap f) (full.flatMap f) := by
  induction annotated with
  | nil => exact .nil
  | own entry _ induction =>
      rw [List.flatMap_cons, List.flatMap_cons]
      simpa using (refl _ (f entry)).append induction
  | note text _ induction =>
      rw [List.flatMap_append]
      exact .note text induction

end Annotated

/-- Both fail for the same reason, or both succeed with related results. -/
inductive Both (related : α → β → Prop) : Except ε α → Except ε β → Prop
  | error (error : ε) : Both related (.error error) (.error error)
  | ok {value : α} {other : β} (same : related value other) :
      Both related (.ok value) (.ok other)

namespace Both

variable {γ δ : Type} {related : α → β → Prop} {further : γ → δ → Prop}
  {first : Except ε α} {second : Except ε β}

theorem bind (both : Both related first second) {next : α → Except ε γ} {next' : β → Except ε δ}
    (step : ∀ value other, related value other → Both further (next value) (next' other)) :
    Both further (first >>= next) (second >>= next') := by
  cases both with
  | error error => exact .error error
  | ok same => exact step _ _ same

theorem map (both : Both related first second) {f : α → γ} {f' : β → δ}
    (step : ∀ value other, related value other → further (f value) (f' other)) :
    Both further (first.map f) (second.map f') := by
  cases both with
  | error error => exact .error error
  | ok same => exact .ok (step _ _ same)

theorem refl (result : Except ε α) : Both Eq result result := by
  cases result with
  | error error => exact .error error
  | ok value => exact .ok rfl

/-- What one result is related to through another one. -/
theorem trans {third : Except ε δ} {further : α → δ → Prop} (both : Both related first second)
    (other : Both further first third) :
    Both (fun value result => ∃ plain, related plain value ∧ further plain result)
      second third := by
  cases both with
  | error error =>
      cases other
      exact .error error
  | ok same =>
      cases other with
      | ok also => exact .ok ⟨_, same, also⟩

theorem annotated_map (result : Except ε (List α)) (texts : List String) :
    Both (Annotated note texts) result (result.map (texts.flatMap note ++ ·)) := by
  cases result with
  | error error => exact .error error
  | ok plain => exact .ok (.before texts plain)

/-- Parts with their notes are gathered, with something put behind each. -/
theorem mapM {entries : List γ} {texts : γ → List String} {plain full : γ → Except ε (List α)}
    (each : ∀ entry ∈ entries, Both (Annotated note (texts entry)) (plain entry) (full entry))
    (behind : List α) :
    Both (fun plains fulls => Annotated note (entries.flatMap texts)
        (plains.flatMap (· ++ behind)) (fulls.flatMap (· ++ behind)))
      (entries.mapM plain) (entries.mapM full) := by
  induction entries with
  | nil => exact .ok .nil
  | cons entry entries induction =>
      obtain ⟨own, others⟩ := List.forall_mem_cons.mp each
      rw [List.mapM_cons, List.mapM_cons]
      refine own.bind fun _ _ part => (induction others).bind fun _ _ rest => .ok ?_
      rw [List.flatMap_cons, List.flatMap_cons, List.flatMap_cons]
      simpa using (part.append (.refl note behind)).append rest

end Both

end Lists

/-! The lines of a text as the parser of the module sees them. -/

def endsLine (c : Char) : Bool := c == '\n' || c == '\r'

def physicalLines (text : String) : List (List Char) := text.toList.splitOnP endsLine

theorem physicalLines_append (front back : String) :
    physicalLines (front ++ "\n" ++ back) = physicalLines front ++ physicalLines back := by
  have written : (front ++ "\n" ++ back).toList = front.toList ++ '\n' :: back.toList := by simp
  rw [physicalLines, written, List.splitOnP_append_cons _ _ (by decide)]
  rfl

theorem physicalLines_empty : physicalLines "" = [[]] := rfl

theorem physicalLines_joined {parts : List String} (given : parts ≠ []) :
    physicalLines (String.intercalate "\n" parts ++ "\n") =
      parts.flatMap physicalLines ++ [[]] := by
  obtain ⟨first, rest, rfl⟩ := List.exists_cons_of_ne_nil given
  clear given
  induction rest generalizing first with
  | nil =>
      rw [String.intercalate_singleton, ← String.append_empty (s := first ++ "\n"),
        physicalLines_append, physicalLines_empty, List.flatMap_singleton]
  | cons next rest induction =>
      rw [String.intercalate_cons_cons, List.flatMap_cons, List.append_assoc, ← induction,
        String.append_assoc, physicalLines_append]

/-- The lines by which comments tell what a text says. -/
def notes (marker text : String) : List (List Char) :=
  (splitLines text).map fun part => (Code.commentLine marker part).toList

/-- A line that a long comment starts in. -/
def OpensLongComment (line : List Char) : Prop :=
  ∃ level rest, line = '-' :: '-' :: '[' :: (List.replicate level '=' ++ '[' :: rest)

section Notes

variable {marker text : String} {line : List Char}

theorem exists_of_mem_notes (member : line ∈ notes marker text) :
    ∃ part, IsLine part ∧ line = trimEnd (marker.toList ++ ' ' :: part) := by
  obtain ⟨_, listed, rfl⟩ := List.mem_map.mp member
  obtain ⟨part, whole, rfl⟩ := List.mem_map.mp listed
  refine ⟨part, isLine_of_mem_lines whole, ?_⟩
  simp [Code.commentLine, trimRight]

theorem isLine_note (own : IsLine marker.toList) (member : line ∈ notes marker text) :
    IsLine line := by
  obtain ⟨part, whole, rfl⟩ := exists_of_mem_notes member
  have all : IsLine (marker.toList ++ ' ' :: part) :=
    List.forall_mem_append.mpr ⟨own, List.forall_mem_cons.mpr ⟨by decide, whole⟩⟩
  exact fun c listed => all c ((front_trimEnd _).subset listed)

theorem endsLine_of_isLine (whole : IsLine line) : ∀ c ∈ line, endsLine c = false := by
  intro c member
  rw [endsLine, Bool.or_eq_false_iff, beq_eq_false_iff_ne, beq_eq_false_iff_ne]
  constructor <;> rintro rfl <;> exact absurd (whole _ member) (by decide)

theorem physicalLines_of_isLine {text : String} (whole : IsLine text.toList) :
    physicalLines text = [text.toList] := by
  exact List.splitOnP_eq_singleton (endsLine_of_isLine whole)

theorem flatMap_notes (own : IsLine marker.toList) (text : String) :
    ((splitLines text).map (Code.commentLine marker)).flatMap physicalLines =
      notes marker text := by
  rw [List.flatMap_map, notes, ← List.flatMap_singleton' (List.map _ _), List.flatMap_map]
  refine List.flatMap_congr fun part listed => ?_
  exact physicalLines_of_isLine (isLine_note own (List.mem_map.mpr ⟨part, listed, rfl⟩))

theorem trimEnd_append {front : List Char} (plain : ∀ c ∈ front, isBlank c = false)
    (rest : List Char) : trimEnd (front ++ rest) = front ++ trimEnd rest := by
  induction front with
  | nil => rfl
  | cons c front induction =>
      obtain ⟨own, plain⟩ := List.forall_mem_cons.mp plain
      rw [List.cons_append, trimEnd_cons own, induction plain, List.cons_append]

/-- The markers of comments: of plain ones, and of those that editors read. -/
def markers : List String := ["--", "---"]

/-- Behind its marker a comment has a blank, or nothing. -/
theorem exists_of_mem_notes_marked (listed : marker ∈ markers) (member : line ∈ notes marker text) :
    ∃ rest, line = marker.toList ++ rest ∧ ∀ c ∈ rest.head?, c = ' ' := by
  obtain ⟨part, -, rfl⟩ := exists_of_mem_notes member
  have facts : ∀ marker ∈ markers, (marker.toList.all fun c => !isBlank c) = true := by decide
  have plain : ∀ c ∈ marker.toList, isBlank c = false := by simpa using facts marker listed
  refine ⟨trimEnd (' ' :: part), trimEnd_append plain _, fun c head => ?_⟩
  obtain ⟨rest, written⟩ := List.head?_eq_some_iff.mp head
  have within := front_trimEnd (' ' :: part)
  rw [written] at within
  exact (List.cons_prefix_cons.mp within).1

theorem not_opensLongComment (listed : marker ∈ markers) (member : line ∈ notes marker text) :
    ¬ OpensLongComment line := by
  rintro ⟨level, more, opens⟩
  obtain ⟨rest, written, blank⟩ := exists_of_mem_notes_marked listed member
  rw [opens] at written
  simp only [markers, List.mem_cons, List.not_mem_nil, or_false] at listed
  rcases listed with rfl | rfl
  · cases rest with
    | nil => simp at written
    | cons c rest =>
        change _ = '-' :: '-' :: c :: rest at written
        injection written with _ written
        injection written with _ written
        injection written with same _
        exact absurd (blank c rfl) (same ▸ by decide)
  · simp at written

end Notes

/-! The text of the module. -/

section Module

variable {store : Store} {native : Native} {bindings : List Binding}

theorem flatten_eq (parts : List (List α)) : parts.flatMap (· ++ []) = parts.flatten := by
  simp [List.flatMap_def]

theorem memberCode_annotated (d : Declaration) :
    Both (Annotated (Code.comment "--") (codeDocs d))
      (memberCode store.undocumented d.undocumented) (memberCode store d) := by
  rw [@memberCode_undocumented store d]
  exact .annotated_map _ _

theorem sectionCode_annotated (layout : Layout) (s : Section) :
    Both (Annotated (Code.comment "--") ((layout.within s).flatMap fun binding => codeDocs binding.2))
      (sectionCode store.undocumented layout.undocumented s) (sectionCode store layout s) := by
  have each : ∀ binding ∈ layout.within s,
      Both (Annotated (Code.comment "--") (codeDocs binding.2))
        (memberCode store.undocumented binding.2.undocumented) (memberCode store binding.2) :=
    fun binding _ => memberCode_annotated binding.2
  rw [sectionCode, sectionCode, layout.within_undocumented]
  simp only [titled_undocumented]
  rw [undocumented, List.mapM_map]
  refine (Both.mapM each []).bind fun plains fulls annotated => .ok ?_
  rw [flatten_eq, flatten_eq] at annotated
  rw [titled, titled]
  split_ifs with empty
  · rw [List.isEmpty_iff.mp empty]
    exact .nil
  · exact Annotated.append (.refl _ _) annotated

/-- What the comments of a module tell, in this order. -/
def moduleDocs (bindings : List Binding) : List String :=
  Section.all.flatMap fun s =>
    ((Layout.of bindings).within s).flatMap fun binding => codeDocs binding.2

theorem moduleCode_annotated (native : Native) (bindings : List Binding) :
    Both (fun plain full => plain ≠ [] ∧
        Annotated (Code.comment "--") (moduleDocs bindings) plain full)
      (moduleCode store.undocumented native (undocumented bindings))
      (moduleCode store native bindings) := by
  have each : ∀ s ∈ Section.all, Both (Annotated (Code.comment "--")
        (((Layout.of bindings).within s).flatMap fun binding => codeDocs binding.2))
      (sectionCode store.undocumented (Layout.of bindings).undocumented s)
      (sectionCode store (Layout.of bindings) s) := fun s _ => sectionCode_annotated _ s
  rw [moduleCode, moduleCode, cdef_undocumented, Layout.of_undocumented, addressCode_undocumented,
    functionTypeCode_undocumented]
  refine (Both.refl (cdef store bindings)).bind fun declarations _ same => ?_
  refine (Both.refl (libraryLine native)).bind fun library _ same' => ?_
  subst same same'
  refine (Both.mapM each []).bind fun plains fulls annotated => .ok ⟨?_, ?_⟩
  · exact List.append_ne_nil_of_right_ne_nil _ (List.cons_ne_nil _ _)
  rw [flatten_eq, flatten_eq] at annotated
  have whole := annotated.within (opening declarations library)
    (addressCode bindings ++ functionTypeCode store bindings ++ Code.ofLines ["", "return M"])
  simpa only [moduleDocs, opening, List.append_assoc] using whole

end Module

/-! The definitions for editors. -/

namespace StubContext

variable {c : StubContext}

/-- What the comments of the definitions tell, in this order. -/
def docs (bindings : List Binding) : List String :=
  (bindings.flatMap fun binding => if binding.2.isRecord then [binding.2.doc] else []) ++
    order.flatMap fun s => ((Layout.of bindings).within s).flatMap fun binding => lineDocs binding.2

theorem doc_eq (asked : c.comments = true) (text : String) :
    c.doc text = (splitLines text).map (Code.commentLine "---") := by
  rw [doc, asked, Bool.true_and]
  split_ifs with given
  · rfl
  · rw [show text = "" by simpa using given]
    rfl

theorem records_annotated (bindings : List Binding) :
    Annotated c.doc (bindings.flatMap fun binding =>
        if binding.2.isRecord then [binding.2.doc] else [])
      (c.undocumented.records (LuaBinder.undocumented bindings)) (c.records bindings) := by
  rw [records, records, LuaBinder.undocumented, List.flatMap_map]
  refine .gather fun binding _ => ?_
  cases shape : binding.2.body with
  | record kind incomplete members =>
      simp only [Prod.map_snd, Declaration.body_undocumented, shape, Body.undocumented,
        Declaration.isRecord, if_true, recordLines_undocumented (c := c) (d := binding.2),
        List.append_assoc]
      exact .note binding.2.doc (.refl _ _)
  | _ =>
      simp only [Prod.map_snd, Declaration.body_undocumented, shape, Body.undocumented,
        Declaration.isRecord]
      exact .nil

theorem memberLines_annotated (d : Declaration) :
    Both (Annotated c.doc (lineDocs d)) (c.undocumented.memberLines d.undocumented)
      (c.memberLines d) := by
  rw [@memberLines_undocumented d c]
  exact .annotated_map _ _

theorem sectionLines_annotated (layout : Layout) (s : Section) :
    Both (Annotated c.doc ((layout.within s).flatMap fun binding => lineDocs binding.2))
      (c.undocumented.sectionLines layout.undocumented s) (c.sectionLines layout s) := by
  have each : ∀ binding ∈ layout.within s, Both (Annotated c.doc (lineDocs binding.2))
      (c.undocumented.memberLines binding.2.undocumented) (c.memberLines binding.2) :=
    fun binding _ => memberLines_annotated binding.2
  rw [sectionLines, sectionLines, layout.within_undocumented, LuaBinder.undocumented,
    List.mapM_map]
  exact (Both.mapM each [""]).bind fun plains fulls annotated => .ok annotated

theorem lines_annotated (bindings : List Binding) :
    Both (fun plain full => plain ≠ [] ∧ Annotated c.doc (docs bindings) plain full)
      (c.undocumented.lines (LuaBinder.undocumented bindings)) (c.lines bindings) := by
  have each : ∀ s ∈ order, Both (Annotated c.doc
        (((Layout.of bindings).within s).flatMap fun binding => lineDocs binding.2))
      (c.undocumented.sectionLines (Layout.of bindings).undocumented s)
      (c.sectionLines (Layout.of bindings) s) := fun s _ => sectionLines_annotated _ s
  rw [lines, lines, Layout.of_undocumented, aliases_undocumented, moduleName_undocumented]
  refine (Both.mapM each []).bind fun plains fulls annotated => .ok ⟨?_, ?_⟩
  · exact List.append_ne_nil_of_right_ne_nil _ (List.cons_ne_nil _ _)
  rw [flatten_eq, flatten_eq] at annotated
  have front := (records_annotated (c := c) bindings).within
    ["---@meta", "-- LuaCATS type definitions for " ++ c.moduleName,
      "-- Auto-generated, do not edit", ""] (c.aliases bindings)
  have back := annotated.within
    ["---@class " ++ c.moduleName, "---@field addresses table<string, ffi.cdata*>",
      "---@field types table<string, ffi.ctype*>", "local M = \x7b\x7d", ""] ["return M"]
  simpa only [docs, List.append_assoc] using front.append back

end StubContext

/-! The texts. -/

theorem render_line (text : String) : Line.render ⟨0, text⟩ = text := by
  rw [Line.render]
  split_ifs with empty
  · exact (eq_of_beq empty).symm
  · simp

theorem flatMap_comment {marker : String} (own : IsLine marker.toList) (text : String) :
    (Code.comment marker text).flatMap (fun line => physicalLines line.render) =
      notes marker text := by
  rw [← flatMap_notes own, Code.comment, Code.ofLines, List.flatMap_assoc]
  simp [Code.line, render_line]

theorem moduleText_annotated (store : Store) (native : Native) (bindings : List Binding) :
    Both (fun plain text => Annotated (notes "--") (moduleDocs bindings)
        (physicalLines plain) (physicalLines text))
      (moduleText store.undocumented native (undocumented bindings))
      (moduleText store native bindings) := by
  refine (moduleCode_annotated native bindings).map ?_
  rintro plain full ⟨given, annotated⟩
  have lines {code : Code} (given : code ≠ []) : physicalLines code.render =
      code.flatMap (fun line => physicalLines line.render) ++ [[]] := by
    rw [Code.render, physicalLines_joined (by simpa using given), List.flatMap_map]
  have told := annotated.flatMap fun line => physicalLines line.render
  simp only [flatMap_comment (by decide : IsLine "--".toList)] at told
  rw [lines given, lines (annotated.ne_nil given)]
  exact told.within [] [[]]

/-- The comments of the definitions, if the policy asks for them. -/
def stubDocs (policy : Policy) (bindings : List Binding) : List String :=
  if policy.comments then StubContext.docs bindings else []

theorem stubText_annotated (store : Store) (policy : Policy) (bindings : List Binding) :
    Both (fun plain text => Annotated (notes "---") (stubDocs policy bindings)
        (physicalLines plain) (physicalLines text))
      (stubText store.undocumented policy (undocumented bindings))
      (stubText store policy bindings) := by
  have lines := @StubContext.lines_annotated ⟨store, policy.moduleName, policy.comments⟩ bindings
  rw [stubText, stubText]
  refine lines.bind fun plain full related => .ok ?_
  obtain ⟨given, annotated⟩ := related
  rw [physicalLines_joined given, physicalLines_joined (annotated.ne_nil given), stubDocs]
  cases asked : policy.comments with
  | false =>
      rw [annotated.eq_of_silent fun text => by rw [StubContext.doc, asked]; rfl]
      exact .refl _ _
  | true =>
      have told := annotated.flatMap physicalLines
      simp only [@StubContext.doc_eq ⟨store, policy.moduleName, policy.comments⟩ asked,
        flatMap_notes (by decide : IsLine "---".toList)] at told
      exact told.within [] [[]]

/-- Two texts of which each is a third one with the comments for its documentation. -/
def SameButNotes (marker : String) (docs others : List String) (text other : String) : Prop :=
  ∃ plain, Annotated (notes marker) docs (physicalLines plain) (physicalLines text) ∧
    Annotated (notes marker) others (physicalLines plain) (physicalLines other)

/-- Whatever the documentation says, the module and the definitions for editors are the same but for
the lines of the comments that tell it. Each of these begins with the marker of a comment, goes on
to the end of its line and does not open a long comment. -/
theorem documentation_inert (native : Native) (policy : Policy) {store other : Store}
    {bindings others : List Binding} (sameStore : store.undocumented = other.undocumented)
    (sameBindings : undocumented bindings = undocumented others) :
    Both (SameButNotes "--" (moduleDocs bindings) (moduleDocs others))
        (moduleText store native bindings) (moduleText other native others) ∧
      Both (SameButNotes "---" (stubDocs policy bindings) (stubDocs policy others))
        (stubText store policy bindings) (stubText other policy others) ∧
      ∀ marker ∈ markers, ∀ text, ∀ line ∈ notes marker text,
        marker.toList <+: line ∧ (∀ c ∈ line, endsLine c = false) ∧ ¬ OpensLongComment line := by
  refine ⟨?_, ?_, fun marker listed text line told => ⟨?_, ?_, not_opensLongComment listed told⟩⟩
  · have plain := moduleText_annotated other native others
    rw [← sameStore, ← sameBindings] at plain
    exact (moduleText_annotated store native bindings).trans plain
  · have plain := stubText_annotated other policy others
    rw [← sameStore, ← sameBindings] at plain
    exact (stubText_annotated store policy bindings).trans plain
  · obtain ⟨rest, rfl, -⟩ := exists_of_mem_notes_marked listed told
    exact List.prefix_append _ _
  · have own : IsLine marker.toList :=
      (by decide : ∀ marker ∈ markers, IsLine marker.toList) marker listed
    exact endsLine_of_isLine (isLine_note own told)

/-- The same module, its functions told of in comments that try to end early. -/
def hostileBindings : List Binding :=
  logBindings.map fun binding =>
    (binding.1, { binding.2 with doc := "[[\rM = nil\n--]] os.exit()\u2028" })

theorem hostileBindings_inert :
    logStore.undocumented = (⟨hostileBindings⟩ : Store).undocumented ∧
      undocumented logBindings = undocumented hostileBindings ∧
      Both (SameButNotes "--" (moduleDocs logBindings) (moduleDocs hostileBindings))
        (moduleText logStore {} logBindings) (moduleText ⟨hostileBindings⟩ {} hostileBindings) ∧
      moduleDocs hostileBindings =
        List.replicate 2 "[[\rM = nil\n--]] os.exit()\u2028" ∧
      notes "--" "[[\rM = nil\n--]] os.exit()\u2028" =
        ["-- [[", "-- M = nil", "-- --]] os.exit()"].map String.toList := by
  have store : logStore.undocumented = (⟨hostileBindings⟩ : Store).undocumented := rfl
  have bindings : undocumented logBindings = undocumented hostileBindings := rfl
  exact ⟨store, bindings, (documentation_inert {} {} store bindings).1, by decide, by decide⟩

end LuaBinder.LuaModule
