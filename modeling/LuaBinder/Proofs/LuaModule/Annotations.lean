import LuaBinder.Proofs.LuaModule.Agreement
import LuaBinder.Proofs.LuaModule.Granting
import LuaBinder.Proofs.LuaModule.Sizes

namespace LuaBinder

namespace LuaModule

open Text

/-! The types in the definitions for editors: where they are introduced, and where they are
mentioned. -/

/-- A line that introduces a type or mentions one. -/
inductive Note where
  | record (name : String)
  | synonym (name type : String)
  | enumeration (name : String)
  | table
  | field (name type : String)
  | param (name type : String)
  | result (type : String)

namespace Note

def text (moduleName : String) : Note → String
  | .record name => "---@class " ++ moduleName ++ "." ++ name ++ ": ffi.cdata*"
  | .synonym name type => "---@alias " ++ moduleName ++ "." ++ name ++ " " ++ type
  | .enumeration name => "---@enum " ++ moduleName ++ "." ++ name
  | .table => "---@class " ++ moduleName
  | .field name type => "---@field " ++ name ++ " " ++ type
  | .param name type => "---@param " ++ name ++ " " ++ type
  | .result type => "---@return " ++ type

/-- The name of a type in the module that the line introduces. -/
def introduced? : Note → Option String
  | .record name | .synonym name _ | .enumeration name => some name
  | _ => none

/-- The type that the line mentions. -/
def type? : Note → Option String
  | .synonym _ type | .field _ type | .param _ type | .result type => some type
  | _ => none

end Note

/-! Lines that are notes. -/

def tags : List String :=
  ["---@class ", "---@alias ", "---@enum ", "---@field ", "---@param ", "---@return "]

def isNote (line : String) : Bool := tags.any fun tag => tag.toList.isPrefixOf line.toList

def noteLines (lines : List String) : List String := lines.filter isNote

theorem noteLines_append (front back : List String) :
    noteLines (front ++ back) = noteLines front ++ noteLines back :=
  List.filter_append ..

theorem isNote_append {front : String} (noted : isNote front = true) (rest : String) :
    isNote (front ++ rest) = true := by
  obtain ⟨tag, listed, first⟩ := List.any_eq_true.mp noted
  refine List.any_eq_true.mpr ⟨tag, listed, List.isPrefixOf_iff_prefix.mpr ?_⟩
  rw [String.toList_append]
  exact (List.isPrefixOf_iff_prefix.mp first).trans (List.prefix_append _ _)

theorem isNote_of_mem {tag : String} (listed : tag ∈ tags) : isNote tag = true :=
  List.any_eq_true.mpr ⟨tag, listed, List.isPrefixOf_iff_prefix.mpr List.prefix_rfl⟩

theorem Note.isNote_text (moduleName : String) (note : Note) :
    isNote (note.text moduleName) = true := by
  have tag {front : String} (listed : front ∈ tags) := isNote_append (isNote_of_mem listed)
  cases note with
  | record name =>
      exact isNote_append (isNote_append (isNote_append (tag (by decide) _) _) _) _
  | synonym name type =>
      exact isNote_append (isNote_append (isNote_append (isNote_append (tag (by decide) _)
        _) _) _) _
  | enumeration name => exact isNote_append (isNote_append (tag (by decide) _) _) _
  | table => exact tag (by decide) _
  | field name type => exact isNote_append (isNote_append (tag (by decide) _) _) _
  | param name type => exact isNote_append (isNote_append (tag (by decide) _) _) _
  | result type => exact tag (by decide) _

theorem noteLines_text (moduleName : String) (notes : List Note) :
    noteLines (notes.map (·.text moduleName)) = notes.map (·.text moduleName) := by
  refine List.filter_eq_self.mpr fun line member => ?_
  obtain ⟨note, -, rfl⟩ := List.mem_map.mp member
  exact note.isNote_text moduleName

/-- The tags differ from each other, and from other lines, in their first characters. -/
theorem not_isNote {line : String}
    (other : ∀ tag ∈ tags, line.toList.take 5 ≠ tag.toList.take 5) : isNote line = false := by
  have long : ∀ tag ∈ tags, 5 ≤ tag.toList.length := by decide
  rw [Bool.eq_false_iff]
  intro noted
  obtain ⟨tag, listed, front⟩ := List.any_eq_true.mp noted
  obtain ⟨rest, same⟩ := List.isPrefixOf_iff_prefix.mp front
  refine other tag listed ?_
  rw [← same, List.take_append_of_le_length (long tag listed)]

theorem not_isNote_append {front : String} (long : 5 ≤ front.toList.length)
    (other : ∀ tag ∈ tags, front.toList.take 5 ≠ tag.toList.take 5) (rest : String) :
    isNote (front ++ rest) = false := by
  refine not_isNote ?_
  rwa [String.toList_append, List.take_append_of_le_length long]

theorem not_isNote_type (type : String) : isNote ("---@type " ++ type) = false :=
  not_isNote_append (by decide) (by decide) type

theorem not_isNote_of_head {line : String} (other : line.toList.head? ≠ some '-') :
    isNote line = false := by
  have dash : ∀ tag ∈ tags, (tag.toList.take 5).head? = some '-' := by decide
  refine not_isNote fun tag listed same => other ?_
  have first := dash tag listed
  rwa [← same, List.head?_take, if_neg (by decide)] at first

theorem noteLines_eq_nil {lines : List String} (others : ∀ line ∈ lines, isNote line = false) :
    noteLines lines = [] :=
  List.filter_eq_nil_iff.mpr fun line member => by simp [others line member]

theorem not_isNote_of_declared {line : String} {found : String × List Char}
    (declared : declared? line = some found) : isNote line = false := by
  refine not_isNote_of_head fun dash => ?_
  rw [declared?_dash dash] at declared
  cases declared

/-- A comment has a blank where a note has its mark. -/
theorem not_isNote_comment (part : String) : isNote (Code.commentLine "---" part) = false := by
  have dash : isBlank '-' = false := by decide
  have written : (Code.commentLine "---" part).toList =
      '-' :: '-' :: '-' :: trimEnd (' ' :: part.toList) := by
    rw [Code.commentLine, trimRight, String.toList_ofList, String.toList_append,
      String.toList_append, ← trimEnd_cons dash, ← trimEnd_cons dash, ← trimEnd_cons dash]
    rfl
  obtain ⟨dropped, same⟩ : trimEnd (' ' :: part.toList) <+: ' ' :: part.toList := by
    rw [trimEnd, dropLast, ← List.reverse_suffix, List.reverse_reverse]
    exact List.dropWhile_suffix _
  have mark : ∀ tag ∈ tags, (tag.toList.take 5)[3]? = some '@' := by decide
  refine not_isNote fun tag listed alike => ?_
  have marked := mark tag listed
  rw [← alike, written] at marked
  generalize trimEnd (' ' :: part.toList) = rest at marked same
  cases rest with
  | nil => simp at marked
  | cons c others =>
      obtain rfl : c = ' ' := (List.cons.inj same).1
      simp at marked

/-! The notes of the definitions. -/

namespace StubContext

variable (c : StubContext)

def recordNotes (d : Declaration) (members : List Member) : List Note :=
  .record d.name :: members.map fun m => .field m.name (c.typeText m.type)

/-- What is said of types in front of the module. -/
def typeNotes (binding : Binding) : List Note :=
  match binding.2.body with
  | .record _ _ members => c.recordNotes binding.2 members
  | _ => []

def synonymNotes (bindings : List Binding) (binding : Binding) : List Note :=
  match binding.2.body with
  | .typedef underlying =>
      if (recordNames bindings).contains binding.2.name then []
      else [.synonym binding.2.name ((underlying.map c.typeText).getD "any")]
  | _ => []

def memberNotes (d : Declaration) : List Note :=
  match d.body with
  | .function f =>
      (f.allParams.map fun p => .param (localName p.name) (c.typeText p.type)) ++
        if f.result == .void then [] else [.result (c.typeText f.result)]
  | .global type const _ =>
      .result (c.typeText type) :: if const then [] else [.param "value" (c.typeText type)]
  | .enumeration _ _ => [.enumeration d.name]
  | _ => []

def tableNotes : List Note :=
  [.table, .field "addresses" "table<string, ffi.cdata*>",
    .field "types" "table<string, ffi.ctype*>"]

/-- All notes, in the order of the definitions. -/
def notes (bindings : List Binding) : List Note :=
  bindings.flatMap c.typeNotes ++ bindings.flatMap (c.synonymNotes bindings) ++ tableNotes ++
    order.flatMap fun s => ((Layout.of bindings).within s).flatMap fun binding =>
      c.memberNotes binding.2

theorem noteLines_doc (doc : String) : noteLines (c.doc doc) = [] := by
  refine noteLines_eq_nil fun line member => ?_
  rw [StubContext.doc] at member
  split at member
  · obtain ⟨part, -, rfl⟩ := List.mem_map.mp member
    exact not_isNote_comment part
  · cases member

theorem noteLines_recordLines (d : Declaration) (members : List Member) :
    noteLines (c.recordLines d members) = (c.recordNotes d members).map (·.text c.moduleName) := by
  have written : c.recordLines d members =
      c.doc d.doc ++ (c.recordNotes d members).map (·.text c.moduleName) := by
    rw [recordLines, recordNotes, List.map_cons, List.map_map]
    rfl
  rw [written, noteLines_append, noteLines_doc, noteLines_text, List.nil_append]

theorem not_isNote_functionStub (key : String) (params : List String) :
    isNote (functionStub key params) = false :=
  not_isNote_of_declared (declared?_functionStub key params)

theorem noteLines_functionLines {d : Declaration} {f : Function} (body : d.body = .function f) :
    noteLines (c.functionLines d f) = (c.memberNotes d).map (·.text c.moduleName) := by
  have written : c.functionLines d f = c.doc d.doc ++
      ((c.memberNotes d).map (·.text c.moduleName) ++
        [functionStub d.name (f.allParams.map fun p => localName p.name)]) := by
    simp only [functionLines, memberNotes, body, List.map_append, List.map_map, List.append_assoc]
    split_ifs <;> rfl
  have stub : noteLines [functionStub d.name (f.allParams.map fun p => localName p.name)] = [] :=
    noteLines_eq_nil (by simp [not_isNote_functionStub])
  rw [written, noteLines_append, noteLines_doc, noteLines_append, noteLines_text, stub,
    List.append_nil, List.nil_append]

theorem noteLines_stub {remark : String} (noted : isNote remark = true) (key : String)
    (params : List String) : noteLines [remark, functionStub key params] = [remark] := by
  simp [noteLines, noted, not_isNote_functionStub]

theorem noteLines_globalLines {d : Declaration} {type : CType} {const exposesAddress : Bool}
    (body : d.body = .global type const exposesAddress) :
    noteLines (c.globalLines d type const) = (c.memberNotes d).map (·.text c.moduleName) := by
  have value : "---@param value " ++ c.typeText type =
      Note.text c.moduleName (.param "value" (c.typeText type)) :=
    congrArg (· ++ c.typeText type)
      (by decide : "---@param value " = "---@param " ++ "value" ++ " ")
  have result := Note.isNote_text c.moduleName (.result (c.typeText type))
  have param := Note.isNote_text c.moduleName (.param "value" (c.typeText type))
  rw [globalLines, noteLines_append, noteLines_append, noteLines_doc, value, List.nil_append]
  simp only [memberNotes, body]
  cases const with
  | true => exact congrArg (· ++ []) (noteLines_stub result _ _)
  | false =>
      exact congrArg₂ (· ++ ·) (noteLines_stub result _ _) (noteLines_stub param _ _)

theorem noteLines_nil {remark : String} (other : isNote remark = false) (key : String) :
    noteLines [remark, nilLine key] = [] := by
  have nil : isNote (nilLine key) = false := not_isNote_of_declared (declared?_assign _ _)
  simp [noteLines, other, nil]

theorem noteLines_enumLines {d : Declaration} {incomplete : Bool} {constants : List EnumConstant}
    (body : d.body = .enumeration incomplete constants) {lines : List String}
    (written : c.enumLines d constants = .ok lines) :
    noteLines lines = (c.memberNotes d).map (·.text c.moduleName) := by
  obtain ⟨rows, -, finished⟩ := bind_eq_ok.mp written
  cases finished
  have rest : noteLines ([assign d.name "\x7b"] ++ (rows.map ("    " ++ ·) ++ ["\x7d"])) = [] := by
    refine noteLines_eq_nil ?_
    simp only [List.mem_cons, List.mem_append, List.mem_map, List.not_mem_nil, or_false]
    rintro line (rfl | ⟨row, -, rfl⟩ | rfl)
    · exact not_isNote_of_declared (declared?_assign _ _)
    · exact not_isNote_of_head (by simp)
    · decide
  have own := noteLines_text c.moduleName [.enumeration d.name]
  simp only [memberNotes, body]
  rw [List.append_assoc, List.append_assoc, noteLines_append, noteLines_doc, List.nil_append,
    ← List.singleton_append, List.append_assoc, noteLines_append, rest, List.append_nil]
  exact own

theorem noteLines_memberLines {d : Declaration} {lines : List String}
    (written : c.memberLines d = .ok lines) :
    noteLines lines = (c.memberNotes d).map (·.text c.moduleName) := by
  have ctype : isNote "---@type ffi.ctype*" = false := not_isNote_type "ffi.ctype*"
  unfold memberLines at written
  cases body : d.body with
  | function f =>
      simp only [body] at written
      cases written
      exact c.noteLines_functionLines body
  | record kind incomplete members =>
      simp only [body] at written
      cases written
      rw [noteLines_nil ctype, memberNotes, body]
      rfl
  | enumeration incomplete constants =>
      simp only [body] at written
      exact c.noteLines_enumLines body written
  | interface incomplete superclass methods =>
      simp only [body] at written
      cases written
      have remark : isNote classLine = false := not_isNote_append (by decide) (by decide) _
      rw [noteLines_append, noteLines_doc, noteLines_nil remark, memberNotes, body]
      rfl
  | typedef underlying =>
      simp only [body] at written
      cases written
      rw [noteLines_nil ctype, memberNotes, body]
      rfl
  | «global» type const exposesAddress =>
      simp only [body] at written
      cases written
      exact c.noteLines_globalLines body
  | constant rawType value =>
      simp only [body] at written
      obtain ⟨text, -, finished⟩ := bind_eq_ok.mp written
      cases finished
      rw [noteLines_append, noteLines_doc, noteLines_nil (not_isNote_type text), memberNotes, body]
      rfl

theorem noteLines_flatMap {α : Type} (entries : List α) (f : α → List String) :
    noteLines (entries.flatMap f) = entries.flatMap fun entry => noteLines (f entry) :=
  List.filter_flatMap ..

theorem noteLines_separated (part : List String) : noteLines (part ++ [""]) = noteLines part := by
  have separator : noteLines [""] = [] := by decide
  rw [noteLines_append, separator, List.append_nil]

theorem noteLines_sectionLines {layout : Layout} {s : Section} {lines : List String}
    (written : c.sectionLines layout s = .ok lines) :
    noteLines lines = (layout.within s).flatMap fun binding =>
      (c.memberNotes binding.2).map (·.text c.moduleName) := by
  obtain ⟨parts, gathered, rfl⟩ := sectionLines_eq_ok.mp written
  rw [← observe_flatten rfl noteLines_append (fun _ _ => c.noteLines_memberLines) gathered,
    noteLines_flatMap, ← List.flatMap_id, noteLines_flatMap]
  simp only [noteLines_separated, id]

theorem noteLines_records (bindings : List Binding) :
    noteLines (c.records bindings) =
      bindings.flatMap fun binding => (c.typeNotes binding).map (·.text c.moduleName) := by
  rw [records, noteLines_flatMap]
  refine List.flatMap_congr fun binding _ => ?_
  cases body : binding.2.body with
  | record kind incomplete members =>
      simp only [typeNotes, body]
      rw [noteLines_separated, noteLines_recordLines]
  | _ =>
      simp only [typeNotes, body]
      rfl

theorem noteLines_aliases (bindings : List Binding) :
    noteLines (c.aliases bindings) =
      bindings.flatMap fun binding =>
        (c.synonymNotes bindings binding).map (·.text c.moduleName) := by
  rw [aliases, noteLines_flatMap]
  refine List.flatMap_congr fun binding _ => ?_
  cases body : binding.2.body with
  | typedef underlying =>
      simp only [synonymNotes, body]
      split_ifs
      · rfl
      · rw [← List.singleton_append, noteLines_separated]
        exact noteLines_text c.moduleName [.synonym _ _]
  | _ =>
      simp only [synonymNotes, body]
      rfl

theorem noteLines_opening (bindings : List Binding) :
    noteLines (c.opening bindings) =
      (bindings.flatMap c.typeNotes ++ bindings.flatMap (c.synonymNotes bindings) ++
        tableNotes).map (·.text c.moduleName) := by
  have title : isNote ("-- LuaCATS type definitions for " ++ c.moduleName) = false :=
    not_isNote_append (by decide) (by decide) _
  have front : noteLines ["---@meta", "-- LuaCATS type definitions for " ++ c.moduleName,
      "-- Auto-generated, do not edit", ""] = [] := by
    refine noteLines_eq_nil ?_
    simp only [List.forall_mem_cons]
    exact ⟨by decide, title, by decide, by decide, nofun⟩
  have back : noteLines ["---@class " ++ c.moduleName,
      "---@field addresses table<string, ffi.cdata*>",
      "---@field types table<string, ffi.ctype*>", "local M = \x7b\x7d", ""] =
        tableNotes.map (·.text c.moduleName) := by
    have rest : noteLines ["local M = \x7b\x7d", ""] = [] := by decide
    have own := noteLines_text c.moduleName tableNotes
    rw [← List.append_nil (tableNotes.map _), ← own, ← rest, ← noteLines_append]
    rfl
  rw [opening, noteLines_append, noteLines_append, noteLines_append, front, back,
    noteLines_records, noteLines_aliases, List.map_append, List.map_append, List.map_flatMap,
    List.map_flatMap, List.nil_append]

/-- Among the lines of the definitions these are notes, and no others. -/
theorem noteLines_lines {bindings : List Binding} {lines : List String}
    (written : c.lines bindings = .ok lines) :
    noteLines lines = (c.notes bindings).map (·.text c.moduleName) := by
  obtain ⟨sections, gathered, rfl⟩ := lines_eq_ok.mp written
  have ending : noteLines ["return M"] = [] := by decide
  rw [noteLines_append, noteLines_append, noteLines_opening, ending,
    observe_flatten rfl noteLines_append (fun _ _ => c.noteLines_sectionLines) gathered,
    List.append_nil]
  simp only [notes, List.map_append, List.map_flatMap]

/-! The names that are introduced. -/

theorem introduced_recordNotes (d : Declaration) (members : List Member) :
    (c.recordNotes d members).filterMap Note.introduced? = [d.name] := by
  simp [recordNotes, Note.introduced?, List.filterMap_map, Function.comp_def]

theorem introduced_typeNotes (bindings : List Binding) :
    (bindings.flatMap c.typeNotes).filterMap Note.introduced? = recordNames bindings := by
  induction bindings with
  | nil => rfl
  | cons binding rest induction =>
      rw [List.flatMap_cons, List.filterMap_append, induction, typeNotes, recordNames, recordNames,
        List.filter_cons, Declaration.isRecord]
      cases binding.2.body with
      | record kind incomplete members =>
          simp only [introduced_recordNotes]
          rfl
      | _ => rfl

def typedefNames (bindings : List Binding) : List String :=
  (bindings.filter (·.2.isTypedef)).map (·.2.name)

theorem introduced_synonymNotes (bindings entries : List Binding) :
    (entries.flatMap (c.synonymNotes bindings)).filterMap Note.introduced? =
      (typedefNames entries).filter fun name => !(recordNames bindings).contains name := by
  induction entries with
  | nil => rfl
  | cons binding rest induction =>
      rw [List.flatMap_cons, List.filterMap_append, induction, synonymNotes, typedefNames,
        typedefNames, List.filter_cons, Declaration.isTypedef, Declaration.kind]
      cases binding.2.body with
      | typedef underlying =>
          rw [if_pos (by rfl), List.map_cons, List.filter_cons]
          cases (recordNames bindings).contains binding.2.name <;> rfl
      | record kind _ _ => cases kind <;> rfl
      | _ => rfl

theorem introduced_memberNotes (d : Declaration) :
    (c.memberNotes d).filterMap Note.introduced? =
      match d.body with
      | .enumeration _ _ => [d.name]
      | _ => [] := by
  unfold memberNotes
  cases d.body with
  | function f =>
      dsimp only
      split_ifs <;> simp [Note.introduced?, List.filterMap_map, Function.comp_def]
  | «global» type const exposesAddress => cases const <;> rfl
  | _ => rfl

/-- The enumerations that have a table in the module. -/
def shownEnumNames (bindings : List Binding) : List String :=
  ((Layout.of bindings).within .enums).map (·.2.name)

theorem admits_enumeration {s : Section} {d : Declaration} {incomplete : Bool}
    {constants : List EnumConstant} (body : d.body = .enumeration incomplete constants)
    (admitted : s.admits d = true) : s = .enums := by
  rw [admits_iff, sectionOf?, body] at admitted
  cases incomplete with
  | true => cases admitted
  | false => exact (Option.some.inj admitted).symm

theorem exists_enumeration_of_admits {d : Declaration} (admitted : Section.enums.admits d = true) :
    ∃ incomplete constants, d.body = .enumeration incomplete constants := by
  rw [admits_iff, sectionOf?] at admitted
  cases body : d.body with
  | enumeration incomplete constants => exact ⟨incomplete, constants, rfl⟩
  | _ =>
      rw [body] at admitted
      cases admitted

theorem introduced_sectionNotes (bindings : List Binding) (s : Section) :
    (((Layout.of bindings).within s).flatMap fun binding => c.memberNotes binding.2).filterMap
        Note.introduced? = if s = .enums then shownEnumNames bindings else [] := by
  rw [List.filterMap_flatMap]
  simp only [introduced_memberNotes]
  split_ifs with enums
  · subst enums
    rw [shownEnumNames, List.map_eq_flatMap]
    refine List.flatMap_congr fun binding granted => ?_
    obtain ⟨incomplete, constants, body⟩ :=
      exists_enumeration_of_admits (Layout.mem_of_within granted).2.1
    rw [body]
  · refine List.flatMap_eq_nil_iff.mpr fun binding granted => ?_
    cases body : binding.2.body with
    | enumeration => exact absurd (admits_enumeration body (Layout.mem_of_within granted).2.1) enums
    | _ => rfl

theorem introduced_notes (bindings : List Binding) :
    (c.notes bindings).filterMap Note.introduced? =
      recordNames bindings ++
        (typedefNames bindings).filter (fun name => !(recordNames bindings).contains name) ++
          shownEnumNames bindings := by
  rw [notes, List.filterMap_append, List.filterMap_append, List.filterMap_append,
    introduced_typeNotes, introduced_synonymNotes, List.filterMap_flatMap]
  simp only [introduced_sectionNotes]
  simp [order, tableNotes, Note.introduced?]

theorem nodup_shownEnumNames (bindings : List Binding) : (shownEnumNames bindings).Nodup := by
  have granting := Layout.granting_of bindings
  refine granting.nodup.sublist (List.Sublist.trans ?_ (Layout.names_sublist_taken _))
  rw [shownEnumNames, Layout.within, List.map_map]
  exact List.filter_sublist.map _

/-- If neither records nor typedefs share a name, no type is introduced twice exactly if no
enumeration with a table has the name of a record or of a typedef. -/
theorem nodup_introduced_iff {bindings : List Binding} (records : (recordNames bindings).Nodup)
    (typedefs : (typedefNames bindings).Nodup) :
    ((c.notes bindings).filterMap Note.introduced?).Nodup ↔
      ∀ name ∈ shownEnumNames bindings,
        name ∉ recordNames bindings ∧ name ∉ typedefNames bindings := by
  rw [introduced_notes, List.nodup_append, List.nodup_append]
  simp only [records, typedefs.filter _, nodup_shownEnumNames, true_and]
  constructor
  · rintro ⟨-, apart⟩ name shown
    refine ⟨fun record => ?_, fun typedef => ?_⟩
    · exact apart name (List.mem_append_left _ record) name shown rfl
    · by_cases record : name ∈ recordNames bindings
      · exact apart name (List.mem_append_left _ record) name shown rfl
      · have kept : name ∈ (typedefNames bindings).filter
            fun name => !(recordNames bindings).contains name :=
          List.mem_filter.mpr ⟨typedef, by simpa using record⟩
        exact apart name (List.mem_append_right _ kept) name shown rfl
  · intro apart
    refine ⟨?_, ?_⟩
    · rintro name record _ kept rfl
      simpa [record] using (List.mem_filter.mp kept).2
    · rintro name given _ shown rfl
      obtain ⟨noRecord, noTypedef⟩ := apart name shown
      rcases List.mem_append.mp given with record | kept
      · exact noRecord record
      · exact noTypedef (List.mem_of_mem_filter kept)

end StubContext

/-! The types that are mentioned. -/

/-- What types that are no records look like. -/
def plainTypes : List String :=
  ["any", "boolean", "number", "integer", wideInteger, "ffi.cdata*", "string|ffi.cdata*",
    "function|ffi.cdata*", "function", "table<string, ffi.cdata*>", "table<string, ffi.ctype*>"]

theorem primitiveLuaType_mem (primitive : Primitive) : primitiveLuaType primitive ∈ plainTypes := by
  cases primitive <;> decide

theorem compoundLuaType_cases (moduleName : String) (found : Option Declaration) :
    compoundLuaType moduleName found ∈ plainTypes ∨ ∃ d, found = some d ∧ d.isRecord = true ∧
      compoundLuaType moduleName found = moduleName ++ "." ++ d.name := by
  cases found with
  | none => exact .inl (by simp only [compoundLuaType]; decide)
  | some d =>
      simp only [compoundLuaType, Declaration.isRecord]
      cases body : d.body with
      | record kind incomplete members => exact .inr ⟨d, rfl, by rw [body], rfl⟩
      | _ =>
          left
          dsimp only
          decide

theorem luaType_cases (store : Store) (moduleName : String) (type : CType) :
    luaType store moduleName type ∈ plainTypes ∨ ∃ key d, store.lookup? key = some d ∧
      d.isRecord = true ∧ luaType store moduleName type = moduleName ++ "." ++ d.name := by
  unfold luaType
  generalize store.size + 2 = fuel
  induction fuel generalizing type with
  | zero => exact .inl (by simp only [luaTypeWithin]; decide)
  | succ fuel induction =>
      cases type with
      | typedef key =>
          simp only [luaTypeWithin]
          split
          · exact induction _
          · exact .inl (by decide)
      | primitive primitive => exact .inl (primitiveLuaType_mem primitive)
      | compound key =>
          simp only [luaTypeWithin]
          exact (compoundLuaType_cases moduleName _).imp_right (Exists.intro key)
      | pointer target const =>
          unfold luaTypeWithin
          refine .inl ?_
          split <;> first | decide | contradiction
      | _ => exact .inl (by simp only [luaTypeWithin]; decide)

namespace StubContext

variable (c : StubContext)

/-- The text of a type, or another without the name of a record. -/
def IsTypeText (text : String) : Prop := text ∈ plainTypes ∨ ∃ type, text = c.typeText type

theorem isTypeText_typeNotes {binding : Binding} {note : Note} (own : note ∈ c.typeNotes binding) :
    ∀ text ∈ note.type?, c.IsTypeText text := by
  unfold typeNotes recordNotes at own
  cases body : binding.2.body with
  | record kind incomplete members =>
      simp only [body, List.mem_cons, List.mem_map] at own
      rcases own with rfl | ⟨m, -, rfl⟩
      · nofun
      · exact fun _ same => .inr ⟨m.type, (Option.some.inj same).symm⟩
  | _ => simp [body] at own

theorem isTypeText_synonymNotes {bindings : List Binding} {binding : Binding} {note : Note}
    (own : note ∈ c.synonymNotes bindings binding) : ∀ text ∈ note.type?, c.IsTypeText text := by
  unfold synonymNotes at own
  cases body : binding.2.body with
  | typedef underlying =>
      simp only [body] at own
      split_ifs at own
      · cases own
      · rw [List.mem_singleton.mp own]
        rintro _ ⟨⟩
        cases underlying with
        | none => exact .inl (by decide : "any" ∈ plainTypes)
        | some type => exact .inr ⟨type, rfl⟩
  | _ => simp [body] at own

theorem isTypeText_memberNotes {d : Declaration} {note : Note} (own : note ∈ c.memberNotes d) :
    ∀ text ∈ note.type?, c.IsTypeText text := by
  unfold memberNotes at own
  cases body : d.body with
  | function f =>
      simp only [body, List.mem_append, List.mem_map] at own
      rcases own with ⟨p, -, rfl⟩ | own
      · exact fun _ same => .inr ⟨p.type, (Option.some.inj same).symm⟩
      · split_ifs at own
        · cases own
        · rw [List.mem_singleton.mp own]
          exact fun _ same => .inr ⟨f.result, (Option.some.inj same).symm⟩
  | «global» type const exposesAddress =>
      simp only [body, List.mem_cons] at own
      rcases own with rfl | own
      · exact fun _ same => .inr ⟨type, (Option.some.inj same).symm⟩
      · split_ifs at own
        · cases own
        · rw [List.mem_singleton.mp own]
          exact fun _ same => .inr ⟨type, (Option.some.inj same).symm⟩
  | enumeration incomplete constants =>
      simp only [body, List.mem_singleton] at own
      rw [own]
      intro text mentioned
      cases mentioned
  | _ => simp [body] at own

theorem isTypeText_notes {bindings : List Binding} {note : Note}
    (listed : note ∈ c.notes bindings) :
    ∀ text ∈ note.type?, c.IsTypeText text := by
  have tables : ∀ note ∈ tableNotes, ∀ text ∈ note.type?, text ∈ plainTypes := by decide
  simp only [notes, List.mem_append, List.mem_flatMap] at listed
  rcases listed with ((⟨binding, -, own⟩ | ⟨binding, -, own⟩) | own) | ⟨s, -, binding, -, own⟩
  · exact c.isTypeText_typeNotes own
  · exact c.isTypeText_synonymNotes own
  · exact fun text mentioned => .inl (tables note own text mentioned)
  · exact c.isTypeText_memberNotes own

theorem record_mem_notes {bindings : List Binding} {binding : Binding} (listed : binding ∈ bindings)
    (record : binding.2.isRecord = true) : .record binding.2.name ∈ c.notes bindings := by
  have own : .record binding.2.name ∈ c.typeNotes binding := by
    unfold Declaration.isRecord at record
    unfold typeNotes
    cases body : binding.2.body with
    | record kind incomplete members => exact List.mem_cons_self
    | _ => simp [body] at record
  have listed := List.mem_flatMap_of_mem listed own
  exact List.mem_append_left _ (List.mem_append_left _ (List.mem_append_left _ listed))

end StubContext

end LuaModule

namespace Session

open LuaModule Header

variable {forest : Forest} {policy : Policy} {commands : List Command} {top : List Nat}
  {usrs : List String} {s : Session}

/-- The definitions of a run whose records do not share a name, and whose typedefs do not. Each
type is introduced once exactly if no enumeration with a table has the name of a record or of a
typedef; and each name of the module that is mentioned is introduced as that of a record. -/
theorem types_introduced_once_iff
    (ran : (runAll top).run forest (history forest policy commands) = (.ok usrs, s))
    (c : StubContext) (same : c.store = s.store)
    (records : (StubContext.recordNames (bindingsOf s.store usrs)).Nodup)
    (typedefs : (StubContext.typedefNames (bindingsOf s.store usrs)).Nodup) :
    let bindings := bindingsOf s.store usrs
    ∀ lines, c.lines bindings = .ok lines →
      noteLines lines = (c.notes bindings).map (·.text c.moduleName) ∧
      (((c.notes bindings).filterMap Note.introduced?).Nodup ↔
        ∀ name ∈ StubContext.shownEnumNames bindings,
          name ∉ StubContext.recordNames bindings ∧ name ∉ StubContext.typedefNames bindings) ∧
      ∀ note ∈ c.notes bindings, ∀ text ∈ note.type?, text ∈ plainTypes ∨
        ∃ name, text = c.moduleName ++ "." ++ name ∧ .record name ∈ c.notes bindings := by
  obtain ⟨closed, rfl⟩ := emitted_of_run ran
  intro bindings lines written
  refine ⟨c.noteLines_lines written, c.nodup_introduced_iff records typedefs, ?_⟩
  intro note listed text mentioned
  rcases c.isTypeText_notes listed text mentioned with plain | ⟨type, rfl⟩
  · exact .inl plain
  refine (luaType_cases c.store c.moduleName type).imp_right ?_
  rintro ⟨key, d, found, record, shown⟩
  have emits : isEmitted s.store d = true := by
    unfold Declaration.isRecord at record
    cases body : d.body <;> simp_all [isEmitted]
  have published : (key, d) ∈ bindings := (mem_bindingsOf_emitted closed).mpr ⟨same ▸ found, emits⟩
  exact ⟨d.name, shown, c.record_mem_notes published record⟩

/-- `typedef enum Color { RED } Color; struct Pixel { Color color; }; void draw(struct Pixel);` -/
def colorForest : Forest := ⟨#[
  { kind := .enumeration, spelling := "Color", usr := "c:E@Color", children := [1]
    definition := some 0 },
  { kind := .enumConstant, spelling := "RED", usr := "c:E@Color@RED" },
  { kind := .typedef, spelling := "Color", usr := "c:T@Color"
    underlying := .elaborated (.declared .enumeration 0) },
  { kind := .struct, spelling := "Pixel", usr := "c:Pixel", children := [4], definition := some 3 },
  { kind := .field, spelling := "color", type := .declared .typedef 2 },
  { kind := .function, spelling := "draw", usr := "c:draw", arguments := [6],
    result := .ofKind .void
    type := .function .functionPrototype (.ofKind .void)
      (.cons (NativeType.declared .record 3) .nil) },
  { kind := .parameter, spelling := "pixel", type := .declared .record 3 }]⟩

def colorRun : Except Error (List String) × Session :=
  (runAll [0, 2, 3, 5]).run colorForest (history colorForest {} [])

def colorContext : StubContext := ⟨colorRun.2.store, "bindings", true⟩

def colorUsrs : List String := ["c:E@Color", "c:T@Color", "c:Pixel", "c:draw"]

def colorNotes : List String :=
  ["---@class bindings.Pixel: ffi.cdata*", "---@field color integer",
    "---@alias bindings.Color integer", "---@class bindings",
    "---@field addresses table<string, ffi.cdata*>", "---@field types table<string, ffi.ctype*>",
    "---@enum bindings.Color", "---@param pixel bindings.Pixel"]

/-- The enumeration and the typedef of the same name are both introduced. -/
theorem colorForest_introduced_twice :
    let bindings := bindingsOf colorRun.2.store colorUsrs
    colorRun.1 = .ok colorUsrs ∧ (StubContext.recordNames bindings).Nodup ∧
      (StubContext.typedefNames bindings).Nodup ∧
      ∃ lines, colorContext.lines bindings = .ok lines ∧ noteLines lines = colorNotes ∧
        ¬ ((colorContext.notes bindings).filterMap Note.introduced?).Nodup := by
  intro bindings
  have succeeded : colorRun.1 = .ok colorUsrs := by decide +kernel
  have records : (StubContext.recordNames bindings).Nodup := by decide +kernel
  have typedefs : (StubContext.typedefNames bindings).Nodup := by decide +kernel
  have shown : "Color" ∈ StubContext.shownEnumNames bindings := by decide +kernel
  have shared : "Color" ∈ StubContext.typedefNames bindings := by decide +kernel
  have written : (colorContext.lines bindings).map noteLines = .ok colorNotes := by decide +kernel
  obtain ⟨lines, found, listed⟩ := map_eq_ok.mp written
  have ran := Prod.fst_eq_iff.mp succeeded
  have same : colorContext.store = colorRun.2.store := by rw [colorContext]
  have given := types_introduced_once_iff ran colorContext same records typedefs
  have once := (given lines found).2.1
  have twice : ¬ ((colorContext.notes bindings).filterMap Note.introduced?).Nodup :=
    fun distinct => (once.mp distinct "Color" shown).2 shared
  exact ⟨succeeded, records, typedefs, lines, found, listed, twice⟩

end Session

end LuaBinder
