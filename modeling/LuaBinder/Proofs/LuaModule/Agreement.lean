import LuaBinder.Proofs.LuaModule.Faults
import LuaBinder.Proofs.LuaModule.Fields
import LuaBinder.Proofs.LuaModule.Names
import LuaBinder.Proofs.LuaModule.Sections

namespace LuaBinder.LuaModule

/-! A module and its definitions for editors hold the same fields. -/

theorem fields_functionCode (store : Store) (d : Declaration) (f : Function) :
    (functionCode store d f).fields = [d.name] := by
  have doc : Code.fields (if d.doc == "" then [] else Code.comment "--" d.doc) = [] := by
    split_ifs
    · rfl
    · exact Code.fields_comment d.doc
  rw [functionCode, Code.fields_append, doc]
  split_ifs
  · simp [assigned?_assign]
  · rw [wrapper, Code.fields_block (assigned?_of_head (by decide))]
    simp [assigned?_assign]

theorem fields_globalCode (d : Declaration) (const : Bool) :
    (globalCode d const).fields =
      ("get_" ++ d.name) :: if const then [] else ["set_" ++ d.name] := by
  have closed : assigned? "end" = none := assigned?_of_head (by decide)
  rw [globalCode, Code.fields_append, Code.fields_block closed, assigned?_assign]
  cases const with
  | true => rfl
  | false =>
      rw [if_neg Bool.false_ne_true, Code.fields_block closed, assigned?_assign]
      rfl

theorem fields_memberCode {store : Store} {d : Declaration} {code : Code}
    (written : memberCode store d = .ok code) : code.fields = fieldsOf d := by
  have closed : assigned? "\x7d" = none := assigned?_of_head (by decide)
  unfold memberCode at written
  unfold fieldsOf
  cases body : d.body with
  | function f =>
      simp only [body] at written ⊢
      cases written
      exact fields_functionCode store d f
  | record kind incomplete members =>
      simp only [body] at written ⊢
      cases written
      rw [Code.fields_line, assigned?_assign]
      rfl
  | enumeration incomplete constants =>
      simp only [body] at written ⊢
      obtain ⟨rows, -, finished⟩ := bind_eq_ok.mp written
      cases finished
      rw [Code.fields_block closed, assigned?_assign]
      rfl
  | interface incomplete superclass methods =>
      simp only [body] at written ⊢
      cases written
      unfold classCode
      rw [Code.fields_block closed, assigned?_assign]
      rfl
  | typedef underlying =>
      simp only [body] at written ⊢
      cases written
      rw [Code.fields_line, assigned?_assign]
      rfl
  | «global» type const exposesAddress =>
      simp only [body] at written ⊢
      cases written
      exact fields_globalCode d const
  | constant rawType value =>
      simp only [body] at written ⊢
      obtain ⟨text, -, finished⟩ := bind_eq_ok.mp written
      cases finished
      rw [Code.fields_line, assigned?_assign]
      rfl

/-- The fields of `M` that lines of definitions declare. -/
def declaredFields (lines : List String) : List String :=
  lines.filterMap fun text => (declared? text).map Prod.fst

theorem declaredFields_append (front back : List String) :
    declaredFields (front ++ back) = declaredFields front ++ declaredFields back :=
  List.filterMap_append

theorem declaredFields_eq_nil {lines : List String}
    (none_declared : ∀ text ∈ lines, declared? text = none) : declaredFields lines = [] :=
  List.filterMap_eq_nil_iff.mpr fun text member => by rw [none_declared text member, Option.map_none]

theorem declared?_dash {text : String} (dash : text.toList.head? = some '-') :
    declared? text = none :=
  declared?_of_head (by rw [dash]; decide) (by rw [dash]; decide)

namespace StubContext

variable (c : StubContext)

theorem declared?_doc {doc line : String} (member : line ∈ c.doc doc) : declared? line = none := by
  rw [StubContext.doc] at member
  split at member
  · obtain ⟨part, -, rfl⟩ := List.mem_map.mp member
    exact declared?_dash (head?_commentLine rfl (by decide) part)
  · cases member

theorem declaredFields_doc (doc : String) : declaredFields (c.doc doc) = [] :=
  declaredFields_eq_nil fun _ => c.declared?_doc

theorem declaredFields_functionLines (d : Declaration) (f : Function) :
    declaredFields (c.functionLines d f) = [d.name] := by
  have params : declaredFields (f.allParams.map fun p =>
      "---@param " ++ localName p.name ++ " " ++ c.typeText p.type) = [] := by
    refine declaredFields_eq_nil fun line member => ?_
    obtain ⟨p, -, rfl⟩ := List.mem_map.mp member
    simp only [String.append_assoc]
    exact declared?_dash (head?_append (by decide) _)
  have result : declaredFields
      (if f.result == .void then [] else ["---@return " ++ c.typeText f.result]) = [] := by
    split_ifs
    · rfl
    · exact declaredFields_eq_nil fun line member => by
        rw [List.mem_singleton.mp member]
        exact declared?_dash (head?_append (by decide) _)
  rw [functionLines, declaredFields_append, declaredFields_append, declaredFields_append,
    declaredFields_doc, params, result]
  simp [declaredFields, declared?_functionStub]

theorem declaredFields_globalLines (d : Declaration) (type : CType) (const : Bool) :
    declaredFields (c.globalLines d type const) =
      ("get_" ++ d.name) :: if const then [] else ["set_" ++ d.name] := by
  have value : declared? ("---@return " ++ c.typeText type) = none :=
    declared?_dash (head?_append (by decide) _)
  have param : declared? ("---@param value " ++ c.typeText type) = none :=
    declared?_dash (head?_append (by decide) _)
  rw [globalLines, declaredFields_append, declaredFields_append, declaredFields_doc]
  cases const <;> simp [declaredFields, declared?_functionStub, value, param]

theorem declaredFields_memberLines {d : Declaration} {lines : List String}
    (written : c.memberLines d = .ok lines) : declaredFields lines = fieldsOf d := by
  have closed : declared? "\x7d" = none := declared?_of_head (by decide) (by decide)
  have nil (remark : String) (dash : remark.toList.head? = some '-') :
      declaredFields [remark, nilLine d.name] = [d.name] := by
    simp [declaredFields, declared?_dash dash, nilLine, declared?_assign]
  unfold memberLines at written
  unfold fieldsOf
  cases body : d.body with
  | function f =>
      simp only [body] at written ⊢
      cases written
      exact c.declaredFields_functionLines d f
  | record kind incomplete members =>
      simp only [body] at written ⊢
      cases written
      exact nil _ (by decide)
  | enumeration incomplete constants =>
      simp only [body] at written ⊢
      obtain ⟨rows, -, finished⟩ := bind_eq_ok.mp written
      cases finished
      have indented (row : String) : declared? ("    " ++ row) = none := by
        have head : ("    " ++ row).toList.head? = some ' ' := by simp
        exact declared?_of_head (by rw [head]; decide) (by rw [head]; decide)
      have nothing : declaredFields (rows.map ("    " ++ ·)) = [] :=
        declaredFields_eq_nil fun line member => by
          obtain ⟨row, -, rfl⟩ := List.mem_map.mp member
          exact indented row
      have remark : declared? ("---@enum " ++ c.moduleName ++ "." ++ d.name) = none := by
        rw [String.append_assoc, String.append_assoc]
        exact declared?_dash (head?_append (by decide) _)
      rw [declaredFields_append, declaredFields_append, declaredFields_append,
        declaredFields_doc, nothing]
      simp [declaredFields, remark, declared?_assign, closed]
  | interface incomplete superclass methods =>
      simp only [body] at written ⊢
      cases written
      rw [declaredFields_append, declaredFields_doc, List.nil_append]
      exact nil classLine (by decide +kernel)
  | typedef underlying =>
      simp only [body] at written ⊢
      cases written
      exact nil _ (by decide)
  | «global» type const exposesAddress =>
      simp only [body] at written ⊢
      cases written
      exact c.declaredFields_globalLines d type const
  | constant rawType value =>
      simp only [body] at written ⊢
      obtain ⟨text, -, finished⟩ := bind_eq_ok.mp written
      cases finished
      rw [declaredFields_append, declaredFields_doc, List.nil_append]
      exact nil _ (head?_append (by decide) text)

end StubContext

/-! The fields of a whole module, and those of its definitions. -/

theorem fields_titled (title : String) {bindings : List Binding} {lines : Code}
    (nothing : bindings = [] → lines = []) :
    (titled title bindings lines).fields = lines.fields := by
  rw [titled]
  split_ifs with none_given
  · rw [nothing (by simpa using none_given)]
  · have heading : assigned? ("-- " ++ title) = none := by
      refine assigned?_of_head ?_
      rw [head?_append (c := '-') (by decide)]
      decide
    rw [Code.fields_append, Code.fields_append, Code.blank, Code.fields_line, Code.fields_line,
      heading, assigned?_of_head (by decide)]
    rfl

theorem fields_sectionCode {store : Store} {layout : Layout} {s : Section} {code : Code}
    (written : sectionCode store layout s = .ok code) :
    code.fields = (layout.within s).flatMap fun binding => fieldsOf binding.2 := by
  obtain ⟨members, gathered, rfl⟩ := sectionCode_eq_ok.mp written
  rw [fields_titled, observe_flatten rfl Code.fields_append (fun _ _ => fields_memberCode) gathered]
  intro none_given
  rw [none_given] at gathered
  cases gathered
  rfl

theorem fields_addressCode (bindings : List Binding) : (addressCode bindings).fields = [] := by
  have none_assigned (bindings : List Binding) :
      ∀ seen, ∀ text ∈ addressLines seen bindings, assigned? text = none := by
    induction bindings with
    | nil => exact fun _ _ member => nomatch member
    | cons binding rest induction =>
        intro seen text member
        rw [addressLines] at member
        split at member
        · exact induction _ _ member
        · rcases List.mem_cons.mp member with rfl | member
          · simp only [String.append_assoc]
            exact assigned?_inner "addresses" (by decide) _ _
          · exact induction _ _ member
  rw [addressCode, fields_titled, Code.fields_ofLines (none_assigned _ _)]
  intro none_given
  rw [none_given]
  rfl

theorem fields_functionTypeCode (store : Store) (bindings : List Binding) :
    (functionTypeCode store bindings).fields = [] := by
  rw [functionTypeCode, fields_titled, Code.fields_ofLines]
  · intro text member
    obtain ⟨binding, -, written⟩ := List.mem_filterMap.mp member
    obtain ⟨f, -, rfl⟩ := Option.map_eq_some_iff.mp written
    simp only [functionTypeLine, String.append_assoc]
    exact assigned?_inner "types" (by decide) _ _
  · intro none_given
    rw [none_given]
    rfl

theorem fields_contents {store : Store} {bindings : List Binding} {sections : List Code}
    (written : Section.all.mapM (sectionCode store (Layout.of bindings)) = .ok sections) :
    (contents store bindings sections).fields.Perm
      ((Layout.of bindings).exposed.flatMap Candidate.fields) := by
  have ending : Code.fields (Code.ofLines ["", "return M"]) = [] := by decide
  rw [contents, Code.fields_append, Code.fields_append, Code.fields_append, fields_addressCode,
    fields_functionTypeCode, ending,
    observe_flatten rfl Code.fields_append (fun _ _ => fields_sectionCode) written]
  simpa using (Layout.of bindings).perm_within

namespace StubContext

variable (c : StubContext)

/-- All up to the fields. -/
def opening (bindings : List Binding) : List String :=
  ["---@meta", "-- LuaCATS type definitions for " ++ c.moduleName,
      "-- Auto-generated, do not edit", ""] ++
    c.records bindings ++ c.aliases bindings ++
    ["---@class " ++ c.moduleName, "---@field addresses table<string, ffi.cdata*>",
      "---@field types table<string, ffi.ctype*>", "local M = \x7b\x7d", ""]

theorem lines_eq_ok {c : StubContext} {bindings : List Binding} {lines : List String} :
    c.lines bindings = .ok lines ↔
      ∃ sections, order.mapM (c.sectionLines (Layout.of bindings)) = .ok sections ∧
        lines = c.opening bindings ++ (sections.flatten ++ ["return M"]) := by
  rw [StubContext.lines]
  simp only [bind_eq_ok, opening, List.append_assoc]
  constructor
  · rintro ⟨sections, written, finished⟩
    cases finished
    exact ⟨sections, written, rfl⟩
  · rintro ⟨sections, written, rfl⟩
    exact ⟨sections, written, rfl⟩

theorem sectionLines_eq_ok {c : StubContext} {layout : Layout} {s : Section}
    {lines : List String} : c.sectionLines layout s = .ok lines ↔
      ∃ parts, (layout.within s).mapM (fun binding => c.memberLines binding.2) = .ok parts ∧
        lines = parts.flatMap (· ++ [""]) := by
  rw [sectionLines]
  simp only [bind_eq_ok]
  constructor
  · rintro ⟨parts, written, finished⟩
    cases finished
    exact ⟨parts, written, rfl⟩
  · rintro ⟨parts, written, rfl⟩
    exact ⟨parts, written, rfl⟩

theorem declared?_empty : declared? "" = none := declared?_of_head (by decide) (by decide)

theorem declaredFields_separated (parts : List (List String)) :
    declaredFields (parts.flatMap (· ++ [""])) = declaredFields parts.flatten := by
  have separator : declaredFields [""] = [] := declaredFields_eq_nil fun text member => by
    rw [List.mem_singleton.mp member, declared?_empty]
  induction parts with
  | nil => rfl
  | cons part rest induction =>
      rw [List.flatMap_cons, List.flatten_cons, declaredFields_append, declaredFields_append,
        declaredFields_append, separator, List.append_nil, induction]

theorem declaredFields_sectionLines {layout : Layout} {s : Section} {lines : List String}
    (written : c.sectionLines layout s = .ok lines) :
    declaredFields lines = (layout.within s).flatMap fun binding => fieldsOf binding.2 := by
  obtain ⟨parts, gathered, rfl⟩ := sectionLines_eq_ok.mp written
  rw [declaredFields_separated,
    observe_flatten rfl declaredFields_append (fun _ _ => c.declaredFields_memberLines) gathered]

theorem declaredFields_records (bindings : List Binding) :
    declaredFields (c.records bindings) = [] := by
  refine declaredFields_eq_nil fun text member => ?_
  obtain ⟨binding, -, member⟩ := List.mem_flatMap.mp member
  split at member
  · rcases List.mem_append.mp member with member | member
    · rw [recordLines, List.mem_append, List.mem_cons] at member
      rcases member with member | rfl | member
      · exact c.declared?_doc member
      · simp only [String.append_assoc]
        exact declared?_dash (head?_append (by decide) _)
      · obtain ⟨m, -, rfl⟩ := List.mem_map.mp member
        simp only [String.append_assoc]
        exact declared?_dash (head?_append (by decide) _)
    · rw [List.mem_singleton.mp member, declared?_empty]
  · cases member

theorem declaredFields_aliases (bindings : List Binding) :
    declaredFields (c.aliases bindings) = [] := by
  refine declaredFields_eq_nil fun text member => ?_
  obtain ⟨binding, -, member⟩ := List.mem_flatMap.mp member
  split at member
  · split at member
    · cases member
    · rcases List.mem_cons.mp member with rfl | member
      · simp only [aliasLine, String.append_assoc]
        exact declared?_dash (head?_append (by decide) _)
      · rw [List.mem_singleton.mp member, declared?_empty]
  · cases member

theorem declaredFields_opening (bindings : List Binding) :
    declaredFields (c.opening bindings) = [] := by
  have title : declared? ("-- LuaCATS type definitions for " ++ c.moduleName) = none :=
    declared?_dash (head?_append (by decide) _)
  have table : declared? ("---@class " ++ c.moduleName) = none :=
    declared?_dash (head?_append (by decide) _)
  have front : declaredFields ["---@meta", "-- LuaCATS type definitions for " ++ c.moduleName,
      "-- Auto-generated, do not edit", ""] = [] := by
    refine declaredFields_eq_nil ?_
    simp only [List.forall_mem_cons]
    exact ⟨declared?_dash (by decide), title, declared?_dash (by decide), declared?_empty, nofun⟩
  have back : declaredFields ["---@class " ++ c.moduleName,
      "---@field addresses table<string, ffi.cdata*>",
      "---@field types table<string, ffi.ctype*>", "local M = \x7b\x7d", ""] = [] := by
    refine declaredFields_eq_nil ?_
    simp only [List.forall_mem_cons]
    exact ⟨table, declared?_dash (by decide +kernel), declared?_dash (by decide +kernel),
      declared?_of_head (by decide) (by decide), declared?_empty, nofun⟩
  rw [opening, declaredFields_append, declaredFields_append, declaredFields_append, front,
    c.declaredFields_records, c.declaredFields_aliases, back]
  rfl

theorem order_perm : order.Perm Section.all := by decide

theorem declaredFields_lines {bindings : List Binding} {lines : List String}
    (written : c.lines bindings = .ok lines) :
    (declaredFields lines).Perm ((Layout.of bindings).exposed.flatMap Candidate.fields) := by
  obtain ⟨sections, gathered, rfl⟩ := lines_eq_ok.mp written
  have ending : declaredFields ["return M"] = [] := by decide
  rw [declaredFields_append, declaredFields_append, declaredFields_opening, ending,
    observe_flatten rfl declaredFields_append (fun _ _ => c.declaredFields_sectionLines) gathered,
    List.nil_append, List.append_nil]
  exact (order_perm.flatMap_right _).trans (Layout.of bindings).perm_within

/-- The kinds of constants that there are types for. -/
def constantKinds : List String := ["int", "double", "string"]

theorem exists_constantType {rawType : String} (known : rawType ∈ constantKinds) :
    ∃ type, constantType rawType = .ok type := by
  simp only [constantKinds, List.mem_cons, List.not_mem_nil, or_false] at known
  rcases known with rfl | rfl | rfl <;> exact ⟨_, rfl⟩

def KnownKind (d : Declaration) : Prop :=
  ∀ rawType value, d.body = .constant rawType value → rawType ∈ constantKinds

theorem exists_memberLines {store : Store} {d : Declaration} (known : KnownKind d) {code : Code}
    (written : memberCode store d = .ok code) : ∃ lines, c.memberLines d = .ok lines := by
  unfold memberCode at written
  unfold memberLines
  cases body : d.body with
  | enumeration incomplete constants =>
      simp only [body] at written ⊢
      obtain ⟨rows, gathered, -⟩ := bind_eq_ok.mp written
      exact ⟨_, by rw [enumLines, gathered]; rfl⟩
  | constant rawType value =>
      obtain ⟨type, found⟩ := exists_constantType (known rawType value body)
      exact ⟨_, by simp only [found]; rfl⟩
  | function f => exact ⟨_, rfl⟩
  | record kind incomplete members => exact ⟨_, rfl⟩
  | interface incomplete superclass methods => exact ⟨_, rfl⟩
  | typedef underlying => exact ⟨_, rfl⟩
  | «global» type const exposesAddress => exact ⟨_, rfl⟩

theorem exists_lines {store : Store} {bindings : List Binding} {sections : List Code}
    (known : ∀ binding ∈ bindings, KnownKind binding.2)
    (written : Section.all.mapM (sectionCode store (Layout.of bindings)) = .ok sections) :
    ∃ lines, c.lines bindings = .ok lines := by
  obtain ⟨parts, gathered⟩ : ∃ parts,
      order.mapM (c.sectionLines (Layout.of bindings)) = .ok parts := by
    refine exists_mapM fun s _ => ?_
    obtain ⟨parts, gathered⟩ : ∃ parts, ((Layout.of bindings).within s).mapM
        (fun binding => c.memberLines binding.2) = .ok parts := by
      refine exists_mapM fun binding granted => ?_
      obtain ⟨code, own, -⟩ := exists_memberCode written granted
      exact c.exists_memberLines (known binding (Layout.mem_of_within granted).1) own
    exact ⟨_, sectionLines_eq_ok.mpr ⟨parts, gathered, rfl⟩⟩
  exact ⟨_, lines_eq_ok.mpr ⟨parts, gathered, rfl⟩⟩

/-- What a granted binding gives stands in the definitions as a whole. -/
theorem exists_memberLines_within {bindings : List Binding} {lines : List String}
    (written : c.lines bindings = .ok lines) {s : Section} {binding : Binding}
    (granted : binding ∈ (Layout.of bindings).within s) :
    ∃ own, c.memberLines binding.2 = .ok own ∧ own <:+: lines := by
  obtain ⟨sections, gathered, rfl⟩ := lines_eq_ok.mp written
  have listed : s ∈ order := order_perm.mem_iff.mpr s.mem_all
  obtain ⟨part, held, own⟩ := exists_result_of_mapM gathered listed
  obtain ⟨parts, collected, rfl⟩ := sectionLines_eq_ok.mp own
  obtain ⟨single, member, read⟩ := exists_result_of_mapM collected granted
  have inPart : single ++ [""] <:+: parts.flatMap (· ++ [""]) := by
    rw [List.flatMap_def]
    exact List.infix_of_mem_flatten (List.mem_map_of_mem member)
  have inLines : sections.flatten <:+:
      c.opening bindings ++ (sections.flatten ++ ["return M"]) :=
    ⟨c.opening bindings, ["return M"], by rw [List.append_assoc]⟩
  exact ⟨single, read, (List.prefix_append single [""]).isInfix.trans <|
    inPart.trans <| (List.infix_of_mem_flatten held).trans inLines⟩

end StubContext

/-- The names of a function's parameters as a Lua function has them. -/
def parameterNames (f : Function) : List String := f.allParams.map fun p => localName p.name

/-- A module, from its fields on, and definitions for editors that say the same of them:
the same fields, each once, the same tables of constants row by row, the same parameters,
and no setter for what is constant. -/
structure Agreement (bindings : List Binding) (code : Code) (lines : List String) : Prop where
  fields : code.fields.Perm (declaredFields lines)
  once : (declaredFields lines).Nodup
  tables : ∀ binding incomplete constants,
    binding ∈ (Layout.of bindings).within .enums →
    binding.2.body = .enumeration incomplete constants →
    ∃ rows, constants.mapM enumLine = .ok rows ∧
      Code.block (assign binding.2.name "\x7b") "\x7d" (Code.ofLines rows) <:+: code ∧
      assign binding.2.name "\x7b" :: (rows.map ("    " ++ ·) ++ ["\x7d"]) <:+: lines
  parameters : ∀ binding f, binding ∈ (Layout.of bindings).within .functions →
    binding.2.body = .function f →
    (f.extra ≠ [] →
      ⟨0, assign binding.2.name ("function(" ++ commas (parameterNames f) ++ ")")⟩ ∈ code) ∧
      StubContext.functionStub binding.2.name (parameterNames f) ∈ lines
  accessors : ∀ binding type const exposesAddress,
    binding ∈ (Layout.of bindings).within .globals →
    binding.2.body = .global type const exposesAddress →
    ("get_" ++ binding.2.name ∈ code.fields ∧ "get_" ++ binding.2.name ∈ declaredFields lines) ∧
      ("set_" ++ binding.2.name ∈ code.fields ↔ const = false) ∧
      ("set_" ++ binding.2.name ∈ declaredFields lines ↔ const = false)

theorem mem_globals_fields {bindings : List Binding} {binding : Binding} {type : CType}
    {const exposesAddress : Bool} (granted : binding ∈ (Layout.of bindings).within .globals)
    (body : binding.2.body = .global type const exposesAddress) {fields : List String}
    (all : fields.Perm ((Layout.of bindings).exposed.flatMap Candidate.fields)) :
    "get_" ++ binding.2.name ∈ fields ∧ ("set_" ++ binding.2.name ∈ fields ↔ const = false) := by
  obtain ⟨-, -, exposed⟩ := Layout.mem_of_within granted
  have granting := Layout.granting_of bindings
  have own : Candidate.fields ⟨.globals, binding⟩ =
      ("get_" ++ binding.2.name) :: if const then [] else ["set_" ++ binding.2.name] := by
    rw [Candidate.fields, fieldsOf, body]
  have getter : "get_" ++ binding.2.name ∈ Candidate.names ⟨.globals, binding⟩ := by
    simp [Candidate.names, Section.needs]
  have setter : "set_" ++ binding.2.name ∈ Candidate.names ⟨.globals, binding⟩ := by
    simp [Candidate.names, Section.needs]
  rw [all.mem_iff, all.mem_iff, Layout.mem_fields_iff granting exposed getter,
    Layout.mem_fields_iff granting exposed setter, own]
  cases const <;> simp [Ne.symm (getter_ne_setter binding.2.name)]

section

variable {c : StubContext} {bindings : List Binding} {sections : List Code}
  {lines : List String}

theorem contents_of_sections {code : Code} (within : code <:+: sections.flatten) :
    code <:+: contents c.store bindings sections := by
  refine within.trans (List.IsPrefix.isInfix ?_)
  rw [contents, List.append_assoc, List.append_assoc]
  exact List.prefix_append _ _

theorem agreement (written : Section.all.mapM (sectionCode c.store (Layout.of bindings)) =
    .ok sections) (declared : c.lines bindings = .ok lines) :
    Agreement bindings (contents c.store bindings sections) lines where
  fields := (fields_contents written).trans (c.declaredFields_lines declared).symm
  once := by
    have granting := Layout.granting_of bindings
    exact (c.declaredFields_lines declared).nodup_iff.mpr
      (granting.nodup.sublist (Layout.fields_sublist_taken granting.admitted))
  tables := by
    intro binding incomplete constants granted body
    obtain ⟨code, own, inCode⟩ := exists_memberCode written granted
    obtain ⟨stub, read, inLines⟩ := c.exists_memberLines_within declared granted
    simp only [memberCode, body] at own
    simp only [StubContext.memberLines, body] at read
    obtain ⟨rows, gathered, finished⟩ := bind_eq_ok.mp own
    cases finished
    rw [StubContext.enumLines, gathered] at read
    cases read
    refine ⟨rows, gathered, contents_of_sections inCode, List.IsInfix.trans ?_ inLines⟩
    exact ⟨c.doc binding.2.doc ++ ["---@enum " ++ c.moduleName ++ "." ++ binding.2.name], [],
      by simp⟩
  parameters := by
    intro binding f granted body
    obtain ⟨code, own, inCode⟩ := exists_memberCode written granted
    obtain ⟨stub, read, inLines⟩ := c.exists_memberLines_within declared granted
    simp only [memberCode, body] at own
    simp only [StubContext.memberLines, body] at read
    cases own
    cases read
    refine ⟨fun further => (contents_of_sections inCode).mem ?_, inLines.mem ?_⟩
    · simp [functionCode, further, wrapper, Code.block, Code.line, parameterNames,
        Function.allParams]
    · simp [StubContext.functionLines, parameterNames]
  accessors := by
    intro binding type const exposesAddress granted body
    obtain ⟨getter, setter⟩ := mem_globals_fields granted body (fields_contents written)
    obtain ⟨getterDeclared, setterDeclared⟩ :=
      mem_globals_fields granted body (c.declaredFields_lines declared)
    exact ⟨⟨getter, getterDeclared⟩, setter, setterDeclared⟩

def logContext : StubContext := ⟨logStore, "log", true⟩

end

end LuaBinder.LuaModule
