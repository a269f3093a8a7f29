import LuaBinder.Proofs.LuaModule.Agreement
import LuaBinder.Proofs.LuaModule.Symbols

namespace LuaBinder.LuaModule

/-! What a module assigns in its table, and in the tables of addresses and types in it. -/

/-- The field of a table that a line gives a value. -/
def assignedIn? (table text : String) : Option String :=
  match readField? table text.toList with
  | some (key, rest) => (after? " = ".toList rest).map fun _ => key
  | none => none

example : assignedIn? "M.types" "M.types[\"end\"] = ffi.typeof(\"int\")" = some "end" := by decide

theorem assignedIn?_module (text : String) :
    assignedIn? "M" text = (assigned? text).map Prod.fst := by
  rw [assignedIn?, assigned?]
  cases readField? "M" text.toList with
  | none => rfl
  | some read => simp [Option.map_map, Function.comp_def]

theorem assignedIn?_of_unread {table text : String} (unread : readField? table text.toList = none) :
    assignedIn? table text = none := by
  rw [assignedIn?, unread]

theorem assignedIn?_field (table key text : String) :
    assignedIn? table (field table key ++ " = " ++ text) = some key := by
  have written : (field table key ++ " = " ++ text).toList =
      (field table key).toList ++ (" = ".toList ++ text.toList) := by
    rw [String.toList_append, String.toList_append, List.append_assoc]
  rw [assignedIn?, written, readField?_field table key (nameEnds_assignment _)]
  simp [after?]

theorem after?_append_front (front more text : List Char) :
    after? (front ++ more) text = (after? front text).bind (after? more) := by
  induction front generalizing text with
  | nil => rfl
  | cons c front induction =>
      cases text with
      | nil => rfl
      | cons d text =>
          simp only [List.cons_append, after?]
          split_ifs
          · exact induction text
          · rfl

theorem readField?_inner (inner : String) (text : List Char) :
    readField? ("M." ++ inner) text =
      (after? ['M', '.'] text).bind fun rest => (after? inner.toList rest).bind readKey? := by
  have written : ("M." ++ inner).toList = ['M', '.'] ++ inner.toList := by simp
  rw [readField?, written, after?_append_front]
  cases after? ['M', '.'] text <;> rfl

/-- A line that touches no field of `M` or of a table in it. -/
def Foreign (text : String) : Prop :=
  ∀ table ∈ ["M", "M.addresses", "M.types"], readField? table text.toList = none

theorem foreign_of_head {text : String} (other : text.toList.head? ≠ some 'M') : Foreign text := by
  intro table listed
  refine readField?_of_head (c := 'M') ?_ other
  revert table
  decide

theorem foreign_append {front : String} {c : Char} (head : front.toList.head? = some c)
    (other : c ≠ 'M') (text : String) : Foreign (front ++ text) :=
  foreign_of_head (by rw [head?_append head]; simpa using other)

theorem foreign_row (key text : String) : Foreign (tableKey key ++ " = " ++ text) := by
  unfold tableKey
  split_ifs with identifier
  · have written : (key ++ " = " ++ text).toList = key.toList ++ ' ' :: ("= " ++ text).toList := by
      simp
    have plain : after? ['M', '.'] (key.toList ++ ' ' :: ("= " ++ text).toList) = none := by
      by_contra found
      obtain ⟨rest, found⟩ := Option.ne_none_iff_exists'.mp found
      have same : key.toList ++ ' ' :: ("= " ++ text).toList = ['M'] ++ '.' :: rest := by
        simpa using after?_eq_some found
      obtain ⟨-, blank⟩ := split_name (isIdentifier_chars identifier) (by decide) (by decide)
        (by decide) same
      cases blank
    have inner (table : String) :
        readField? ("M." ++ table) (key.toList ++ ' ' :: ("= " ++ text).toList) = none := by
      rw [readField?_inner, plain]
      rfl
    rw [Foreign, written]
    simp only [List.forall_mem_cons]
    exact ⟨readKey?_after_name identifier (by decide) _, inner "addresses", inner "types", nofun⟩
  · exact foreign_of_head (by simp)

/-- An assignment in `M` itself is none in a table that it holds. -/
theorem readField?_inner_assign {inner : String} (names : inner.toList.all isNameChar = true)
    (key text : String) : readField? ("M." ++ inner) (assign key text).toList = none := by
  rw [readField?_inner, assign, field]
  split_ifs with identifier
  · have written : ("M" ++ "." ++ key ++ " = " ++ text).toList =
        ['M', '.'] ++ (key.toList ++ ' ' :: ("= " ++ text).toList) := by simp
    rw [written, after?_append]
    exact readKey?_after_name identifier names _
  · have written : ("M" ++ "[" ++ string key ++ "]" ++ " = " ++ text).toList =
        'M' :: '[' :: ((string key).toList ++ ']' :: (" = " ++ text).toList) := by simp
    rw [written]
    rfl

namespace Code

/-- The fields of a table that lines give a value, one after the other. -/
def assigned (table : String) (code : Code) : List String :=
  code.filterMap fun line => assignedIn? table line.text

/-- The lines in Lua. What stands in the brackets behind `ffi.cdef` is C. -/
def lua (code : Code) : Code :=
  code.takeWhile (fun line => line.text != "ffi.cdef[=[") ++
    code.dropWhile (fun line => line.text != "]=]")

variable (table : String)

@[simp] theorem assigned_append (front back : Code) :
    assigned table (front ++ back) = assigned table front ++ assigned table back :=
  List.filterMap_append

@[simp] theorem assigned_ofLines (texts : List String) :
    assigned table (ofLines texts) = texts.filterMap (assignedIn? table) := by
  induction texts with
  | nil => rfl
  | cons text rest induction =>
      have first : ofLines (text :: rest) = line text ++ ofLines rest := rfl
      rw [first, assigned_append, induction, line, assigned, List.filterMap_cons]
      cases found : assignedIn? table text <;> simp [found]

/-- What holds of the text of each line. -/
def All (holds : String → Prop) (code : Code) : Prop := ∀ line ∈ code, holds line.text

section

variable {holds : String → Prop}

theorem all_nil : All holds [] := List.forall_mem_nil _

theorem all_line {text : String} (own : holds text) : All holds (line text) :=
  List.forall_mem_singleton.mpr own

theorem all_ofLines {texts : List String} (each : ∀ text ∈ texts, holds text) :
    All holds (ofLines texts) := by
  intro line member
  obtain ⟨text, listed, rfl⟩ := mem_ofLines.mp member
  exact each text listed

theorem All.append {front back : Code} (first : front.All holds) (second : back.All holds) :
    All holds (front ++ back) :=
  List.forall_mem_append.mpr ⟨first, second⟩

theorem All.nest {code : Code} (all : code.All holds) (depth : Nat) :
    All holds (Code.nest depth code) := by
  intro line member
  obtain ⟨inner, listed, rfl⟩ := List.mem_map.mp member
  exact all inner listed

theorem All.block {body : Code} (all : body.All holds) {header footer : String}
    (opened : holds header) (closed : holds footer) : All holds (Code.block header footer body) :=
  ((all_line opened).append (all.nest 1)).append (all_line closed)

end

/-- Each line assigns a field of `M`, and then stands at the outermost depth, or touches no
field. -/
def Plain (code : Code) : Prop :=
  ∀ line ∈ code, (line.depth = 0 ∧ ∃ key text, line.text = assign key text) ∨ Foreign line.text

theorem All.plain {code : Code} (foreign : code.All Foreign) : code.Plain :=
  fun line member => .inr (foreign line member)

theorem Plain.append {front back : Code} (first : front.Plain) (second : back.Plain) :
    Plain (front ++ back) :=
  List.forall_mem_append.mpr ⟨first, second⟩

theorem plain_assign (key text : String) : Plain (line (assign key text)) :=
  List.forall_mem_singleton.mpr (.inl ⟨rfl, key, text, rfl⟩)

theorem All.held {body : Code} (foreign : body.All Foreign) {footer : String}
    (closed : Foreign footer) (key text : String) :
    Plain (Code.block (assign key text) footer body) :=
  ((plain_assign key text).append (foreign.nest 1).plain).append (all_line closed).plain

theorem all_foreign_comment (text : String) : All Foreign (comment "--" text) := by
  refine all_ofLines fun line member => ?_
  obtain ⟨part, -, rfl⟩ := List.mem_map.mp member
  exact foreign_of_head (by rw [head?_commentLine rfl (by decide)]; decide)

theorem Plain.assigned_module {code : Code} (plain : code.Plain) :
    assigned "M" code = code.fields := by
  refine List.filterMap_congr fun line member => ?_
  rcases plain line member with ⟨outermost, -⟩ | foreign
  · rw [if_pos outermost, assignedIn?_module]
  · rw [← assignedIn?_module, assignedIn?_of_unread (foreign "M" (by decide)), ite_self]

theorem Plain.assigned_inner {code : Code} (plain : code.Plain) {table : String}
    (held : table ∈ ["M.addresses", "M.types"]) : assigned table code = [] := by
  refine List.filterMap_eq_nil_iff.mpr fun line member => assignedIn?_of_unread ?_
  rcases plain line member with ⟨-, key, text, written⟩ | foreign
  · obtain ⟨inner, rfl, names⟩ : ∃ inner, table = "M." ++ inner ∧
        inner.toList.all isNameChar = true := by
      simp only [List.mem_cons, List.not_mem_nil, or_false] at held
      rcases held with rfl | rfl
      · exact ⟨"addresses", by decide⟩
      · exact ⟨"types", by decide⟩
    rw [written]
    exact readField?_inner_assign names key text
  · exact foreign table (List.mem_cons_of_mem "M" held)

end Code

open Code

/-! What each part of a module assigns. -/

theorem foreign_end : Foreign "end" := foreign_of_head (by decide)

theorem foreign_brace : Foreign "\x7d" := foreign_of_head (by decide)

theorem plain_functionCode (store : Store) (d : Declaration) (f : Function) :
    Plain (functionCode store d f) := by
  have doc : All Foreign (if d.doc == "" then [] else Code.comment "--" d.doc) := by
    split_ifs
    · exact all_nil
    · exact all_foreign_comment d.doc
  rw [functionCode]
  refine doc.plain.append ?_
  split_ifs
  · exact plain_assign d.name _
  · refine All.held (all_line ?_) foreign_end d.name _
    simp only [String.append_assoc]
    exact foreign_append (c := 'r') (by decide) (by decide) _

theorem plain_globalCode (d : Declaration) (const : Bool) : Plain (globalCode d const) := by
  have returned : Foreign ("return " ++ field "C" d.nativeName) :=
    foreign_append (c := 'r') (by decide) (by decide) _
  have set : Foreign (field "C" d.nativeName ++ " = value") := by
    refine foreign_of_head ?_
    rw [String.toList_append, head?_field "C" d.nativeName rfl]
    decide
  rw [globalCode]
  refine (All.held (all_line returned) foreign_end _ _).append ?_
  cases const with
  | true => exact List.forall_mem_nil _
  | false => exact All.held (all_line set) foreign_end _ _

theorem all_foreign_rows {rows : List String}
    (keyed : ∀ row ∈ rows, ∃ key text, row = tableKey key ++ " = " ++ text) :
    All Foreign (ofLines rows) := by
  refine all_ofLines fun row member => ?_
  obtain ⟨key, text, rfl⟩ := keyed row member
  exact foreign_row key text

theorem all_foreign_methodTable (title : String) {c : Char} (head : title.toList.head? = some c)
    (other : c ≠ 'M') (methods : List Method) : All Foreign (methodTable title methods) := by
  refine All.block (all_foreign_rows fun row member => ?_) (foreign_append head other _)
    (foreign_of_head (by decide))
  obtain ⟨m, -, rfl⟩ := List.mem_map.mp member
  exact ⟨m.name, string m.selector ++ ",", by simp only [String.append_assoc]⟩

theorem plain_classCode (store : Store) (d : Declaration) (superclass : Option String)
    (methods : List Method) : Plain (classCode store d superclass methods) := by
  have named (front text : String) {c : Char} (head : front.toList.head? = some c)
      (other : c ≠ 'M') : All Foreign (Code.line (front ++ text ++ ",")) := by
    rw [String.append_assoc]
    exact all_line (foreign_append head other _)
  have instances := all_foreign_methodTable "instance_methods" (c := 'i') (by decide) (by decide)
  have classes := all_foreign_methodTable "class_methods" (c := 'c') (by decide) (by decide)
  have own := named "name = " (string d.nativeName) (c := 'n') (by decide) (by decide)
  refine All.held (((own.append ?_).append (instances _)).append (classes _)) foreign_brace _ _
  cases superclass with
  | none => exact all_nil
  | some key => exact named _ _ (c := 's') (by decide) (by decide)

theorem plain_memberCode {store : Store} {d : Declaration} {code : Code}
    (written : memberCode store d = .ok code) : Plain code := by
  unfold memberCode at written
  cases body : d.body with
  | function f =>
      simp only [body] at written
      cases written
      exact plain_functionCode store d f
  | record kind incomplete members =>
      simp only [body] at written
      cases written
      exact plain_assign _ _
  | typedef underlying =>
      simp only [body] at written
      cases written
      exact plain_assign _ _
  | «global» type const exposesAddress =>
      simp only [body] at written
      cases written
      exact plain_globalCode d const
  | interface incomplete superclass methods =>
      simp only [body] at written
      cases written
      exact plain_classCode store d superclass methods
  | enumeration incomplete constants =>
      simp only [body] at written
      obtain ⟨rows, gathered, finished⟩ := bind_eq_ok.mp written
      cases finished
      refine All.held (all_foreign_rows fun row member => ?_) foreign_brace _ _
      obtain ⟨c, -, written⟩ := exists_of_mem_mapM gathered member
      obtain ⟨text, -, finished⟩ := bind_eq_ok.mp written
      cases finished
      exact ⟨c.name, text ++ ",", by rw [String.append_assoc]⟩
  | constant rawType scalar =>
      simp only [body] at written
      obtain ⟨text, -, finished⟩ := bind_eq_ok.mp written
      cases finished
      exact plain_assign _ _

theorem all_foreign_heading (title : String) :
    All Foreign (Code.blank ++ Code.line ("-- " ++ title)) :=
  (all_line (foreign_of_head (by decide))).append
    (all_line (foreign_append (c := '-') (by decide) (by decide) title))

theorem plain_sections {store : Store} {layout : Layout} {sections : List Code}
    (written : Section.all.mapM (sectionCode store layout) = .ok sections) :
    Plain sections.flatten := by
  intro line member
  obtain ⟨code, listed, member⟩ := List.mem_flatten.mp member
  obtain ⟨s, -, own⟩ := exists_of_mem_mapM written listed
  obtain ⟨members, gathered, rfl⟩ := sectionCode_eq_ok.mp own
  refine (show Plain (titled s.title (layout.within s) members.flatten) from ?_) line member
  rw [titled]
  split_ifs
  · exact List.forall_mem_nil _
  · refine (all_foreign_heading s.title).plain.append fun line member => ?_
    obtain ⟨part, held, member⟩ := List.mem_flatten.mp member
    obtain ⟨binding, -, single⟩ := exists_of_mem_mapM gathered held
    exact plain_memberCode single line member

theorem assigned_titled (table title : String) {bindings : List Binding} {lines : Code}
    (nothing : bindings = [] → lines = []) (listed : table ∈ ["M", "M.addresses", "M.types"]) :
    assigned table (titled title bindings lines) = assigned table lines := by
  rw [titled]
  split_ifs with none_given
  · rw [nothing (by simpa using none_given)]
  · have heading : assigned table (Code.blank ++ Code.line ("-- " ++ title)) = [] :=
      List.filterMap_eq_nil_iff.mpr fun line member =>
        assignedIn?_of_unread (all_foreign_heading title line member table listed)
    rw [assigned_append, heading, List.nil_append]

/-! The lines behind the sections each assign one field of a table in `M`. -/

theorem assignedIn?_entry {table other : String} (held : table ∈ ["M.addresses", "M.types"])
    (listed : other ∈ ["M", "M.addresses", "M.types"]) (key text : String) :
    assignedIn? other (field table key ++ " = " ++ text) =
      if other = table then some key else none := by
  split_ifs with same
  · rw [same, assignedIn?_field]
  obtain ⟨inner, written⟩ : ∃ inner, field "M" inner = table := by
    rcases List.mem_pair.mp held with rfl | rfl
    · exact ⟨"addresses", by decide⟩
    · exact ⟨"types", by decide⟩
  rw [String.append_assoc]
  rcases List.mem_cons.mp listed with rfl | listed
  · rw [assignedIn?_module, assigned?_inner inner written]
    rfl
  · obtain ⟨rest, front⟩ := exists_field table key
    refine assignedIn?_of_unread ?_
    rw [String.toList_append, front, List.append_assoc]
    rcases List.mem_pair.mp held with rfl | rfl <;> rcases List.mem_pair.mp listed with rfl | rfl
    · exact absurd rfl same
    · rfl
    · rfl
    · exact absurd rfl same

theorem assigned_entries_of_ne {table other : String} (held : table ∈ ["M.addresses", "M.types"])
    (listed : other ∈ ["M", "M.addresses", "M.types"]) (differ : other ≠ table)
    {texts : List String}
    (entries : ∀ text ∈ texts, ∃ key value, text = field table key ++ " = " ++ value) :
    assigned other (ofLines texts) = [] := by
  rw [assigned_ofLines]
  refine List.filterMap_eq_nil_iff.mpr fun text member => ?_
  obtain ⟨key, value, rfl⟩ := entries text member
  rw [assignedIn?_entry held listed, if_neg differ]

theorem addressLine_eq (key symbol : String) : addressLine key symbol =
    field "M.addresses" key ++ " = " ++ ("ffi.cast('void *', " ++ field "C" symbol ++ ")") := by
  have cast : " = ffi.cast('void *', " = " = " ++ "ffi.cast('void *', " := by decide
  simp only [addressLine, cast, String.append_assoc]

theorem functionTypeLine_eq (store : Store) (d : Declaration) (f : Function) :
    ∃ value, functionTypeLine store d f = field "M.types" d.name ++ " = " ++ value := by
  have split (text : String) : field "M.types" d.name ++ " = ffi.typeof(" ++ text ++ ")" =
      field "M.types" d.name ++ " = " ++ ("ffi.typeof(" ++ text ++ ")") := by
    have type : " = ffi.typeof(" = " = " ++ "ffi.typeof(" := by decide
    simp only [type, String.append_assoc]
  exact ⟨_, split _⟩

/-- The symbols whose addresses lines hold, each once. -/
theorem nodup_addressLines (seen : List String) (bindings : List Binding) :
    ((addressLines seen bindings).filterMap (assignedIn? "M.addresses")).Nodup ∧
      ∀ key ∈ (addressLines seen bindings).filterMap (assignedIn? "M.addresses"), key ∉ seen := by
  induction bindings generalizing seen with
  | nil => exact ⟨List.nodup_nil, List.forall_mem_nil _⟩
  | cons binding rest induction =>
      rw [addressLines]
      split_ifs with known
      · exact induction seen
      · obtain ⟨nodup, fresh⟩ := induction (binding.2.nativeName :: seen)
        have own : assignedIn? "M.addresses"
            (addressLine binding.2.nativeName (addressSymbol binding.2)) =
              some binding.2.nativeName := by
          rw [addressLine_eq, assignedIn?_field]
        rw [addressLine] at own
        rw [List.filterMap_cons_some own]
        refine ⟨List.nodup_cons.mpr ⟨fun again => fresh _ again List.mem_cons_self, nodup⟩,
          List.forall_mem_cons.mpr ⟨by simpa using known, fun key member held => ?_⟩⟩
        exact fresh key member (List.mem_cons_of_mem _ held)

theorem assigned_addressCode (bindings : List Binding) :
    assigned "M" (addressCode bindings) = [] ∧
      (assigned "M.addresses" (addressCode bindings)).Nodup ∧
      assigned "M.types" (addressCode bindings) = [] := by
  have nothing (exposed : List Binding) (none_given : exposed = []) :
      ofLines (addressLines [] exposed) = [] := by
    rw [none_given]
    rfl
  have entries (exposed : List Binding) : ∀ text ∈ addressLines [] exposed,
      ∃ key value, text = field "M.addresses" key ++ " = " ++ value := by
    intro text member
    obtain ⟨binding, -, rfl⟩ := mem_addressLines member
    exact ⟨_, _, addressLine_eq _ _⟩
  simp only [addressCode]
  rw [assigned_titled "M" _ (nothing _) (by decide),
    assigned_titled "M.addresses" _ (nothing _) (by decide),
    assigned_titled "M.types" _ (nothing _) (by decide)]
  refine ⟨assigned_entries_of_ne (by decide) (by decide) (by decide) (entries _), ?_,
    assigned_entries_of_ne (by decide) (by decide) (by decide) (entries _)⟩
  rw [assigned_ofLines]
  exact (nodup_addressLines [] _).1

/-- Functions whose types a module shows. -/
def exposesType (d : Declaration) : Bool := (d.function?.map (·.exposesType)).getD false

theorem assigned_functionTypeCode (store : Store) (bindings : List Binding) :
    assigned "M" (functionTypeCode store bindings) = [] ∧
      assigned "M.addresses" (functionTypeCode store bindings) = [] ∧
      assigned "M.types" (functionTypeCode store bindings) =
        (bindings.filter fun binding => exposesType binding.2).map fun binding =>
          binding.2.name := by
  have nothing (exposed : List Binding) (none_given : exposed = []) :
      ofLines (exposed.filterMap fun binding =>
        binding.2.function?.map (functionTypeLine store binding.2)) = [] := by
    rw [none_given]
    rfl
  have entries (exposed : List Binding) : ∀ text ∈ exposed.filterMap fun binding =>
      binding.2.function?.map (functionTypeLine store binding.2),
      ∃ key value, text = field "M.types" key ++ " = " ++ value := by
    intro text member
    obtain ⟨binding, -, function⟩ := List.mem_filterMap.mp member
    obtain ⟨f, -, rfl⟩ := Option.map_eq_some_iff.mp function
    exact ⟨_, functionTypeLine_eq store binding.2 f⟩
  simp only [functionTypeCode]
  rw [assigned_titled "M" _ (nothing _) (by decide),
    assigned_titled "M.addresses" _ (nothing _) (by decide),
    assigned_titled "M.types" _ (nothing _) (by decide)]
  refine ⟨assigned_entries_of_ne (by decide) (by decide) (by decide) (entries _),
    assigned_entries_of_ne (by decide) (by decide) (by decide) (entries _), ?_⟩
  rw [assigned_ofLines, List.filterMap_filterMap, ← List.filterMap_eq_map]
  refine List.filterMap_congr fun binding member => ?_
  have exposed := (List.mem_filter.mp member).2
  cases function : binding.2.function? with
  | none =>
      rw [function] at exposed
      cases exposed
  | some f =>
      obtain ⟨value, written⟩ := functionTypeLine_eq store binding.2 f
      rw [Option.map_some, Option.bind_some, written, assignedIn?_field]
      rfl

end LuaBinder.LuaModule
