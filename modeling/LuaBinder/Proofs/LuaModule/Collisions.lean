import LuaBinder.Proofs.LuaModule.Assignments
import LuaBinder.Proofs.LuaModule.Granting

namespace LuaBinder.LuaModule

open Code

/-! Which fields of a module are given two values. -/

/-- A line that does not close the brackets around the C declarations. -/
def Open (text : String) : Prop := text.toList.getLast? ≠ some ']'

instance (text : String) : Decidable (Open text) :=
  inferInstanceAs (Decidable (text.toList.getLast? ≠ some ']'))

theorem open_append (front : String) {back : String} {c : Char}
    (last : back.toList.getLast? = some c) (other : c ≠ ']') : Open (front ++ back) := by
  rw [Open, String.toList_append, List.getLast?_append, last]
  simpa using other

theorem open_semicolon (text : String) : Open (text ++ ";") :=
  open_append text (c := ';') (by decide) (by decide)

theorem open_forward (binding : Binding) : ∀ text ∈ forward binding, Open text := by
  intro text member
  unfold forward at member
  cases body : binding.2.body with
  | record kind incomplete members =>
      simp only [body, List.mem_singleton] at member
      exact member ▸ open_semicolon _
  | enumeration incomplete constants =>
      simp only [body] at member
      cases incomplete with
      | true =>
          rw [List.mem_singleton.mp member]
          exact open_semicolon _
      | false => cases member
  | interface incomplete superclass methods =>
      simp only [body, List.mem_singleton] at member
      exact member ▸ open_semicolon _
  | _ =>
      simp only [body] at member
      cases member

theorem open_braced (d : Declaration) {lines : List String} (each : ∀ text ∈ lines, Open text) :
    (braced d lines).All Open :=
  (all_ofLines each).block (open_append _ (c := '\x7b') (by decide) (by decide)) (by decide)

theorem open_enumConstant {c : EnumConstant} {text : String} (written : enumConstant c = .ok text) :
    Open text := by
  obtain ⟨digits, -, finished⟩ := bind_eq_ok.mp written
  cases finished
  exact open_append _ (c := ',') (by decide) (by decide)

theorem open_definition {store : Store} {seen : List String} {d : Declaration} {code : Code}
    (written : definition store seen d = .ok code) : code.All Open := by
  unfold definition at written
  split at written
  case h_1 members _ =>
    cases written
    refine open_braced d fun text member => ?_
    obtain ⟨m, -, rfl⟩ := List.mem_map.mp member
    exact open_semicolon _
  case h_3 constants _ =>
    split_ifs at written
    · cases written
      exact all_nil
    · obtain ⟨rows, gathered, rfl⟩ := map_eq_ok.mp written
      refine open_braced d fun text member => ?_
      obtain ⟨c, -, own⟩ := exists_of_mem_mapM gathered member
      exact open_enumConstant own
  case h_4 =>
    cases written
    exact all_line (open_semicolon _)
  case h_5 => cases written
  case h_6 =>
    split_ifs at written
    · cases written
      exact all_nil
    · cases written
      exact all_line (open_semicolon _)
  case h_7 type const exposesAddress _ =>
    cases written
    refine all_ofLines fun text member => ?_
    unfold globalLines at member
    cases exposesAddress with
    | true =>
        rcases List.mem_cons.mp member with rfl | member
        · exact open_semicolon _
        · rw [List.mem_singleton.mp member]
          exact open_append _ (c := ';') (by decide) (by decide)
    | false =>
        rw [List.mem_singleton.mp member]
        exact open_semicolon _
  all_goals
    cases written
    exact all_nil

theorem open_definitions {store : Store} {bindings : List Binding} {seen : List String}
    {code : Code} (written : definitions store seen bindings = .ok code) : code.All Open := by
  induction bindings generalizing seen code with
  | nil =>
      cases written
      exact all_nil
  | cons binding rest induction =>
      rw [definitions] at written
      obtain ⟨own, defined, written⟩ := bind_eq_ok.mp written
      obtain ⟨others, further, finished⟩ := bind_eq_ok.mp written
      cases finished
      exact (open_definition defined).append (induction further)

theorem open_cdef {store : Store} {bindings : List Binding} {code : Code}
    (written : cdef store bindings = .ok code) : code.All Open := by
  rw [cdef] at written
  obtain ⟨objective, -, written⟩ := bind_eq_ok.mp written
  obtain ⟨lines, gathered, finished⟩ := bind_eq_ok.mp written
  cases finished
  refine (all_ofLines (List.forall_mem_append.mpr ⟨?_, ?_⟩)).append (open_definitions gathered)
  · have names : ∀ text ∈ objectivePrelude, Open text := by decide
    split_ifs
    · exact names
    · exact List.forall_mem_nil _
  · intro text member
    obtain ⟨binding, -, member⟩ := List.mem_flatMap.mp member
    exact open_forward binding text member

/-- What stands in front of the C declarations, and right behind them. -/
def heading : List String :=
  ["-- machine generated, do not edit", "local ffi = require('ffi')", ""]

def preamble (library : String) : List String :=
  ["]=]", "", library, "", "local M = \x7b\x7d", "M.addresses = \x7b\x7d", "M.types = \x7b\x7d"]

theorem lua_opening {declarations : Code} (inside : declarations.All Open) (library : String)
    (rest : Code) :
    (opening declarations library ++ rest).lua =
      ofLines heading ++ (ofLines (preamble library) ++ rest) := by
  have apart : ∀ line ∈ declarations, (line.text != "]=]") = true := by
    intro line member
    have last := inside line member
    simp only [bne_iff_ne, ne_eq]
    rintro closing
    rw [Open, closing] at last
    exact last (by decide)
  have written : opening declarations library ++ rest =
      ofLines heading ++ (line "ffi.cdef[=[" ++ (declarations ++
        (ofLines (preamble library) ++ rest))) := by
    simp [opening, heading, preamble, ofLines, line]
  rw [written, lua]
  congr 1
  simp only [heading, ofLines, line, preamble, List.flatMap_cons, List.flatMap_nil,
    List.cons_append, List.nil_append]
  repeat rw [List.dropWhile_cons_of_pos (by decide)]
  rw [List.dropWhile_append_of_pos apart, List.dropWhile_cons_of_neg (by decide)]

theorem foreign_libraryLine {native : Native} {library : String}
    (loaded : libraryLine native = .ok library) : Foreign library := by
  unfold libraryLine at loaded
  split_ifs at loaded
  · obtain ⟨text, -, finished⟩ := bind_eq_ok.mp loaded
    cases finished
    rw [String.append_assoc]
    exact foreign_append (c := 'l') (by decide) (by decide) _
  · cases loaded
    exact foreign_of_head (by decide)

theorem assigned_preamble {library : String} (foreign : Foreign library) :
    (preamble library).filterMap (assignedIn? "M") = ["addresses", "types"] ∧
      (preamble library).filterMap (assignedIn? "M.addresses") = [] ∧
      (preamble library).filterMap (assignedIn? "M.types") = [] := by
  have split : preamble library = ["]=]", ""] ++ (library :: ["", "local M = \x7b\x7d",
      "M.addresses = \x7b\x7d", "M.types = \x7b\x7d"]) := rfl
  have unread (table : String) (listed : table ∈ ["M", "M.addresses", "M.types"]) :
      assignedIn? table library = none := assignedIn?_of_unread (foreign table listed)
  simp only [split, List.filterMap_append, List.filterMap_cons_none (unread "M" (by decide)),
    List.filterMap_cons_none (unread "M.addresses" (by decide)),
    List.filterMap_cons_none (unread "M.types" (by decide))]
  decide

/-- The fields that a module gives values: its two tables and those for its bindings in `M`, a
symbol each in the table of addresses, a function each in the table of types. -/
theorem assigned_moduleCode {store : Store} {native : Native} {bindings : List Binding} {code : Code}
    (written : moduleCode store native bindings = .ok code) :
    (code.lua.assigned "M").Perm
        ("addresses" :: "types" :: (Layout.of bindings).exposed.flatMap Candidate.fields) ∧
      (code.lua.assigned "M.addresses").Nodup ∧
      code.lua.assigned "M.types" =
        (bindings.filter fun binding => exposesType binding.2).map fun binding =>
          binding.2.name := by
  obtain ⟨declarations, library, sections, declared, loaded, gathered, rfl⟩ :=
    moduleCode_eq_ok.mp written
  obtain ⟨tables, unaddressed, untyped⟩ := assigned_preamble (foreign_libraryLine loaded)
  obtain ⟨addressed, addresses, typeless⟩ := assigned_addressCode bindings
  obtain ⟨typed, addressless, types⟩ := assigned_functionTypeCode store bindings
  have plain := plain_sections gathered
  have fields : assigned "M" sections.flatten = Section.all.flatMap fun s =>
      ((Layout.of bindings).within s).flatMap fun binding => fieldsOf binding.2 := by
    rw [plain.assigned_module]
    exact observe_flatten rfl Code.fields_append (fun _ _ => fields_sectionCode) gathered
  have none_addressed : assigned "M.addresses" sections.flatten = [] :=
    plain.assigned_inner (by decide)
  have none_typed : assigned "M.types" sections.flatten = [] := plain.assigned_inner (by decide)
  have aside (table : String) (listed : table ∈ ["M", "M.addresses", "M.types"]) :
      heading.filterMap (assignedIn? table) = [] ∧
        ["", "return M"].filterMap (assignedIn? table) = [] := by
    revert table
    decide
  rw [lua_opening (open_cdef declared)]
  simp only [contents, assigned_append, assigned_ofLines, aside "M" (by decide),
    aside "M.addresses" (by decide), aside "M.types" (by decide), tables, unaddressed, untyped,
    addressed, typeless, typed, addressless, types, fields,
    none_addressed, none_typed, List.nil_append, List.append_nil]
  exact ⟨((Layout.of bindings).perm_within.cons "types").cons "addresses", addresses, trivial⟩

/-- The tables that a module makes for itself. -/
def tables : List String := ["addresses", "types"]

theorem accessor_not_mem_tables {front : String} (accesses : front ∈ ["get_", "set_"])
    (name : String) : front ++ name ∉ tables := by
  intro member
  have short : (front ++ name).toList.take 4 ∈ tables.map (·.toList.take 4) :=
    List.mem_map_of_mem member
  have whole : (front ++ name).toList.take 4 = front.toList := by
    rw [String.toList_append]
    rcases List.mem_pair.mp accesses with rfl | rfl <;> rfl
  have apart : ∀ front ∈ ["get_", "set_"], front.toList ∉ tables.map (·.toList.take 4) := by
    decide
  exact apart front accesses (whole ▸ short)

/-- A global is no table of the module: its fields are its accessors. -/
theorem mem_fieldsOf_of_table {d : Declaration} {s : Section} (belongs : sectionOf? d = some s)
    {table : String} (listed : table ∈ tables) :
    table ∈ fieldsOf d ↔ s ≠ .globals ∧ d.name = table := by
  unfold sectionOf? at belongs
  unfold fieldsOf
  cases body : d.body with
  | global type const exposesAddress =>
      simp only [body, Option.some.injEq] at belongs ⊢
      subst belongs
      refine iff_of_false (fun member => ?_) fun own => own.1 rfl
      have accessor (front : String) (accesses : front ∈ ["get_", "set_"]) :
          table ≠ front ++ d.name :=
        fun same => accessor_not_mem_tables accesses d.name (same ▸ listed)
      cases const <;> simp [accessor] at member
  | enumeration incomplete constants =>
      simp only [body] at belongs ⊢
      split_ifs at belongs
      cases belongs
      simp [eq_comm]
  | _ =>
      simp only [body, Option.some.injEq] at belongs ⊢
      subst belongs
      simp [eq_comm]

/-- A table of the module is a field of a binding too exactly if the binding, no global, has its
name. -/
theorem disjoint_tables_iff (bindings : List Binding) :
    List.Disjoint tables ((Layout.of bindings).exposed.flatMap Candidate.fields) ↔
      ∀ s, s ≠ .globals → ∀ binding ∈ (Layout.of bindings).within s, binding.2.name ∉ tables := by
  have belongs {c : Candidate} (exposed : c ∈ (Layout.of bindings).exposed) :=
    admits_iff.mp ((Layout.granting_of bindings).admitted c exposed)
  constructor
  · intro disjoint s other binding shown table
    have exposed := Layout.mem_within_iff.mp shown
    exact disjoint table (List.mem_flatMap.mpr
      ⟨_, exposed, (mem_fieldsOf_of_table (belongs exposed) table).mpr ⟨other, rfl⟩⟩)
  · intro free table listed member
    obtain ⟨c, exposed, own⟩ := List.mem_flatMap.mp member
    obtain ⟨other, rfl⟩ := (mem_fieldsOf_of_table (belongs exposed) listed).mp own
    exact free c.place other c.binding (Layout.mem_within_iff.mpr exposed) listed

/-- For every list of bindings, the module gives none of its fields two values, unless something
other than a global has the name of one of the two tables there; each address has its own field
in the table of addresses; and each type has one in the table of types, unless two functions
that show their types have one name. -/
theorem fields_assigned_once_iff {store : Store} {native : Native} {bindings : List Binding}
    {code : Code} (written : moduleCode store native bindings = .ok code) :
    ((code.lua.assigned "M").Nodup ↔
        ∀ s, s ≠ .globals → ∀ binding ∈ (Layout.of bindings).within s,
          binding.2.name ≠ "addresses" ∧ binding.2.name ≠ "types") ∧
      (code.lua.assigned "M.addresses").Nodup ∧
      ((code.lua.assigned "M.types").Nodup ↔
        ((bindings.filter fun binding => exposesType binding.2).map fun binding =>
          binding.2.name).Nodup) := by
  obtain ⟨fields, addresses, types⟩ := assigned_moduleCode written
  refine ⟨?_, addresses, by rw [types]⟩
  have granting := Layout.granting_of bindings
  have apart : ((Layout.of bindings).exposed.flatMap Candidate.fields).Nodup :=
    granting.nodup.sublist (Layout.fields_sublist_taken granting.admitted)
  have own : tables.Nodup := by decide
  have split : "addresses" :: "types" :: (Layout.of bindings).exposed.flatMap Candidate.fields =
      tables ++ (Layout.of bindings).exposed.flatMap Candidate.fields := rfl
  rw [fields.nodup_iff, split, List.nodup_append', disjoint_tables_iff]
  simp only [own, apart, true_and]
  simp only [tables, List.mem_pair, not_or]

/-- A function with the name of the table of addresses takes its place. -/
def addressesFunction : Declaration where
  usr := "c:@F@addresses"
  nativeName := "addresses"
  name := "addresses"
  body := .function {}

def addressesBindings : List Binding := [(addressesFunction.usr, addressesFunction)]

theorem addresses_assigned_twice : ∃ code,
    moduleCode ⟨addressesBindings⟩ {} addressesBindings = .ok code ∧
      ¬(code.lua.assigned "M").Nodup := by
  have readable : (moduleCode ⟨addressesBindings⟩ {} addressesBindings).isOk = true := by
    decide +kernel
  cases written : moduleCode ⟨addressesBindings⟩ {} addressesBindings with
  | error fault =>
      rw [written] at readable
      cases readable
  | ok code =>
      have shown : (Layout.of addressesBindings).within .functions = addressesBindings := rfl
      refine ⟨code, rfl, fun once => ?_⟩
      have free := (fields_assigned_once_iff written).1.mp once .functions (by decide)
      rw [shown] at free
      exact (free _ List.mem_cons_self).1 rfl

end LuaBinder.LuaModule
