import LuaBinder.LuaModule.Text
import LuaBinder.Proofs.Policy.Signatures
import Mathlib.Data.List.Forall2

namespace LuaBinder.LuaModule

/-! The parts of a module: the C declarations, the sections, and what follows them. -/

theorem forall₂_of_mapM {α β ε : Type} {read : α → Except ε β} {entries : List α}
    {results : List β} (succeeded : entries.mapM read = .ok results) :
    List.Forall₂ (fun entry result => read entry = .ok result) entries results := by
  induction entries generalizing results with
  | nil =>
      cases succeeded
      exact .nil
  | cons entry entries induction =>
      rw [List.mapM_cons] at succeeded
      obtain ⟨result, own, succeeded⟩ := bind_eq_ok.mp succeeded
      obtain ⟨others, further, written⟩ := bind_eq_ok.mp succeeded
      cases written
      exact .cons own (induction further)

theorem map_eq_ok {α β ε : Type} {read : Except ε α} {f : α → β} {result : β} :
    read.map f = .ok result ↔ ∃ value, read = .ok value ∧ f value = result := by
  cases read <;> simp [Except.map]

theorem unlessOverlong_eq_ok {α : Type} {text : Except Number.Overlong α} {result : α} :
    unlessOverlong text = .ok result ↔ text = .ok result := by
  cases text <;> simp [unlessOverlong, Except.mapError]

theorem orFault_eq_ok {α : Type} {text : Except NumberError α} {result : α} :
    orFault text = .ok result ↔ text = .ok result := by
  cases text <;> simp [orFault, Except.mapError]

theorem exists_mapM {α β ε : Type} {read : α → Except ε β} {entries : List α}
    (readable : ∀ entry ∈ entries, ∃ result, read entry = .ok result) :
    ∃ results, entries.mapM read = .ok results := by
  induction entries with
  | nil => exact ⟨[], rfl⟩
  | cons entry entries induction =>
      obtain ⟨⟨result, own⟩, others⟩ := List.forall_mem_cons.mp readable
      obtain ⟨results, rest⟩ := induction others
      exact ⟨result :: results, by rw [List.mapM_cons, own, rest]; rfl⟩

theorem exists_result_of_mapM {α β ε : Type} {read : α → Except ε β} {entries : List α}
    {results : List β} (succeeded : entries.mapM read = .ok results) {entry : α}
    (listed : entry ∈ entries) : ∃ result ∈ results, read entry = .ok result := by
  have related := forall₂_of_mapM succeeded
  clear succeeded
  induction related with
  | nil => cases listed
  | @cons first result _ _ own _ induction =>
      rcases List.mem_cons.mp listed with rfl | listed
      · exact ⟨result, List.mem_cons_self, own⟩
      · obtain ⟨found, member, read⟩ := induction listed
        exact ⟨found, List.mem_cons_of_mem _ member, read⟩

/-- What is read off parts one by one is read off all of them. -/
theorem observe_flatten {α γ ε : Type} {read : α → Except ε (List γ)}
    {observe : List γ → List String} {expected : α → List String} (nothing : observe [] = [])
    (append : ∀ front back, observe (front ++ back) = observe front ++ observe back)
    (each : ∀ entry part, read entry = .ok part → observe part = expected entry)
    {entries : List α} {parts : List (List γ)} (gathered : entries.mapM read = .ok parts) :
    observe parts.flatten = entries.flatMap expected := by
  have related := forall₂_of_mapM gathered
  clear gathered
  induction related with
  | nil => exact nothing
  | cons own _ induction =>
      rw [List.flatten_cons, append, each _ _ own, induction, List.flatMap_cons]

/-- All up to the fields of the module. -/
def opening (declarations : Code) (library : String) : Code :=
  Code.ofLines ["-- machine generated, do not edit", "local ffi = require('ffi')", "",
      "ffi.cdef[=["] ++
    declarations ++
    Code.ofLines ["]=]", "", library, "", "local M = \x7b\x7d", "M.addresses = \x7b\x7d",
      "M.types = \x7b\x7d"]

/-- The fields of the module, section by section, and what comes behind them. -/
def contents (store : Store) (bindings : List Binding) (sections : List Code) : Code :=
  sections.flatten ++ addressCode bindings ++ functionTypeCode store bindings ++
    Code.ofLines ["", "return M"]

theorem moduleCode_eq_ok {store : Store} {native : Native} {bindings : List Binding}
    {code : Code} : moduleCode store native bindings = .ok code ↔
      ∃ declarations library sections, cdef store bindings = .ok declarations ∧
        libraryLine native = .ok library ∧
        Section.all.mapM (sectionCode store (Layout.of bindings)) = .ok sections ∧
        code = opening declarations library ++ contents store bindings sections := by
  rw [moduleCode]
  simp only [bind_eq_ok, opening, contents, List.append_assoc]
  constructor
  · rintro ⟨declarations, declared, library, loaded, sections, written, finished⟩
    cases finished
    exact ⟨declarations, library, sections, declared, loaded, written, rfl⟩
  · rintro ⟨declarations, library, sections, declared, loaded, written, rfl⟩
    exact ⟨declarations, declared, library, loaded, sections, written, rfl⟩

theorem sectionCode_eq_ok {store : Store} {layout : Layout} {s : Section} {code : Code} :
    sectionCode store layout s = .ok code ↔
      ∃ members, (layout.within s).mapM (fun binding => memberCode store binding.2) = .ok members ∧
        code = titled s.title (layout.within s) members.flatten := by
  rw [sectionCode]
  simp only [bind_eq_ok]
  constructor
  · rintro ⟨members, written, finished⟩
    cases finished
    exact ⟨members, written, rfl⟩
  · rintro ⟨members, written, rfl⟩
    exact ⟨members, written, rfl⟩

theorem Section.mem_all (s : Section) : s ∈ Section.all := by
  cases s <;> decide

theorem lines_within_titled (title : String) {bindings : List Binding} (given : bindings ≠ [])
    (lines : Code) : lines <:+: titled title bindings lines := by
  rw [titled, if_neg (by simpa using given)]
  exact (List.suffix_append _ lines).isInfix

/-- What a granted binding gives stands in its section as a whole. -/
theorem exists_memberCode {store : Store} {layout : Layout} {sections : List Code}
    (written : Section.all.mapM (sectionCode store layout) = .ok sections)
    {s : Section} {binding : Binding} (granted : binding ∈ layout.within s) :
    ∃ code, memberCode store binding.2 = .ok code ∧ code <:+: sections.flatten := by
  obtain ⟨code, listed, own⟩ := exists_result_of_mapM written s.mem_all
  obtain ⟨members, gathered, rfl⟩ := sectionCode_eq_ok.mp own
  obtain ⟨member, held, single⟩ := exists_result_of_mapM gathered granted
  exact ⟨member, single, (List.infix_of_mem_flatten held).trans <|
    (lines_within_titled s.title (List.ne_nil_of_mem granted) members.flatten).trans
      (List.infix_of_mem_flatten listed)⟩

/-! A library with a function of two call signatures, a record, a table, a global and a
constant. -/

def logFunction (suffix : String) (extra : CType) : Function where
  params := [{ name := "format", type := .pointer .char true }]
  extra := [{ name := "end", type := extra }]
  suffix := suffix
  variadic := true
  exposesAddress := true

def logNumber : Declaration where
  usr := "c:@F@log#number"
  nativeName := "log"
  name := "log_number"
  body := .function (logFunction "number" (.primitive .int))

def logText : Declaration where
  usr := "c:@F@log#text"
  nativeName := "log"
  name := "log_text"
  body := .function (logFunction "text" (.pointer .char true))

def logItem : Declaration where
  usr := "c:@S@Item"
  nativeName := "Item"
  name := "Item"
  body := .record .struct false [{ name := "count", type := .primitive .int }]

def logLevels : Declaration where
  usr := "c:@E@Level"
  nativeName := "Level"
  name := "Level"
  body := .enumeration false [{ nativeName := "LEVEL_END", name := "end", value := 1 }]

def logLevel : Declaration where
  usr := "c:@level"
  nativeName := "level"
  name := "level"
  body := .global (.primitive .int) true true

def logLimit : Declaration where
  usr := "c:@macro@LIMIT"
  nativeName := "LIMIT"
  name := "LIMIT"
  body := .constant "int" (.int 9)

def logBindings : List Binding :=
  [logNumber, logText, logItem, logLevels, logLevel, logLimit].map fun d => (d.usr, d)

def logStore : Store := ⟨logBindings⟩

theorem isOk_log : (moduleCode logStore {} logBindings).isOk = true := by
  decide +kernel

end LuaBinder.LuaModule
