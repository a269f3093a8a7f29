import LuaBinder.LuaModule.Stub
import LuaBinder.Proofs.LuaModule.Names
import LuaBinder.Proofs.LuaModule.Search
import LuaBinder.Proofs.LuaModule.Sections
import LuaBinder.Proofs.Policy.Mapping

namespace LuaBinder

namespace LuaModule

/-! What can keep a module from being written: only a number, if the typedefs have their
types and the library is a text or absent. -/

/-- A result, or a number that cannot be written. -/
def Numeric (result : Except Fault α) : Prop :=
  ∀ fault, result = .error fault → ∃ error, fault = .number error

theorem numeric_ok (value : α) : Numeric (.ok value) := nofun

theorem numeric_orFault (text : Except NumberError α) : Numeric (orFault text) := by
  intro fault failed
  cases text with
  | ok value => cases failed
  | error error =>
      cases failed
      exact ⟨error, rfl⟩

theorem Numeric.bind {result : Except Fault α} (first : Numeric result)
    {next : α → Except Fault β} (second : ∀ value, result = .ok value → Numeric (next value)) :
    Numeric (result >>= next) := by
  cases written : result with
  | ok value => exact second value written
  | error fault =>
      rintro _ ⟨⟩
      exact first fault written

theorem Numeric.map {result : Except Fault α} (first : Numeric result) (f : α → β) :
    Numeric (result.map f) := by
  cases result with
  | ok value => exact numeric_ok _
  | error fault =>
      rintro _ ⟨⟩
      exact first fault rfl

theorem numeric_mapM {read : α → Except Fault β} {entries : List α}
    (each : ∀ entry ∈ entries, Numeric (read entry)) : Numeric (entries.mapM read) := by
  induction entries with
  | nil => exact numeric_ok _
  | cons entry rest induction =>
      obtain ⟨own, others⟩ := List.forall_mem_cons.mp each
      rw [List.mapM_cons]
      exact own.bind fun _ _ => (induction others).bind fun _ _ => numeric_ok _

theorem numeric_of_exists {result : Except Fault α} (written : ∃ value, result = .ok value) :
    Numeric result := by
  obtain ⟨value, rfl⟩ := written
  exact numeric_ok value

theorem exists_bind {result : Except Fault α} {next : α → Except Fault β}
    (first : ∃ value, result = .ok value)
    (second : ∀ value, result = .ok value → ∃ outcome, next value = .ok outcome) :
    ∃ outcome, (result >>= next) = .ok outcome := by
  obtain ⟨value, written⟩ := first
  obtain ⟨outcome, further⟩ := second value written
  exact ⟨outcome, bind_eq_ok.mpr ⟨value, written, further⟩⟩

def Typed (d : Declaration) : Prop := d.body ≠ .typedef none

/-- The types that are searched are those of the declaration, except for a class. -/
theorem exists_ownTypes {d : Declaration} (typed : Typed d) :
    ∃ types, ownTypes d = .ok types ∧ (d.kind ≠ .interface → d.body.types ⊆ types) := by
  unfold ownTypes Declaration.kind
  cases body : d.body with
  | function f => exact ⟨_, rfl, fun _ => by simp [Body.types, Function.allParams]⟩
  | record kind incomplete members => exact ⟨_, rfl, fun _ => List.Subset.refl _⟩
  | typedef underlying =>
      cases underlying with
      | none => exact absurd body typed
      | some type => exact ⟨_, rfl, fun _ => List.Subset.refl _⟩
  | «global» type const exposesAddress => exact ⟨_, rfl, fun _ => List.Subset.refl _⟩
  | interface incomplete superclass methods => exact ⟨_, rfl, fun other => absurd rfl other⟩
  | _ => exact ⟨_, rfl, fun _ => List.nil_subset _⟩

theorem exists_usesObjective (store : Store) {bindings : List Binding}
    (typed : ∀ binding ∈ bindings, Typed binding.2) :
    ∃ objective, usesObjective store bindings = .ok objective := by
  induction bindings with
  | nil => exact ⟨false, rfl⟩
  | cons binding rest induction =>
      obtain ⟨own, others⟩ := List.forall_mem_cons.mp typed
      obtain ⟨types, written, -⟩ := exists_ownTypes own
      rw [usesObjective]
      split_ifs
      · exact ⟨true, rfl⟩
      · refine exists_bind ⟨types, written⟩ fun types _ => ?_
        split_ifs
        · exact ⟨true, rfl⟩
        · exact induction others

theorem numeric_enumConstant (c : EnumConstant) : Numeric (enumConstant c) :=
  (numeric_orFault _).bind fun _ _ => numeric_ok _

theorem numeric_definition (store : Store) (seen : List String) {d : Declaration}
    (typed : Typed d) : Numeric (definition store seen d) := by
  unfold definition
  split
  case h_3 =>
    split_ifs
    · exact numeric_ok _
    · exact (numeric_mapM fun c _ => numeric_enumConstant c).map _
  case h_5 missing => exact absurd missing typed
  case h_6 =>
    split_ifs
    · exact numeric_ok _
    · exact numeric_ok _
  all_goals exact numeric_ok _

theorem numeric_definitions (store : Store) {bindings : List Binding}
    (typed : ∀ binding ∈ bindings, Typed binding.2) (seen : List String) :
    Numeric (definitions store seen bindings) := by
  induction bindings generalizing seen with
  | nil => exact numeric_ok _
  | cons binding rest induction =>
      obtain ⟨own, others⟩ := List.forall_mem_cons.mp typed
      rw [definitions]
      exact (numeric_definition store seen own).bind fun _ _ =>
        (induction others _).bind fun _ _ => numeric_ok _

theorem numeric_cdef (store : Store) {bindings : List Binding}
    (distinct : (keysOf bindings).Nodup) (typed : ∀ binding ∈ bindings, Typed binding.2) :
    Numeric (cdef store bindings) := by
  have ordered : ∀ binding ∈ dependencyOrder store bindings, Typed binding.2 :=
    fun binding member => typed binding ((dependencyOrder_perm distinct).mem_iff.mp member)
  exact (numeric_of_exists (exists_usesObjective store typed)).bind fun _ _ =>
    (numeric_definitions store ordered []).bind fun _ _ => numeric_ok _

theorem exists_libraryLine {native : Native}
    (plain : native.library = .null ∨ ∃ text, native.library = .string text) :
    ∃ line, libraryLine native = .ok line := by
  rw [libraryLine]
  split_ifs with held
  · obtain absent | ⟨text, named⟩ := plain
    · rw [absent] at held
      cases held
    · exact ⟨_, by rw [named]; rfl⟩
  · exact ⟨_, rfl⟩

theorem numeric_memberCode (store : Store) (d : Declaration) : Numeric (memberCode store d) := by
  unfold memberCode
  split
  case h_2 =>
    exact (numeric_mapM fun c _ => (numeric_orFault _).bind fun _ _ => numeric_ok _).bind
      fun _ _ => numeric_ok _
  case h_3 => exact (numeric_orFault _).bind fun _ _ => numeric_ok _
  all_goals exact numeric_ok _

theorem numeric_moduleCode (store : Store) {native : Native} {bindings : List Binding}
    (distinct : (keysOf bindings).Nodup) (typed : ∀ binding ∈ bindings, Typed binding.2)
    (plain : native.library = .null ∨ ∃ text, native.library = .string text) :
    Numeric (moduleCode store native bindings) := by
  obtain ⟨line, loaded⟩ := exists_libraryLine plain
  have library : Numeric (libraryLine native) := by
    rw [loaded]
    exact numeric_ok line
  have sections : Numeric (Section.all.mapM (sectionCode store (Layout.of bindings))) :=
    numeric_mapM fun s _ => (numeric_mapM fun binding _ => numeric_memberCode store binding.2).bind
      fun _ _ => numeric_ok _
  exact (numeric_cdef store distinct typed).bind fun _ _ => library.bind fun _ _ =>
    sections.bind fun _ _ => numeric_ok _

/-! A module is written if its numbers can be. -/

/-- The numbers that stand for the declaration can be written: the values of an enumeration,
and that of a constant. -/
def Writable (d : Declaration) : Prop :=
  match d.body with
  | .enumeration _ constants => ∀ c ∈ constants, ∃ digits, Number.decimal c.value = .ok digits
  | .constant rawType scalar => ∃ text, value rawType scalar = .ok text
  | _ => True

theorem exists_enumConstant {c : EnumConstant}
    (written : ∃ digits, Number.decimal c.value = .ok digits) :
    ∃ line, enumConstant c = .ok line := by
  obtain ⟨digits, written⟩ := written
  exact exists_bind ⟨digits, by rw [written]; rfl⟩ fun _ _ => ⟨_, rfl⟩

theorem exists_enumLine {c : EnumConstant}
    (written : ∃ digits, Number.decimal c.value = .ok digits) :
    ∃ line, enumLine c = .ok line := by
  obtain ⟨digits, written⟩ := written
  exact exists_bind ⟨_, by rw [integer, written]; rfl⟩ fun _ _ => ⟨_, rfl⟩

theorem exists_definition (store : Store) (seen : List String) {d : Declaration}
    (typed : Typed d) (writable : Writable d) : ∃ code, definition store seen d = .ok code := by
  unfold definition
  split
  case h_3 incomplete constants body =>
    simp only [Writable, body] at writable
    obtain ⟨lines, gathered⟩ := exists_mapM fun c member =>
      exists_enumConstant (writable c member)
    split_ifs
    · exact ⟨_, rfl⟩
    · exact ⟨_, by rw [gathered]; rfl⟩
  case h_5 missing => exact absurd missing typed
  case h_6 =>
    split_ifs
    · exact ⟨_, rfl⟩
    · exact ⟨_, rfl⟩
  all_goals exact ⟨_, rfl⟩

theorem exists_definitionCode (store : Store) {bindings : List Binding}
    (typed : ∀ binding ∈ bindings, Typed binding.2)
    (writable : ∀ binding ∈ bindings, Writable binding.2) (seen : List String) :
    ∃ code, definitions store seen bindings = .ok code := by
  induction bindings generalizing seen with
  | nil => exact ⟨[], rfl⟩
  | cons binding rest induction =>
      obtain ⟨ownType, otherTypes⟩ := List.forall_mem_cons.mp typed
      obtain ⟨ownNumbers, otherNumbers⟩ := List.forall_mem_cons.mp writable
      rw [definitions]
      exact exists_bind (exists_definition store seen ownType ownNumbers) fun _ _ =>
        exists_bind (induction otherTypes otherNumbers _) fun _ _ => ⟨_, rfl⟩

theorem exists_cdef (store : Store) {bindings : List Binding}
    (distinct : (keysOf bindings).Nodup) (typed : ∀ binding ∈ bindings, Typed binding.2)
    (writable : ∀ binding ∈ bindings, Writable binding.2) :
    ∃ code, cdef store bindings = .ok code := by
  have ordered {binding : Binding} (member : binding ∈ dependencyOrder store bindings) :
      binding ∈ bindings := (dependencyOrder_perm distinct).mem_iff.mp member
  exact exists_bind (exists_usesObjective store typed) fun _ _ =>
    exists_bind (exists_definitionCode store (fun _ member => typed _ (ordered member))
      (fun _ member => writable _ (ordered member)) []) fun _ _ => ⟨_, rfl⟩

theorem exists_writtenCode (store : Store) {d : Declaration} (writable : Writable d) :
    ∃ code, memberCode store d = .ok code := by
  unfold memberCode
  split
  case h_2 incomplete constants body =>
    simp only [Writable, body] at writable
    exact exists_bind (exists_mapM fun c member => exists_enumLine (writable c member))
      fun _ _ => ⟨_, rfl⟩
  case h_3 rawType scalar body =>
    simp only [Writable, body] at writable
    obtain ⟨text, written⟩ := writable
    exact exists_bind ⟨text, by rw [written]; rfl⟩ fun _ _ => ⟨_, rfl⟩
  all_goals exact ⟨_, rfl⟩

/-- If all numbers can be written, nothing keeps the module from being written. -/
theorem exists_moduleCode (store : Store) {native : Native} {bindings : List Binding}
    (distinct : (keysOf bindings).Nodup) (typed : ∀ binding ∈ bindings, Typed binding.2)
    (plain : native.library = .null ∨ ∃ text, native.library = .string text)
    (writable : ∀ binding ∈ bindings, Writable binding.2) :
    ∃ code, moduleCode store native bindings = .ok code := by
  have sections : ∃ sections,
      Section.all.mapM (sectionCode store (Layout.of bindings)) = .ok sections :=
    exists_mapM fun s _ => exists_bind (exists_mapM fun binding granted =>
      exists_writtenCode store (writable binding (Layout.mem_of_within granted).1))
      fun _ _ => ⟨_, rfl⟩
  exact exists_bind (exists_cdef store distinct typed writable) fun _ _ =>
    exists_bind (exists_libraryLine plain) fun _ _ =>
      exists_bind sections fun _ _ => ⟨_, rfl⟩

end LuaModule

/-! Libraries that a module can be loaded from. Nothing else in a module depends on the library, so
a module fails at it exactly if it cannot be loaded. -/

namespace Json

/-- The text of a single character. -/
def IsCharacter (value : Json) : Prop := ∃ text c, value = .string text ∧ text.toList = [c]

/-- No library, or a text; a list or a mapping stands for its characters. -/
inductive IsLoadable : Json → Prop
  | absent {library : Json} (nothing : library.holds = false) : IsLoadable library
  | text (text : String) : IsLoadable (.string text)
  | array {items : List Json} (each : ∀ item ∈ items, item.IsCharacter) :
      IsLoadable (.array items)
  | object {fields : List (String × Json)}
      (each : ∀ field ∈ fields, (Json.string field.1).IsCharacter) : IsLoadable (.object fields)

theorem isLoadable_of_text {library : Json} (typed : library.Nullable IsText) :
    library.IsLoadable := by
  rcases typed with rfl | ⟨text, rfl⟩
  · exact .absent rfl
  · exact .text text

end Json

namespace LuaModule

/-- The module fails at its library. -/
def Fault.IsLibrary : Fault → Prop
  | .libraryNotText _ | .libraryPart _ => True
  | _ => False

instance : DecidablePred Fault.IsLibrary
  | .libraryNotText _ | .libraryPart _ => isTrue trivial
  | .number _ | .untypedBase | .untypedDeclarator | .unknownConstant _ => isFalse id

/-! The line that loads the library. -/

theorem libraryPart_of_character {value : Json} (single : value.IsCharacter) :
    ∃ chars, libraryPart value = .ok chars := by
  obtain ⟨text, c, rfl, single⟩ := single
  exact ⟨stringChar c, by simp only [libraryPart, single]⟩

theorem isCharacter_of_libraryPart {value : Json} {chars : List Char}
    (part : libraryPart value = .ok chars) : value.IsCharacter := by
  unfold libraryPart at part
  split at part
  · split at part
    · rename_i text _ c single
      exact ⟨text, c, rfl, single⟩
    · cases part
  · cases part

theorem libraryPart_fails (value : Json) : FailsOnly Fault.IsLibrary (libraryPart value) := by
  unfold libraryPart
  split
  · split
    · exact .ok _
    · exact .error trivial
  · exact .error trivial

theorem libraryLine_fails (native : Native) : FailsOnly Fault.IsLibrary (libraryLine native) := by
  unfold libraryLine
  split
  · refine FailsOnly.bind ?_ fun _ => .ok _
    unfold libraryText
    split
    · exact .ok _
    · exact (FailsOnly.mapM _ libraryPart_fails).bind fun _ => .ok _
    · exact (FailsOnly.mapM _ fun entry => libraryPart_fails _).bind fun _ => .ok _
    · exact .error trivial
  · exact .ok _

theorem isLoadable_of_libraryText {library : Json} {text : String}
    (written : libraryText library = .ok text) : library.IsLoadable := by
  unfold libraryText at written
  split at written
  · exact .text _
  · obtain ⟨parts, gathered, -⟩ := bind_eq_ok.mp written
    refine .array fun item member => ?_
    obtain ⟨chars, -, part⟩ := exists_result_of_mapM gathered member
    exact isCharacter_of_libraryPart part
  · obtain ⟨parts, gathered, -⟩ := bind_eq_ok.mp written
    refine .object fun field member => ?_
    obtain ⟨chars, -, part⟩ := exists_result_of_mapM gathered member
    exact isCharacter_of_libraryPart part
  · cases written

theorem exists_libraryText {library : Json} (loadable : library.IsLoadable)
    (held : library.holds = true) : ∃ text, libraryText library = .ok text := by
  cases loadable with
  | absent nothing => exact absurd held (by simp [nothing])
  | text text => exact ⟨_, rfl⟩
  | array each =>
      obtain ⟨parts, gathered⟩ := exists_mapM fun item member =>
        libraryPart_of_character (each item member)
      exact ⟨_, by rw [libraryText, gathered]; rfl⟩
  | object each =>
      obtain ⟨parts, gathered⟩ := exists_mapM fun field member =>
        libraryPart_of_character (each field member)
      exact ⟨_, by rw [libraryText, gathered]; rfl⟩

theorem exists_libraryLine_iff {native : Native} :
    (∃ line, libraryLine native = .ok line) ↔ native.library.IsLoadable := by
  unfold libraryLine
  split
  · rename_i held
    constructor
    · rintro ⟨line, loaded⟩
      obtain ⟨text, written, -⟩ := bind_eq_ok.mp loaded
      exact isLoadable_of_libraryText written
    · intro loadable
      obtain ⟨text, written⟩ := exists_libraryText loadable held
      exact ⟨_, by rw [written]; rfl⟩
  · rename_i nothing
    exact iff_of_true ⟨_, rfl⟩ (.absent (by simpa using nothing))

/-! What does not depend on the library. -/

/-- A result, or a fault that is not the library's. -/
abbrev BesideLibrary (result : Except Fault α) : Prop :=
  FailsOnly (fun fault => ¬ fault.IsLibrary) result

theorem Numeric.besideLibrary {result : Except Fault α} (numeric : Numeric result) :
    BesideLibrary result := by
  intro fault failed
  obtain ⟨error, rfl⟩ := numeric fault failed
  exact id

theorem besideLibrary_ownTypes (d : Declaration) : BesideLibrary (ownTypes d) := by
  by_cases typed : Typed d
  · obtain ⟨types, written, -⟩ := exists_ownTypes typed
    exact (numeric_of_exists ⟨types, written⟩).besideLibrary
  · rw [ownTypes, not_not.mp typed]
    exact .error id

theorem besideLibrary_usesObjective (store : Store) (bindings : List Binding) :
    BesideLibrary (usesObjective store bindings) := by
  induction bindings with
  | nil => exact .ok _
  | cons binding rest induction =>
      rw [usesObjective]
      refine .ite (.ok _) ?_
      exact (besideLibrary_ownTypes binding.2).bind fun types => .ite (.ok _) induction

theorem besideLibrary_definition (store : Store) (seen : List String) (d : Declaration) :
    BesideLibrary (definition store seen d) := by
  by_cases typed : Typed d
  · exact (numeric_definition store seen typed).besideLibrary
  · rw [definition, not_not.mp typed]
    exact .error id

theorem besideLibrary_definitions (store : Store) (bindings : List Binding)
    (seen : List String) : BesideLibrary (definitions store seen bindings) := by
  induction bindings generalizing seen with
  | nil => exact .ok _
  | cons binding rest induction =>
      rw [definitions]
      exact (besideLibrary_definition store seen binding.2).bind fun _ =>
        (induction _).bind fun _ => .ok _

theorem besideLibrary_cdef (store : Store) (bindings : List Binding) :
    BesideLibrary (cdef store bindings) :=
  (besideLibrary_usesObjective store bindings).bind fun _ =>
    (besideLibrary_definitions store _ []).bind fun _ => .ok _

theorem besideLibrary_sectionCode (store : Store) (layout : Layout) (s : Section) :
    BesideLibrary (sectionCode store layout s) :=
  (FailsOnly.mapM _ fun (binding : Binding) =>
    (numeric_memberCode store binding.2).besideLibrary).bind fun _ => .ok _

/-! Modules. -/

/-- Once the library is loaded, nothing fails at it. -/
theorem besideLibrary_moduleText {store : Store} {native : Native} {bindings : List Binding}
    (loadable : native.library.IsLoadable) :
    BesideLibrary (moduleText store native bindings) := by
  obtain ⟨line, loaded⟩ := exists_libraryLine_iff.mpr loadable
  refine ((besideLibrary_cdef store bindings).bind fun declarations => ?_).map _
  rw [loaded]
  exact (FailsOnly.mapM _ (besideLibrary_sectionCode store _)).bind fun _ => .ok _

/-- A module fails at its library exactly if it gets to it and cannot load it. -/
theorem moduleText_fails_at_library_iff {store : Store} {native : Native}
    {bindings : List Binding} :
    (∃ fault, fault.IsLibrary ∧ moduleText store native bindings = .error fault) ↔
      (∃ declarations, cdef store bindings = .ok declarations) ∧
        ¬ native.library.IsLoadable := by
  constructor
  · rintro ⟨fault, ofLibrary, failed⟩
    refine ⟨?_, fun loadable => besideLibrary_moduleText loadable fault failed ofLibrary⟩
    cases declared : cdef store bindings with
    | ok declarations => exact ⟨declarations, rfl⟩
    | error other =>
        rw [moduleText, moduleCode, declared] at failed
        cases failed
        exact absurd ofLibrary (besideLibrary_cdef store bindings fault declared)
  · rintro ⟨⟨declarations, declared⟩, other⟩
    cases loaded : libraryLine native with
    | ok line => exact absurd (exists_libraryLine_iff.mp ⟨line, loaded⟩) other
    | error fault =>
        refine ⟨fault, libraryLine_fails native fault loaded, ?_⟩
        rw [moduleText, moduleCode, declared]
        change ((libraryLine native >>= _).map _) = _
        rw [loaded]
        rfl

/-! Type definitions. -/

theorem besideLibrary_memberLines (c : StubContext) (d : Declaration) :
    BesideLibrary (c.memberLines d) := by
  unfold StubContext.memberLines
  split
  · exact (FailsOnly.mapM _ fun constant =>
      ((numeric_orFault _).bind fun _ _ => numeric_ok _).besideLibrary).bind fun _ => .ok _
  · refine FailsOnly.bind ?_ fun _ => .ok _
    unfold StubContext.constantType
    split
    · exact .ok _
    · exact .ok _
    · exact .ok _
    · exact .error id
  all_goals exact .ok _

theorem besideLibrary_stubText (store : Store) (policy : Policy) (bindings : List Binding) :
    BesideLibrary (stubText store policy bindings) :=
  FailsOnly.bind ((FailsOnly.mapM _ fun _ =>
    (FailsOnly.mapM _ fun _ => besideLibrary_memberLines _ _).bind fun _ => .ok _).bind
      fun _ => .ok _) fun _ => .ok _

end LuaModule

end LuaBinder
