import LuaBinder.Header.Cursor
import Mathlib.Data.List.Nodup
import Mathlib.Logic.Relation

namespace LuaBinder.Header

/-! What a declaration of a header refers to, directly and through others. -/

mutual

/-- The declarations at any place of a type. -/
def TypeTree.declarations : TypeTree κ → List Nat
  | .absent => []
  | .known facts pointee element named result canonical arguments =>
      facts.declaration.toList ++ pointee.declarations ++ element.declarations ++
        named.declarations ++ result.declarations ++ canonical.declarations ++
        arguments.declarations

def TypeTrees.declarations : TypeTrees κ → List Nat
  | .nil => []
  | .cons first rest => first.declarations ++ rest.declarations

end

mutual

def TypeTree.kinds : TypeTree κ → List κ
  | .absent => []
  | .known facts pointee element named result canonical arguments =>
      facts.kind :: (pointee.kinds ++ element.kinds ++ named.kinds ++ result.kinds ++
        canonical.kinds ++ arguments.kinds)

def TypeTrees.kinds : TypeTrees κ → List κ
  | .nil => []
  | .cons first rest => first.kinds ++ rest.kinds

end

/-- A function type without a prototype stands somewhere in the type. -/
def NativeType.HasBareFunction (type : NativeType) : Prop :=
  TypeKind.functionNoPrototype ∈ type.kinds

theorem NativeType.hasBareFunction_known {facts : TypeFacts TypeKind}
    {pointee element named result canonical : NativeType} {arguments : TypeTrees TypeKind} :
    NativeType.HasBareFunction
        (.known facts pointee element named result canonical arguments) ↔
      facts.kind = .functionNoPrototype ∨ pointee.HasBareFunction ∨
        element.HasBareFunction ∨ named.HasBareFunction ∨ result.HasBareFunction ∨
        canonical.HasBareFunction ∨ TypeKind.functionNoPrototype ∈ arguments.kinds := by
  simp [NativeType.HasBareFunction, TypeTree.kinds, eq_comm]

/-! Types with nothing at all other places. -/

def TypeFacts.plain (kind : TypeKind) (declaration : Option Nat) : TypeFacts TypeKind :=
  { kind, spelling := "", const := false, count := -1, variadic := false, declaration }

namespace NativeType

def ofKind (kind : TypeKind) : NativeType :=
  .known (.plain kind none) .absent .absent .absent .absent .absent .nil

def declared (kind : TypeKind) (number : Nat) : NativeType :=
  .known (.plain kind (some number)) .absent .absent .absent .absent .absent .nil

def pointerTo (target : NativeType) : NativeType :=
  .known (.plain .pointer none) target .absent .absent .absent .absent .nil

def elaborated (named : NativeType) : NativeType :=
  .known (.plain .elaborated none) .absent .absent named .absent .absent .nil

def function (kind : TypeKind) (result : NativeType) (arguments : TypeTrees TypeKind) :
    NativeType :=
  .known (.plain kind none) .absent .absent .absent result .absent arguments

end NativeType

namespace Cursor

def types (c : Cursor) : List NativeType := [c.type, c.result, c.underlying]

theorem type_mem_types (c : Cursor) : c.type ∈ c.types := by simp [types]

theorem result_mem_types (c : Cursor) : c.result ∈ c.types := by simp [types]

theorem underlying_mem_types (c : Cursor) : c.underlying ∈ c.types := by simp [types]

def references (c : Cursor) : List Nat :=
  c.types.flatMap TypeTree.declarations ++ c.definition.toList ++ c.referenced.toList ++
    c.arguments ++ c.children

theorem mem_references_of_type {c : Cursor} {type : NativeType} {number : Nat}
    (own : type ∈ c.types) (found : number ∈ type.declarations) :
    number ∈ c.references := by
  have typed : number ∈ c.types.flatMap TypeTree.declarations :=
    List.mem_flatMap.mpr ⟨type, own, found⟩
  simp [references, typed]

theorem mem_references_of_definition {c : Cursor} {number : Nat}
    (found : c.definition = some number) : number ∈ c.references := by
  simp [references, found]

theorem mem_references_of_referenced {c : Cursor} {number : Nat}
    (found : c.referenced = some number) : number ∈ c.references := by
  simp [references, found]

theorem mem_references_of_argument {c : Cursor} {number : Nat}
    (found : number ∈ c.arguments) : number ∈ c.references := by
  simp [references, found]

theorem mem_references_of_child {c : Cursor} {number : Nat}
    (found : number ∈ c.children) : number ∈ c.references := by
  simp [references, found]

end Cursor

namespace Forest

/-- A declaration leads to itself and to what its references lead to. -/
def Leads (forest : Forest) : Nat → Nat → Prop :=
  Relation.ReflTransGen fun source target => target ∈ (forest.cursor source).references

variable {forest : Forest} {source middle target : Nat}

theorem exists_number {c : Cursor} (listed : c ∈ forest.cursors.toList) :
    ∃ number, forest.cursor number = c := by
  obtain ⟨number, bound, found⟩ := List.getElem_of_mem listed
  refine ⟨number, ?_⟩
  rw [Array.length_toList] at bound
  rw [Array.getElem_toList] at found
  simp [cursor, bound, found]

theorem cursor_cases (forest : Forest) (number : Nat) :
    forest.cursor number ∈ forest.cursors.toList ∨ forest.cursor number = {} := by
  unfold cursor
  cases found : forest.cursors[number]? with
  | none => exact .inr rfl
  | some c => exact .inl (by simpa using Array.mem_of_getElem? found)

theorem Leads.refl (forest : Forest) (number : Nat) : forest.Leads number number :=
  Relation.ReflTransGen.refl

theorem Leads.reference (leads : forest.Leads source middle)
    (found : target ∈ (forest.cursor middle).references) : forest.Leads source target :=
  Relation.ReflTransGen.tail leads found

theorem Leads.trans (first : forest.Leads source middle)
    (second : forest.Leads middle target) : forest.Leads source target :=
  Relation.ReflTransGen.trans first second

def LeadsUsr (forest : Forest) (source target : String) : Prop :=
  ∃ start finish, (forest.cursor start).usr = source ∧ (forest.cursor finish).usr = target ∧
    forest.Leads start finish

/-- A declaration leads to a function type without a prototype. -/
def LeadsToBareFunction (forest : Forest) (start : Nat) : Prop :=
  ∃ number, forest.Leads start number ∧
    ∃ type ∈ (forest.cursor number).types, NativeType.HasBareFunction type

end Forest

/-! What a declaration reports, with USRs in place of the numbers of other declarations.
Within one translation unit, declarations of one USR report the same. -/

/-- What a type tells of the declaration that it refers to. -/
structure Target where
  usr : String
  kind : CursorKind
  spelling : String
  deriving DecidableEq

abbrev ReportedType := TypeTree (TypeKind × Option Target)

def ReportedType.kind (type : ReportedType) : TypeKind :=
  (type.facts?.map (·.kind.1)).getD .other

structure Report where
  kind : CursorKind
  spelling : String
  storage : Storage
  inlined : Bool
  /-- A definition is known. -/
  defined : Bool
  /-- The definition, or else the declaration itself, defines something. -/
  defining : Bool
  type : ReportedType
  result : ReportedType
  underlying : ReportedType
  arguments : List ReportedType
  /-- The fields of a definition, each with whether it is a bit-field. -/
  fields : Option (List (Bool × ReportedType))
  /-- The USRs of the superclasses in a definition. -/
  parents : List String
  /-- The types in the methods of a definition. -/
  methods : List ReportedType

namespace Forest

def target (forest : Forest) (number : Nat) : Target :=
  ⟨(forest.cursor number).usr, (forest.cursor number).kind, (forest.cursor number).spelling⟩

def reportFacts (forest : Forest) (facts : TypeFacts TypeKind) :
    TypeFacts (TypeKind × Option Target) :=
  { facts with kind := (facts.kind, facts.declaration.map forest.target), declaration := none }

def reportType (forest : Forest) (type : NativeType) : ReportedType :=
  type.map forest.reportFacts

def reportTypes (forest : Forest) (types : TypeTrees TypeKind) :
    TypeTrees (TypeKind × Option Target) := types.map forest.reportFacts

theorem reportType_known {forest : Forest} {facts : TypeFacts TypeKind}
    {pointee element named result canonical : NativeType} {arguments : TypeTrees TypeKind} :
    forest.reportType (.known facts pointee element named result canonical arguments) =
      .known (forest.reportFacts facts) (forest.reportType pointee) (forest.reportType element)
        (forest.reportType named) (forest.reportType result) (forest.reportType canonical)
        (forest.reportTypes arguments) := rfl

theorem isConst_reportType (forest : Forest) (type : NativeType) :
    (forest.reportType type).isConst = type.isConst := by
  cases type <;> rfl

theorem kind_reportType (forest : Forest) (type : NativeType) :
    ReportedType.kind (forest.reportType type) = type.kind := by
  cases type <;> rfl

theorem isNone_facts?_reportType (forest : Forest) (type : NativeType) :
    (forest.reportType type).facts?.isNone = type.facts?.isNone := by
  cases type <;> rfl

def reportField (forest : Forest) (number : Nat) : Bool × ReportedType :=
  ((forest.cursor number).bitfield, forest.reportType (forest.cursor number).type)

/-- A record that defines something is its own definition if it knows no other one. -/
def recordDefinition (forest : Forest) (number : Nat) : Option Nat :=
  let c := forest.cursor number
  if c.definition.isNone && c.isDefinition then some number else c.definition

def fieldNumbers (forest : Forest) (defined : Nat) : List Nat :=
  (forest.cursor defined).children.filter fun child => (forest.cursor child).kind == .field

/-- The name that a member has in the headers. An anonymous one has none. -/
def memberName (forest : Forest) (field : Nat) : String :=
  let c := forest.cursor field
  if c.spelling != "" && !c.anonymous then c.spelling else ""

def reportParent? (forest : Forest) (child : Nat) : Option String :=
  if (forest.cursor child).kind = .superclass then
    (forest.cursor child).referenced.map fun number => (forest.cursor number).usr
  else none

def reportMethod (forest : Forest) (child : Nat) : List ReportedType :=
  let c := forest.cursor child
  if c.kind.isMethod then
    forest.reportType c.result ::
      c.arguments.map fun number => forest.reportType (forest.cursor number).type
  else []

/-- What stands in the definition that a declaration knows. -/
def definedChildren (forest : Forest) (number : Nat) : List Nat :=
  ((forest.cursor number).definition.map fun defined =>
    (forest.cursor defined).children).getD []

def report (forest : Forest) (number : Nat) : Report :=
  let c := forest.cursor number
  { kind := c.kind, spelling := c.spelling, storage := c.storage, inlined := c.inlined
    defined := c.definition.isSome
    defining := (forest.cursor (c.definition.getD number)).isDefinition
    type := forest.reportType c.type
    result := forest.reportType c.result
    underlying := forest.reportType c.underlying
    arguments := c.arguments.map fun number => forest.reportType (forest.cursor number).type
    fields := (forest.recordDefinition number).map fun defined =>
      (forest.fieldNumbers defined).map forest.reportField
    parents := (forest.definedChildren number).filterMap forest.reportParent?
    methods := (forest.definedChildren number).flatMap forest.reportMethod }

/-- All declarations of one USR report the same. -/
def OneReport (forest : Forest) : Prop :=
  ∀ number other, (forest.cursor number).usr = (forest.cursor other).usr →
    forest.report number = forest.report other

/-- Declarations with USRs of their own do not share reports. -/
theorem oneReport_of_nodup {forest : Forest}
    (nodup : (forest.cursors.toList.map Cursor.usr).Nodup)
    (named : "" ∉ forest.cursors.toList.map Cursor.usr) : forest.OneReport := by
  have listed {number : Nat} (present : number < forest.size) :
      forest.cursor number = forest.cursors.toList[number] := by
    unfold size at present
    simp [cursor, present]
  have missing {number : Nat} (absent : ¬ number < forest.size) :
      forest.cursor number = {} := by
    unfold size at absent
    simp [cursor, Array.getElem?_eq_none (Nat.le_of_not_lt absent)]
  have own {number : Nat} (present : number < forest.size) :
      (forest.cursor number).usr ≠ "" := by
    intro empty
    refine named (List.mem_map.mpr ⟨_, ?_, empty⟩)
    rw [listed present]
    exact List.getElem_mem _
  intro number other same
  by_cases first : number < forest.size <;> by_cases second : other < forest.size
  · have equal : number = other := by
      rw [listed first, listed second] at same
      unfold size at first second
      refine (List.getElem?_inj (by simpa using first) nodup).mp ?_
      simpa [first, second] using same
    rw [equal]
  · rw [missing second] at same
    exact absurd same (own first)
  · rw [missing first] at same
    exact absurd same.symm (own second)
  · simp [report, recordDefinition, fieldNumbers, definedChildren, missing first,
      missing second]

end Forest

end LuaBinder.Header
