import LuaBinder.Proofs.CType.Typedefs
import LuaBinder.Proofs.Declaration.Growth
import LuaBinder.Proofs.Header.Reference
import LuaBinder.Session.Build

namespace LuaBinder

open Header Session

/-! What declarations come to when a given store is asked what their types stand for. It is
not said here where that store comes from. -/

/-- What becomes of a type, the declarations that are asked for on the way, and the types
that the outcome is made dependent on. -/
structure Answer where
  type : CType
  asked : List String := []
  weighed : List CType := []

namespace Answer

def map (change : CType → CType) (answer : Answer) : Answer :=
  { answer with type := change answer.type }

def unsupported (spelling reason : String) : Answer :=
  { type := .unsupported (reason ++ ": " ++ spelling) }

def ofCompound (facts : TypeFacts (TypeKind × Option Target)) : Answer :=
  match facts.kind.2 with
  | none => .unsupported facts.spelling "compound type without declaration"
  | some target =>
      match formOf? target.kind with
      | some _ => { type := .compound target.usr, asked := [target.usr] }
      | none => .unsupported facts.spelling ("unsupported compound " ++ target.kind.name)

def ofTypedef (target : Target) : Answer :=
  match Primitive.wellKnown? target.spelling with
  | some primitive => { type := .primitive primitive }
  | none => { type := .typedef target.usr, asked := [target.usr] }

def ofObject : ReportedType → Answer
  | .known facts _ _ _ _ _ _ =>
      if facts.kind.1 == .interface then (ofCompound facts).map fun type => .pointer type false
      else { type := .primitive .objcId }
  | .absent => { type := .primitive .objcId }

/-- Of the result it matters only whether there is a binding below all layers. -/
def ofFunction (view : Store) (facts : TypeFacts (TypeKind × Option Target))
    (params : List (String × Answer)) (result : Answer) : Answer :=
  let types := params.map fun p => (p.1, p.2.type)
  { type :=
      if isUsableSignature view types result.type then
        .function result.type (.ofList types) false
      else .unsupported ("function type with unsupported signature: " ++ facts.spelling)
    asked := params.flatMap (·.2.asked) ++ result.asked
    weighed := params.flatMap (·.2.weighed) ++ result.weighed ++
      .pointer result.type false :: types.map (·.2) }

mutual

def ofType (view : Store) : ReportedType → Answer
  | .absent => .unsupported "" ("unsupported type kind " ++ TypeKind.other.name)
  | .known facts pointee element named result canonical arguments =>
      match facts.kind.1.primitive?, facts.kind.1.unsupported? with
      | some primitive, _ => { type := .primitive primitive }
      | none, some reason => .unsupported facts.spelling reason
      | none, none =>
          match facts.kind.1 with
          | .pointer => (ofType view pointee).map fun type => .pointer type pointee.isConst
          | .objectPointer => ofObject pointee
          | .constantArray =>
              (ofType view element).map fun type => .array type (some facts.count)
          | .incompleteArray => (ofType view element).map fun type => .array type none
          | .elaborated => ofType view named
          | .typedef =>
              match facts.kind.2 with
              | some target => ofTypedef target
              | none => ofType view canonical
          | .record | .enumeration | .interface => ofCompound facts
          | .functionNoPrototype =>
              (ofType view result).map fun type => .function type .nil false
          | .functionPrototype =>
              if facts.variadic then .unsupported facts.spelling "variadic function type"
              else ofFunction view facts (ofTypes view 0 arguments) (ofType view result)
          | .unexposed =>
              if ReportedType.kind canonical == .unexposed || canonical.facts?.isNone then
                .unsupported facts.spelling "unexposed type"
              else ofType view canonical
          | kind => .unsupported facts.spelling ("unsupported type kind " ++ kind.name)

def ofTypes (view : Store) : Nat → TypeTrees (TypeKind × Option Target) →
    List (String × Answer)
  | _, .nil => []
  | index, .cons first rest =>
      ("arg" ++ toString index, ofType view first) :: ofTypes view (index + 1) rest

end

end Answer

namespace Answer

variable {view : Store}

theorem mentions_ofCompound {facts : TypeFacts (TypeKind × Option Target)} :
    (ofCompound facts).type.mentions ⊆ (ofCompound facts).asked := by
  unfold ofCompound
  split
  · exact List.nil_subset _
  · split
    · exact fun _ mentioned => mentioned
    · exact List.nil_subset _

theorem mentions_ofTypedef {target : Target} :
    (ofTypedef target).type.mentions ⊆ (ofTypedef target).asked := by
  unfold ofTypedef
  split
  · exact List.nil_subset _
  · exact fun _ mentioned => mentioned

theorem mentions_ofObject {pointee : ReportedType} :
    (ofObject pointee).type.mentions ⊆ (ofObject pointee).asked := by
  unfold ofObject
  split
  · split
    · exact mentions_ofCompound
    · exact List.nil_subset _
  · exact List.nil_subset _

theorem mentions_ofFunction {facts : TypeFacts (TypeKind × Option Target)}
    {params : List (String × Answer)} {result : Answer}
    (inParams : ∀ p ∈ params, p.2.type.mentions ⊆ p.2.asked)
    (inResult : result.type.mentions ⊆ result.asked) :
    (ofFunction view facts params result).type.mentions ⊆
      (ofFunction view facts params result).asked := by
  intro key mentioned
  simp only [ofFunction] at mentioned ⊢
  split at mentioned
  · rcases List.mem_append.mp mentioned with mentioned | mentioned
    · exact List.mem_append_right _ (inResult mentioned)
    · obtain ⟨given, found, mentioned⟩ := Params.mem_mentions_ofList.mp mentioned
      obtain ⟨p, listed, rfl⟩ := List.mem_map.mp found
      exact List.mem_append_left _
        (List.mem_flatMap.mpr ⟨p, listed, inParams p listed mentioned⟩)
  · exact absurd mentioned List.not_mem_nil

mutual

/-- Whatever a type comes to mention has been asked for. -/
theorem mentions_ofType : (type : ReportedType) →
    (ofType view type).type.mentions ⊆ (ofType view type).asked
  | .absent => List.nil_subset _
  | .known facts pointee element named result canonical arguments => by
      rw [ofType]
      split
      · exact List.nil_subset _
      · exact List.nil_subset _
      split
      · exact mentions_ofType pointee
      · exact mentions_ofObject
      · exact mentions_ofType element
      · exact mentions_ofType element
      · exact mentions_ofType named
      · split
        · exact mentions_ofTypedef
        · exact mentions_ofType canonical
      · exact mentions_ofCompound
      · exact mentions_ofCompound
      · exact mentions_ofCompound
      · simpa [map, CType.mentions, Params.mentions] using mentions_ofType result
      · split
        · exact List.nil_subset _
        · exact mentions_ofFunction (mentions_ofTypes 0 arguments) (mentions_ofType result)
      · split
        · exact List.nil_subset _
        · exact mentions_ofType canonical
      · exact List.nil_subset _

theorem mentions_ofTypes : (index : Nat) →
    (types : TypeTrees (TypeKind × Option Target)) →
    ∀ p ∈ ofTypes view index types, p.2.type.mentions ⊆ p.2.asked
  | _, .nil => by simp [ofTypes]
  | index, .cons first rest => by
      intro p listed
      rw [ofTypes] at listed
      rcases List.mem_cons.mp listed with rfl | listed
      · exact mentions_ofType first
      · exact mentions_ofTypes (index + 1) rest p listed

end

/-- The type is the answer, and whatever was asked for is published. -/
def Given (answer : Answer) (type : CType) (store : Store) : Prop :=
  type = answer.type ∧ answer.asked ⊆ store.keys

/-- Parameters are resolved in turn; what the first ones ask for stays published. -/
structure AllGiven (answers : List (String × Answer))
    (params : List (String × CType)) (store : Store) : Prop where
  types : params = answers.map fun p => (p.1, p.2.type)
  asked : answers.flatMap (·.2.asked) ⊆ store.keys

theorem AllGiven.keys {answers : List (String × Answer)} {params : List (String × CType)}
    {store grown : Store} (all : AllGiven answers params store)
    (keys : store.keys ⊆ grown.keys) : AllGiven answers params grown :=
  ⟨all.types, List.Subset.trans all.asked keys⟩

end Answer

/-- The members of a record as far as the first one without a layout; no types if there is
such a member. -/
structure Layout where
  types : Option (List CType)
  asked : List String := []
  weighed : List CType := []

def Layout.before (view : Store) (first : Answer) (others : Layout) : Layout :=
  if (memberProblem? view "" first.type).isSome then
    { types := none, asked := first.asked, weighed := first.weighed ++ [first.type] }
  else
    { types := others.types.map (first.type :: ·)
      asked := first.asked ++ others.asked
      weighed := first.weighed ++ first.type :: others.weighed }

def Layout.ofFields (view : Store) : List (Bool × ReportedType) → Layout
  | [] => { types := some [] }
  | (true, _) :: _ => { types := none }
  | (false, type) :: rest => .before view (.ofType view type) (ofFields view rest)

/-- The first member is asked for and weighed whether there is a layout or not. -/
theorem Layout.first_subset (view : Store) (first : Answer) (others : Layout) :
    first.asked ⊆ (before view first others).asked ∧
      first.type :: first.weighed ⊆ (before view first others).weighed := by
  unfold before
  split <;> simp

/-- The types of a layout have been asked for, and the layout depends on each of them. -/
theorem Layout.mem_types_ofFields {view : Store} (fields : List (Bool × ReportedType))
    {types : List CType} (laid : (ofFields view fields).types = some types) :
    ∀ type ∈ types, type ∈ (ofFields view fields).weighed ∧
      type.mentions ⊆ (ofFields view fields).asked := by
  induction fields generalizing types with
  | nil =>
      obtain rfl : [] = types := by simpa [ofFields] using laid
      simp
  | cons field rest induction =>
      obtain ⟨bitfield, native⟩ := field
      cases bitfield with
      | true => simp [ofFields] at laid
      | false =>
          rw [ofFields] at laid ⊢
          unfold before at laid ⊢
          split at laid
          · simp at laid
          · rename_i fine
            obtain ⟨others, given, rfl⟩ := Option.map_eq_some_iff.mp laid
            simp only [fine, Bool.false_eq_true, ↓reduceIte]
            intro type member
            rcases List.mem_cons.mp member with rfl | member
            · exact ⟨by simp, List.subset_append_of_subset_left _ (Answer.mentions_ofType native)⟩
            · obtain ⟨weighed, asked⟩ := induction given type member
              exact ⟨by simp [weighed], List.subset_append_of_subset_right _ asked⟩

theorem Session.isSome_memberProblem? {store view : Store} {type : CType} (name other : String)
    (supported : store.isUnsupported type = view.isUnsupported type)
    (complete : store.isIncomplete type = view.isIncomplete type) :
    (memberProblem? store name type).isSome = (memberProblem? view other type).isSome := by
  unfold memberProblem?
  rw [supported, complete]
  split
  · simp only [Option.isSome_some]
  split
  · simp only [Option.isSome_some]
  split
  · simp only [Option.isSome_some]
  · rfl

theorem Session.isSome_memberProblem?_iff {store : Store} {name : String} {type : CType} :
    (memberProblem? store name type).isSome = true ↔
      store.isUnsupported type = true ∨ store.isIncomplete type = true ∨
        isFlexibleArray type = true := by
  unfold memberProblem?
  split
  · simp_all
  split
  · simp_all
  split <;> simp_all

namespace Header.Report

variable (view : Store) (report : Report)

def layout : Layout :=
  match report.fields with
  | some fields => .ofFields view fields
  | none => { types := none }

/-- What building the declaration asks for. -/
def asked : Form → List String
  | .typedef => (Answer.ofType view report.underlying).asked
  | .record => (report.layout view).asked
  | .enumeration => []
  | .interface =>
      report.parents ++ report.methods.flatMap fun type => (Answer.ofType view type).asked

/-- The types that the outcome of building the declaration depends on. -/
def weighed : Form → List CType
  | .typedef => (Answer.ofType view report.underlying).weighed
  | .record => (report.layout view).weighed
  | .enumeration => []
  | .interface => report.methods.flatMap fun type => (Answer.ofType view type).weighed

/-- What a typedef stands for, and whether a compound has no layout. -/
def status : Form → Option CType × Bool
  | .typedef => (some (Answer.ofType view report.underlying).type, false)
  | .record => (none, (report.layout view).types.isNone)
  | .enumeration => (none, !report.defining)
  | .interface => (none, !report.defined)

end Header.Report

/-- The declaration of a record defines these members, if the given store is asked about
their types. -/
structure Header.Forest.Lays (forest : Forest) (number : Nat) (view : Store)
    (members : List Member) : Prop where
  formed : formOf? (forest.cursor number).kind = some .record
  types : ((forest.report number).layout view).types = some (members.map (·.type))
  names : ∀ defined, forest.recordDefinition number = some defined →
    members.map (·.nativeName) = (forest.fieldNumbers defined).map forest.memberName

/-- The declaration of a record defines nothing, or members that cannot all be laid out. -/
structure Header.Forest.Hides (forest : Forest) (number : Nat) (view : Store) : Prop where
  formed : formOf? (forest.cursor number).kind = some .record
  unlaid : ((forest.report number).layout view).types = none

theorem Header.Forest.layout_report {forest : Forest} {number defined : Nat} (view : Store)
    (found : forest.recordDefinition number = some defined) :
    (forest.report number).layout view =
      .ofFields view ((forest.fieldNumbers defined).map forest.reportField) := by
  simp [Report.layout, report, found]

/-- Without a definition there is nothing to lay out. -/
theorem Header.Forest.layout_report_of_none {forest : Forest} {number : Nat} (view : Store)
    (unknown : forest.recordDefinition number = none) :
    ((forest.report number).layout view).types = none := by
  simp [Report.layout, report, unknown]

def Store.status (store : Store) (key : String) : Option CType × Bool :=
  (store.underlying? key, store.isIncomplete (.compound key))

/-- The declaration that decides what becomes of a type, if one does. -/
def CType.head? (type : CType) : Option String :=
  match type.core with
  | .typedef key => some key
  | _ =>
      match type.element with
      | .compound key => some key
      | _ => none

end LuaBinder
