import LuaBinder.Proofs.CType.Typedefs
import LuaBinder.Proofs.Declaration.Unfolding
import LuaBinder.Proofs.Header.Part
import LuaBinder.Session.Visit

namespace LuaBinder

open Header

/-! What a session draws its declarations from, and the kind of declaration that is
published for each USR. -/

namespace Header

/-- The kind of declaration that a cursor is published as. A function is published under
the USRs of its signatures. -/
def CursorKind.published? : CursorKind → Option DeclarationKind
  | struct => some .struct
  | union => some .union
  | enumeration => some .enumeration
  | interface => some .interface
  | typedef => some .typedef
  | global => some .global
  | enumConstant | macroDefinition => some .constant
  | _ => none

end Header

def DeclarationKind.IsCompound : DeclarationKind → Prop
  | .struct | .union | .enumeration | .interface => True
  | _ => False

/-- The kind of declaration that a type of such a form refers to. -/
def Session.Form.kind (form : Form) (kind : CursorKind) : DeclarationKind :=
  match form with
  | .typedef => .typedef
  | .record => (recordKind kind).declarationKind
  | .enumeration => .enumeration
  | .interface => .interface

structure Sources where
  forest : Forest
  policies : List Policy
  /-- Types that do not stand in the forest. -/
  types : List NativeType := []

namespace Sources

variable {sources : Sources} {usr : String} {number : Nat}

def Draws (sources : Sources) (type : NativeType) : Prop :=
  type ∈ sources.types ∨ ∃ number, type ∈ (sources.forest.cursor number).types

/-- A type stands somewhere in the types of the sources. -/
def Part (sources : Sources) (part : NativeType) : Prop :=
  ∃ type, sources.Draws type ∧ part ∈ type.parts

theorem parts_of_cursor {native : NativeType}
    (own : native ∈ (sources.forest.cursor number).types) :
    ∀ part ∈ native.parts, sources.Part part :=
  fun _ member => ⟨native, .inr ⟨number, own⟩, member⟩

/-- A declaration of the kind has the USR, or is referred to under it. -/
inductive Presents (sources : Sources) : String → DeclarationKind → Prop
  | cursor {number : Nat} {kind : DeclarationKind}
      (published : (sources.forest.cursor number).kind.published? = some kind) :
      Presents sources (sources.forest.cursor number).usr kind
  | function {number : Nat} {policy : Policy} {signature : CallSignature}
      (kind : (sources.forest.cursor number).kind = .function)
      (configured : policy ∈ sources.policies)
      (bound : signature ∈ (policy.signatures.specialize
        (sources.forest.cursor number).spelling
        (sources.forest.cursor number).type.isVariadic).1) :
      Presents sources ((sources.forest.cursor number).usr ++ signature.suffix) .function
  | typedef {type : NativeType} {number : Nat} (part : sources.Part type)
      (kind : type.kind = .typedef) (declared : type.declaration? = some number) :
      Presents sources (sources.forest.cursor number).usr .typedef
  | superclass {child number : Nat}
      (kind : (sources.forest.cursor child).kind = .superclass)
      (referenced : (sources.forest.cursor child).referenced = some number) :
      Presents sources (sources.forest.cursor number).usr .interface

/-- No USR is shared by declarations of different kinds. -/
def OneKind (sources : Sources) : Prop :=
  ∀ usr kind other, sources.Presents usr kind → sources.Presents usr other → kind = other

def Requests (sources : Sources) (form : Session.Form) (number : Nat) : Prop :=
  sources.Presents (sources.forest.cursor number).usr
    (form.kind (sources.forest.cursor number).kind)

theorem isCompound_of_formOf? {form : Session.Form} {kind : CursorKind}
    (formed : Session.formOf? kind = some form) :
    kind.published? = some (form.kind kind) ∧ (form.kind kind).IsCompound := by
  cases kind <;> cases formed <;> exact ⟨rfl, trivial⟩

theorem requests_of_formOf? {form : Session.Form}
    (formed : Session.formOf? (sources.forest.cursor number).kind = some form) :
    sources.Requests form number := .cursor (isCompound_of_formOf? formed).1

/-- What a step over the sources may fail with. A frame is never found missing, and
whatever else is wrong can be seen in the sources. -/
def Raises (sources : Sources) : Session.Error → Prop
  | .duplicate _ => ¬ sources.OneKind
  | .context _ => False
  | .tooDeep => ∃ type, sources.Part type ∧ type.IsOwnTypedef
  | .selection _ | .literal _ => True

/-! The sources can be gone through, so what they present can be listed. -/

/-- All types of the sources, with those that they are built from. -/
def parts (sources : Sources) : List NativeType :=
  (sources.types ++ sources.forest.cursors.toList.flatMap Cursor.types).flatMap TypeTree.parts

theorem mem_parts_iff {part : NativeType} : part ∈ sources.parts ↔ sources.Part part := by
  simp only [parts, List.mem_flatMap, List.mem_append]
  constructor
  · rintro ⟨type, own | ⟨c, listed, own⟩, found⟩
    · exact ⟨type, .inl own, found⟩
    · obtain ⟨number, rfl⟩ := Forest.exists_number listed
      exact ⟨type, .inr ⟨number, own⟩, found⟩
  · rintro ⟨type, own | ⟨number, own⟩, found⟩
    · exact ⟨type, .inl own, found⟩
    · rcases sources.forest.cursor_cases number with listed | missing
      · exact ⟨type, .inr ⟨_, listed, own⟩, found⟩
      · obtain rfl : type = .absent := by simpa [missing, Cursor.types] using own
        simp [TypeTree.parts] at found

def presentedBy (sources : Sources) (c : Cursor) : List (String × DeclarationKind) :=
  c.kind.published?.toList.map (c.usr, ·) ++
    (if c.kind = .function then
      sources.policies.flatMap fun policy =>
        (policy.signatures.specialize c.spelling c.type.isVariadic).1.map fun signature =>
          (c.usr ++ signature.suffix, .function)
    else []) ++
    if c.kind = .superclass then
      c.referenced.toList.map fun number => ((sources.forest.cursor number).usr, .interface)
    else []

def presentedBelow (sources : Sources) (type : NativeType) : List (String × DeclarationKind) :=
  if type.kind = .typedef then
    type.declaration?.toList.map fun number => ((sources.forest.cursor number).usr, .typedef)
  else []

def presented (sources : Sources) : List (String × DeclarationKind) :=
  sources.forest.cursors.toList.flatMap sources.presentedBy ++
    sources.parts.flatMap sources.presentedBelow

theorem mem_presented_of_cursor (number : Nat) {entry : String × DeclarationKind}
    (found : entry ∈ sources.presentedBy (sources.forest.cursor number)) :
    entry ∈ sources.presented := by
  refine List.mem_append_left _ (List.mem_flatMap.mpr ?_)
  rcases sources.forest.cursor_cases number with listed | missing
  · exact ⟨_, listed, found⟩
  · simp [missing, presentedBy, CursorKind.published?] at found

theorem mem_presented_iff {kind : DeclarationKind} :
    (usr, kind) ∈ sources.presented ↔ sources.Presents usr kind := by
  constructor
  · intro listed
    rcases List.mem_append.mp listed with listed | listed
    · obtain ⟨c, own, found⟩ := List.mem_flatMap.mp listed
      obtain ⟨number, rfl⟩ := Forest.exists_number own
      simp only [presentedBy, List.mem_append] at found
      rcases found with (found | found) | found
      · obtain ⟨published, rfl⟩ : (sources.forest.cursor number).kind.published? = some kind ∧
            (sources.forest.cursor number).usr = usr := by simpa using found
        exact .cursor published
      · split at found
        · rename_i function
          simp only [List.mem_flatMap, List.mem_map, Prod.mk.injEq] at found
          obtain ⟨policy, configured, signature, bound, rfl, rfl⟩ := found
          exact .function function configured bound
        · simp at found
      · split at found
        · rename_i superclass
          obtain ⟨parent, referenced, same⟩ := List.mem_map.mp found
          cases same
          exact .superclass superclass (Option.mem_toList.mp referenced)
        · simp at found
    · obtain ⟨type, part, found⟩ := List.mem_flatMap.mp listed
      rw [presentedBelow] at found
      split at found
      · rename_i named
        obtain ⟨target, declared, same⟩ := List.mem_map.mp found
        cases same
        exact .typedef (mem_parts_iff.mp part) named (Option.mem_toList.mp declared)
      · simp at found
  · intro presents
    cases presents with
    | @cursor number _ published =>
        exact mem_presented_of_cursor number (by simp [presentedBy, published])
    | @function number _ _ function configured bound =>
        refine mem_presented_of_cursor number ?_
        simp only [presentedBy, function, ↓reduceIte, List.mem_append, List.mem_flatMap,
          List.mem_map]
        exact .inl (.inr ⟨_, configured, _, bound, rfl⟩)
    | typedef part named declared =>
        refine List.mem_append_right _ (List.mem_flatMap.mpr ⟨_, mem_parts_iff.mpr part, ?_⟩)
        simp [presentedBelow, named, declared]
    | @superclass child _ superclass referenced =>
        exact mem_presented_of_cursor child (by simp [presentedBy, superclass, referenced])

/-- The declarations that are requested, with the form of the request. -/
def requests (sources : Sources) : List (Session.Form × Nat) :=
  (List.range sources.forest.size).flatMap fun number =>
    [Session.Form.typedef, .record, .enumeration, .interface].filterMap fun form =>
      if ((sources.forest.cursor number).usr, form.kind (sources.forest.cursor number).kind) ∈
          sources.presented then some (form, number)
      else none

/-- Numbers that stand for nothing are not listed. -/
theorem mem_requests_iff {form : Session.Form} (named : "" ∉ sources.presented.map (·.1)) :
    (form, number) ∈ sources.requests ↔ sources.Requests form number := by
  have present (listed : ((sources.forest.cursor number).usr,
      form.kind (sources.forest.cursor number).kind) ∈ sources.presented) :
      number < sources.forest.size := by
    rw [Forest.size]
    by_contra absent
    have missing : sources.forest.cursor number = {} := by
      simp [Forest.cursor, Array.getElem?_eq_none (Nat.le_of_not_lt absent)]
    refine named (List.mem_map.mpr ⟨_, listed, ?_⟩)
    rw [missing]
  rw [Requests, ← mem_presented_iff]
  simp only [requests, List.mem_flatMap, List.mem_range, List.mem_filterMap]
  constructor
  · intro given
    obtain ⟨other, -, form', -, same⟩ := given
    split at same
    · rename_i listed
      cases same
      exact listed
    · cases same
  · intro listed
    exact ⟨number, present listed, form, by cases form <;> simp, if_pos listed⟩

instance : Decidable sources.OneKind :=
  decidable_of_iff
    (∀ first ∈ sources.presented, ∀ second ∈ sources.presented,
      first.1 = second.1 → first.2 = second.2)
    ⟨fun agree usr kind other first second =>
        agree (usr, kind) (mem_presented_iff.mpr first) (usr, other)
          (mem_presented_iff.mpr second) rfl,
      fun oneKind first listed second listed' same =>
        oneKind first.1 first.2 second.2 (mem_presented_iff.mp listed)
          (mem_presented_iff.mp (same ▸ listed'))⟩

end Sources

/-! What becomes of a type when it is resolved. -/

inductive Resolution (forest : Forest) : NativeType → CType → Prop
  | primitive {native : NativeType} (primitive : Primitive) :
      Resolution forest native (.primitive primitive)
  | unsupported {native : NativeType} (reason : String) :
      Resolution forest native (.unsupported reason)
  | pointer {native : NativeType} {target : CType} {const : Bool}
      (kind : native.kind = .pointer ∨ native.kind = .objectPointer)
      (resolution : Resolution forest native.pointee target) :
      Resolution forest native (.pointer target const)
  | array {native : NativeType} {element : CType} {length : Option Int}
      (kind : native.kind = .constantArray ∨ native.kind = .incompleteArray)
      (resolution : Resolution forest native.element element) :
      Resolution forest native (.array element length)
  | elaborated {native : NativeType} {type : CType} (kind : native.kind = .elaborated)
      (resolution : Resolution forest native.named type) : Resolution forest native type
  | canonical {native : NativeType} {type : CType}
      (kind : native.kind = .unexposed ∨
        native.kind = .typedef ∧ native.declaration? = none)
      (resolution : Resolution forest native.canonical type) : Resolution forest native type
  | typedef {native : NativeType} {number : Nat} (kind : native.kind = .typedef)
      (declared : native.declaration? = some number) :
      Resolution forest native (.typedef (forest.cursor number).usr)
  | compound {native : NativeType} {number : Nat} {form : Session.Form}
      (declared : native.declaration? = some number)
      (formed : Session.formOf? (forest.cursor number).kind = some form) :
      Resolution forest native (.compound (forest.cursor number).usr)
  | bareFunction {native : NativeType} {result : CType}
      (kind : native.kind = .functionNoPrototype)
      (resolution : Resolution forest native.result result) :
      Resolution forest native (.function result .nil false)
  | function {native : NativeType} {result : CType} {params : List (String × CType)}
      {store : Store} (origin : String × CType → NativeType)
      (listed : ∀ p ∈ params, origin p ∈ native.arguments)
      (each : ∀ p ∈ params, Resolution forest (origin p) p.2)
      (resolution : Resolution forest native.result result)
      (usable : Session.isUsableSignature store params result = true) :
      Resolution forest native (.function result (.ofList params) false)

namespace Resolution

variable {sources : Sources} {forest : Forest} {native : NativeType} {type : CType}

/-- What a resolved type mentions is of the kind that the mention requires. -/
theorem presented (resolution : Resolution sources.forest native type)
    (parts : ∀ part ∈ native.parts, sources.Part part) :
    (∀ key ∈ type.typedefs, sources.Presents key .typedef) ∧
      ∀ key ∈ type.compounds, ∃ kind, kind.IsCompound ∧ sources.Presents key kind := by
  have below {native child : NativeType} (parts : ∀ part ∈ native.parts, sources.Part part)
      (listed : child ∈ native.children) : ∀ part ∈ child.parts, sources.Part part :=
    fun part member => parts part (TypeTree.parts_subset_of_child listed member)
  induction resolution with
  | primitive | unsupported => simp [CType.typedefs, CType.compounds]
  | pointer _ _ induction => exact induction (below parts (by simp [TypeTree.children]))
  | array _ _ induction => exact induction (below parts (by simp [TypeTree.children]))
  | elaborated _ _ induction => exact induction (below parts (by simp [TypeTree.children]))
  | canonical _ _ induction => exact induction (below parts (by simp [TypeTree.children]))
  | typedef kind declared =>
      refine ⟨fun key found => ?_, by simp [CType.compounds]⟩
      rw [List.mem_singleton.mp found]
      exact .typedef (parts _ (TypeTree.mem_parts_self declared)) kind declared
  | compound declared formed =>
      refine ⟨by simp [CType.typedefs], fun key found => ?_⟩
      rw [List.mem_singleton.mp found]
      exact ⟨_, (Sources.isCompound_of_formOf? formed).2, Sources.requests_of_formOf? formed⟩
  | bareFunction _ _ induction =>
      have inner := induction (below parts (by simp [TypeTree.children]))
      simpa [CType.typedefs, CType.compounds, Params.typedefs, Params.compounds] using inner
  | function origin listed each _ usable others induction =>
      have inner := induction (below parts (by simp [TypeTree.children]))
      have params (p) (member : p ∈ _) := others p member
        (below parts (by simp [TypeTree.children, listed p member]))
      refine ⟨fun key found => ?_, fun key found => ?_⟩
      · rcases List.mem_append.mp found with found | found
        · exact inner.1 key found
        · obtain ⟨p, member, found⟩ := Params.mem_typedefs_ofList.mp found
          exact (params p member).1 key found
      · rcases List.mem_append.mp found with found | found
        · exact inner.2 key found
        · obtain ⟨p, member, found⟩ := Params.mem_compounds_ofList.mp found
          exact (params p member).2 key found

/-- A typedef below pointers and arrays is the one that the native type names. -/
theorem exists_alias (resolution : Resolution forest native type) {key : String}
    (named : type.core = .typedef key) :
    ∃ number, native.alias? = some number ∧ (forest.cursor number).usr = key := by
  induction resolution with
  | primitive | unsupported | compound | bareFunction | function => simp [CType.core] at named
  | pointer kind _ induction => exact NativeType.alias?_pointee kind ▸ induction named
  | array kind _ induction => exact NativeType.alias?_element kind ▸ induction named
  | elaborated kind _ induction => exact NativeType.alias?_named kind ▸ induction named
  | canonical kind _ induction => exact NativeType.alias?_canonical kind ▸ induction named
  | typedef kind declared =>
      exact ⟨_, NativeType.alias?_declared kind declared, CType.typedef.inj named⟩

end Resolution

end LuaBinder
