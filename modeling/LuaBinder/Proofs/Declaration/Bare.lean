import LuaBinder.Declaration.Store
import LuaBinder.Proofs.Declaration.Growth

namespace LuaBinder

/-! Declarations without what a policy may call them and without their documentation.
What a type stands for does not depend on either. -/

def Parameter.bare (p : Parameter) : Parameter := { p with name := "" }

def Member.bare (m : Member) : Member := { m with name := "", doc := "" }

def EnumConstant.bare (c : EnumConstant) : EnumConstant := { c with name := "", doc := "" }

def Method.bare (m : Method) : Method :=
  { m with name := "", params := m.params.map Parameter.bare, doc := "" }

def Function.bare (f : Function) : Function := { f with params := f.params.map Parameter.bare }

def Body.bare : Body → Body
  | .function f => .function f.bare
  | .record kind incomplete members => .record kind incomplete (members.map Member.bare)
  | .enumeration incomplete constants =>
      .enumeration incomplete (constants.map EnumConstant.bare)
  | .interface incomplete superclass methods =>
      .interface incomplete superclass (methods.map Method.bare)
  | body => body

def Declaration.bare (d : Declaration) : Declaration :=
  { d with name := "", doc := "", body := d.body.bare }

def Store.bare (store : Store) : Store :=
  ⟨store.entries.map fun entry => (entry.1, entry.2.bare)⟩

namespace Body

variable {body : Body}

@[simp] theorem kind_bare : body.bare.kind = body.kind := by cases body <;> rfl

@[simp] theorem isIncomplete_bare : body.bare.isIncomplete = body.isIncomplete := by
  cases body <;> rfl

@[simp] theorem isCompound_bare : body.bare.isCompound = body.isCompound := by
  cases body <;> rfl

@[simp] theorem underlying?_bare : body.bare.underlying? = body.underlying? := by
  cases body <;> rfl

end Body

namespace Store

variable {store other : Store} {key : String} {type : CType}

@[simp] theorem keys_bare : store.bare.keys = store.keys := by
  simp [bare, keys]

@[simp] theorem lookup?_bare :
    store.bare.lookup? key = (store.lookup? key).map Declaration.bare := by
  simp [bare, lookup?, List.find?_map, Function.comp_def]

@[simp] theorem body?_bare : store.bare.body? key = (store.body? key).map Body.bare := by
  simp [body?, Function.comp_def, Declaration.bare]

@[simp] theorem underlying?_bare : store.bare.underlying? key = store.underlying? key := by
  rw [underlying?_eq, underlying?_eq, body?_bare]
  cases store.body? key <;> simp

@[simp] theorem isUnsupported_bare : store.bare.isUnsupported type = store.isUnsupported type :=
  isUnsupported_congr fun _ => underlying?_bare

@[simp] theorem held?_bare : store.bare.held? type = store.held? type := by
  refine Option.ext fun key => ?_
  rw [held?_eq_some_iff, held?_eq_some_iff]
  simp only [unfolds_congr fun _ => underlying?_bare]

@[simp] theorem isIncomplete_bare : store.bare.isIncomplete type = store.isIncomplete type := by
  rw [Bool.eq_iff_iff, isIncomplete_iff, isIncomplete_iff]
  simp [unfolds_congr fun _ => underlying?_bare]

theorem bare_push {d : Declaration} : (store.push d).bare = store.bare.push d.bare := by
  simp [bare, push, Declaration.bare]

theorem bare_amendBody {change changed : Body → Body}
    (commutes : ∀ body, (change body).bare = changed body.bare) :
    (store.amendBody key change).bare = store.bare.amendBody key changed := by
  simp only [bare, amendBody, mapBodies, List.map_map]
  refine congrArg Store.mk (List.map_congr_left fun entry _ => ?_)
  by_cases found : entry.1 = key <;> simp [found, Declaration.bare, commutes]

/-! Stores that differ only in names and documentation. -/

variable (same : store.bare = other.bare)
include same

theorem keys_of_bare : store.keys = other.keys := by
  simpa using congrArg keys same

theorem size_of_bare : store.size = other.size := by
  simpa using congrArg List.length (keys_of_bare same)

theorem contains_of_bare : store.contains key = other.contains key := by
  rw [Bool.eq_iff_iff, contains_iff_mem_keys, contains_iff_mem_keys, keys_of_bare same]

theorem lookup?_of_bare :
    (store.lookup? key).map Declaration.bare = (other.lookup? key).map Declaration.bare := by
  simpa using congrArg (lookup? · key) same

theorem underlying?_of_bare : store.underlying? key = other.underlying? key := by
  simpa using congrArg (underlying? · key) same

theorem isUnsupported_of_bare : store.isUnsupported type = other.isUnsupported type := by
  simpa using congrArg (isUnsupported · type) same

theorem isIncomplete_of_bare : store.isIncomplete type = other.isIncomplete type := by
  simpa using congrArg (isIncomplete · type) same

end Store

/-! Declarations without their documentation. Nothing that a type stands for, and no way to spell
it, depends on what the documentation says. -/

def Member.undocumented (m : Member) : Member := { m with doc := "" }

def EnumConstant.undocumented (c : EnumConstant) : EnumConstant := { c with doc := "" }

def Method.undocumented (m : Method) : Method := { m with doc := "" }

def Body.undocumented : Body → Body
  | .record kind incomplete members =>
      .record kind incomplete (members.map Member.undocumented)
  | .enumeration incomplete constants =>
      .enumeration incomplete (constants.map EnumConstant.undocumented)
  | .interface incomplete superclass methods =>
      .interface incomplete superclass (methods.map Method.undocumented)
  | body => body

def Declaration.undocumented (d : Declaration) : Declaration :=
  { d with doc := "", body := d.body.undocumented }

/-- The same of declarations under their keys. -/
def undocumented (entries : List (String × Declaration)) : List (String × Declaration) :=
  entries.map (Prod.map id Declaration.undocumented)

def Store.undocumented (store : Store) : Store := ⟨LuaBinder.undocumented store.entries⟩

namespace Body

variable {body : Body}

@[simp] theorem kind_undocumented : body.undocumented.kind = body.kind := by cases body <;> rfl

@[simp] theorem isIncomplete_undocumented :
    body.undocumented.isIncomplete = body.isIncomplete := by
  cases body <;> rfl

@[simp] theorem keyword_undocumented : body.undocumented.keyword = body.keyword := by
  cases body <;> rfl

end Body

namespace Declaration

variable {d : Declaration}

@[simp] theorem nativeName_undocumented : d.undocumented.nativeName = d.nativeName := rfl

@[simp] theorem name_undocumented : d.undocumented.name = d.name := rfl

@[simp] theorem doc_undocumented : d.undocumented.doc = "" := rfl

@[simp] theorem body_undocumented : d.undocumented.body = d.body.undocumented := rfl

@[simp] theorem kind_undocumented : d.undocumented.kind = d.kind := Body.kind_undocumented

@[simp] theorem spelling_undocumented : d.undocumented.spelling = d.spelling := by
  obtain ⟨usr, nativeName, name, doc, body⟩ := d
  cases body <;> rfl

@[simp] theorem function?_undocumented : d.undocumented.function? = d.function? := by
  obtain ⟨usr, nativeName, name, doc, body⟩ := d
  cases body <;> rfl

@[simp] theorem underlying?_undocumented : d.undocumented.underlying? = d.underlying? := by
  obtain ⟨usr, nativeName, name, doc, body⟩ := d
  cases body <;> rfl

@[simp] theorem isRecord_undocumented : d.undocumented.isRecord = d.isRecord := by
  obtain ⟨usr, nativeName, name, doc, body⟩ := d
  cases body <;> rfl

@[simp] theorem isTypedef_undocumented : d.undocumented.isTypedef = d.isTypedef := by
  simp [isTypedef]

end Declaration

namespace Store

variable {store : Store}

@[simp] theorem lookup?_undocumented (key : String) :
    store.undocumented.lookup? key = (store.lookup? key).map Declaration.undocumented := by
  simp [undocumented, LuaBinder.undocumented, lookup?, List.find?_map, Function.comp_def]

@[simp] theorem size_undocumented : store.undocumented.size = store.size := by
  simp [undocumented, LuaBinder.undocumented, size]

@[simp] theorem underlying?_undocumented (key : String) :
    store.undocumented.underlying? key = store.underlying? key := by
  rw [underlying?, underlying?, lookup?_undocumented]
  cases store.lookup? key <;> simp

theorem baseWithin_undocumented : (fuel : Nat) → (type : CType) →
    store.undocumented.baseWithin fuel type = store.baseWithin fuel type
  | 0, _ => rfl
  | fuel + 1, type => by
      rw [baseWithin, baseWithin]
      congr
      funext key
      rw [underlying?_undocumented, funext (baseWithin_undocumented fuel)]

@[simp] theorem base_undocumented (type : CType) :
    store.undocumented.base type = store.base type := by
  rw [base, base, size_undocumented, baseWithin_undocumented]

@[simp] theorem declare_undocumented (type : CType) (name : String) :
    store.undocumented.declare type name = store.declare type name := by
  have spelled : store.undocumented.spelling = store.spelling := by
    simp [spelling, Function.comp_def]
  rw [declare, declare, spelled]

end Store

end LuaBinder
