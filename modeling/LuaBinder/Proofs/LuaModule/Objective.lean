import LuaBinder.Proofs.LuaModule.Faults
import LuaBinder.Proofs.LuaModule.Sizes

namespace LuaBinder

/-! Where the names of the Objective-C runtime are used, and when they are declared. -/

open LuaModule

mutual

/-- A primitive of the Objective-C runtime stands somewhere in the type, be it in the result or
in a parameter of a function. -/
def CType.mentionsObjective : CType → Bool
  | .pointer target _ => target.mentionsObjective
  | .array element _ => element.mentionsObjective
  | .function result params _ => result.mentionsObjective || params.mentionsObjective
  | type => isObjectiveType type

def Params.mentionsObjective : Params → Bool
  | .nil => false
  | .cons _ type rest => type.mentionsObjective || rest.mentionsObjective

end

/-- Below all pointers and arrays, such a primitive stands by itself or within a function. -/
theorem CType.core_of_mentionsObjective : (type : CType) → type.mentionsObjective = true →
    isObjectiveType type.core = true ∨ type.core.isFunction = true
  | .pointer target _, mentioned => core_of_mentionsObjective target mentioned
  | .array element _, mentioned => core_of_mentionsObjective element mentioned
  | .function _ _ _, _ => .inr rfl
  | .primitive _, mentioned | .compound _, mentioned | .typedef _, mentioned
  | .unsupported _, mentioned => .inl mentioned

theorem Store.base_of_core (store : Store) {type : CType}
    (objective : isObjectiveType type.core = true) : store.base type = type.core := by
  rw [Store.base, Store.baseWithin, CType.baseWith_eq]
  cases own : type.core with
  | typedef key =>
      rw [own] at objective
      cases objective
  | _ => rfl

namespace LuaModule

variable {store : Store} {bindings : List Binding} {d : Declaration}

/-- A class, or a declaration with a type that stands for a primitive of the Objective-C
runtime below all pointers, arrays and typedefs. -/
def ShowsObjective (store : Store) (d : Declaration) : Prop :=
  d.kind = .interface ∨ ∃ types, ownTypes d = .ok types ∧
    ∃ type ∈ types, isObjectiveType (store.base type) = true

theorem usesObjective_eq (store : Store) (typed : ∀ binding ∈ bindings, Typed binding.2) :
    ∃ objective, usesObjective store bindings = .ok objective ∧
      (objective = true ↔ ∃ binding ∈ bindings, ShowsObjective store binding.2) := by
  induction bindings with
  | nil => exact ⟨false, rfl, by simp⟩
  | cons binding rest induction =>
      obtain ⟨own, others⟩ := List.forall_mem_cons.mp typed
      obtain ⟨objective, further, shows⟩ := induction others
      obtain ⟨types, written, -⟩ := exists_ownTypes own
      have here : ShowsObjective store binding.2 ↔ binding.2.kind = .interface ∨
          (types.any fun type => isObjectiveType (store.base type)) = true := by
        simp [ShowsObjective, written]
      rw [usesObjective, written, further]
      simp only [List.exists_mem_cons_iff, ← shows, here]
      by_cases interface : binding.2.kind = .interface
      · exact ⟨true, by rw [interface]; rfl, by simp [interface]⟩
      · rw [if_neg (by simpa using interface)]
        cases found : types.any fun type => isObjectiveType (store.base type) with
        | true => exact ⟨true, by simp [found, bind, Except.bind, pure, Except.pure], by simp⟩
        | false => exact ⟨objective, by simp [found, bind, Except.bind], by simp [interface]⟩

/-- A primitive of the Objective-C runtime that is not found stands within a function. -/
theorem isFunction_core_of_unseen (typed : Typed d) (unseen : ¬ ShowsObjective store d)
    {type : CType} (own : type ∈ d.body.types) (mentioned : type.mentionsObjective = true) :
    type.core.isFunction = true := by
  obtain ⟨types, written, all⟩ := exists_ownTypes typed
  rw [ShowsObjective, not_or] at unseen
  refine (type.core_of_mentionsObjective mentioned).resolve_left fun objective => ?_
  refine unseen.2 ⟨types, written, type, all unseen.1 own, ?_⟩
  rwa [store.base_of_core objective]

/-- The names of the Objective-C runtime are declared in front, if they are found to be needed. -/
def Fronted (store : Store) (bindings : List Binding) (front : List String) : Prop :=
  ((∃ binding ∈ bindings, ShowsObjective store binding.2) → front = objectivePrelude) ∧
    ((¬ ∃ binding ∈ bindings, ShowsObjective store binding.2) → front = [])

theorem fronted_of_cdef (typed : ∀ binding ∈ bindings, Typed binding.2) {code : Code}
    (written : cdef store bindings = .ok code) : ∃ front defined, Fronted store bindings front ∧
      definitions store [] (dependencyOrder store bindings) = .ok defined ∧
      code = Code.ofLines (front ++ bindings.flatMap forward) ++ defined := by
  obtain ⟨objective, found, shows⟩ := usesObjective_eq store typed
  rw [cdef] at written
  obtain ⟨_, seen, written⟩ := bind_eq_ok.mp written
  obtain ⟨defined, gathered, finished⟩ := bind_eq_ok.mp written
  obtain rfl := Except.ok.inj (found.symm.trans seen)
  cases finished
  refine ⟨_, defined, ?_, gathered, rfl⟩
  cases objective with
  | true => exact ⟨fun _ => rfl, fun unseen => absurd (shows.mp rfl) unseen⟩
  | false => exact ⟨fun seen => absurd (shows.mpr seen) Bool.false_ne_true, fun _ => rfl⟩

end LuaModule

namespace Session

open Header

variable {forest : Forest} {policy : Policy} {commands : List Command} {top : List Nat}
  {usrs : List String} {s : Session}

theorem typed_emitted (closed : s.store.Closed) :
    ∀ binding ∈ bindingsOf s.store (emitted s.store), Typed binding.2 := by
  intro binding listed unnamed
  have shown := ((mem_bindingsOf_emitted closed).mp listed).2
  rw [isEmitted, unnamed] at shown
  cases shown

/-- The C declarations of a run can be written but for a number. In front of them are the names of
the Objective-C runtime, if a class is bound or a bound type stands for such a name below all
pointers, arrays and typedefs, and only then. Where the names are missing, every mention of them
is in the result or a parameter of a function type. -/
theorem objective_names_fronted
    (ran : (runAll top).run forest (history forest policy commands) = (.ok usrs, s)) :
    let bindings := bindingsOf s.store usrs
    (∀ fault, cdef s.store bindings = .error fault → ∃ error, fault = .number error) ∧
    ∀ code, cdef s.store bindings = .ok code → ∃ front defined,
      Fronted s.store bindings front ∧
      definitions s.store [] (dependencyOrder s.store bindings) = .ok defined ∧
      code = Code.ofLines (front ++ bindings.flatMap forward) ++ defined ∧
      (front = [] → ∀ binding ∈ bindings, ∀ type ∈ binding.2.body.types,
        type.mentionsObjective = true → type.core.isFunction = true) := by
  obtain ⟨closed, rfl⟩ := emitted_of_run ran
  intro bindings
  have keys : keysOf bindings = emitted s.store := keysOf_bindingsOf_emitted closed
  have distinct : (keysOf bindings).Nodup := keys ▸ nodup_emitted closed
  have typed : ∀ binding ∈ bindings, Typed binding.2 := typed_emitted closed
  refine ⟨numeric_cdef s.store distinct typed, fun code written => ?_⟩
  obtain ⟨front, defined, fronted, gathered, rfl⟩ := fronted_of_cdef typed written
  refine ⟨front, defined, fronted, gathered, rfl, ?_⟩
  rintro rfl binding listed type own mentioned
  have unseen : ¬ ShowsObjective s.store binding.2 := fun shows =>
    absurd (fronted.1 ⟨binding, listed, shows⟩) (by decide)
  exact isFunction_core_of_unseen (typed binding listed) unseen own mentioned

/-- `typedef void (*Handler)(id);` -/
def handlerOnly : Forest := ⟨#[
  { kind := .typedef, spelling := "Handler", usr := "c:Handler"
    underlying := .pointerTo <| .function .functionPrototype (.ofKind .void) <|
      .cons (NativeType.ofKind .objcId) .nil }]⟩

def handlerOnlyRun : Except Error (List String) × Session :=
  (runAll [0]).run handlerOnly (history handlerOnly {} [])

/-- A callback that takes an object is declared without the name of its type. -/
theorem handlerOnly_lacks_names :
    let store := handlerOnlyRun.2.store
    handlerOnlyRun.1 = .ok ["c:Handler"] ∧
      (∃ binding ∈ bindingsOf store ["c:Handler"], ∃ type ∈ binding.2.body.types,
        type.mentionsObjective = true) ∧
      cdef store (bindingsOf store ["c:Handler"]) =
        .ok (Code.line "typedef void (*Handler)(id);") ∧
      ¬ ∃ binding ∈ bindingsOf store ["c:Handler"], ShowsObjective store binding.2 := by
  intro store
  have succeeded : handlerOnlyRun.1 = .ok ["c:Handler"] := by decide +kernel
  have written : cdef store (bindingsOf store ["c:Handler"]) =
      .ok (Code.line "typedef void (*Handler)(id);") := by decide +kernel
  have mentioned : ∃ binding ∈ bindingsOf store ["c:Handler"], ∃ type ∈ binding.2.body.types,
      type.mentionsObjective = true := by decide +kernel
  obtain ⟨-, fronted⟩ := objective_names_fronted (Prod.fst_eq_iff.mp succeeded)
  obtain ⟨front, defined, shows, -, whole, -⟩ := fronted _ written
  refine ⟨succeeded, mentioned, written, fun seen => ?_⟩
  rw [shows.1 seen] at whole
  simp [Code.line, Code.ofLines, objectivePrelude] at whole

end Session

end LuaBinder
