import LuaBinder.Proofs.LuaModule.Search
import LuaBinder.Proofs.LuaModule.Sections

namespace LuaBinder.LuaModule

/-! The C declarations of a module, told apart by the bindings that they are for. -/

/-- What comes first, what is declared ahead, and what is defined. -/
structure Parts where
  prelude : List String
  ahead : List (Binding × List String)
  defined : List (Binding × Code)

def isFunctionNamed (name : String) (binding : Binding) : Bool :=
  binding.2.kind == .function && binding.2.nativeName == name

/-- The definitions that declare a native function. -/
def prototypesIn (parts : List (Binding × Code)) (name : String) : List (Binding × Code) :=
  parts.filter fun part => isFunctionNamed name part.1 && !part.2.isEmpty

def Parts.code (parts : Parts) : Code :=
  Code.ofLines (parts.prelude ++ parts.ahead.flatMap (·.2)) ++ parts.defined.flatMap (·.2)

variable {store : Store}

theorem isFunctionNamed_iff {name : String} {binding : Binding} :
    isFunctionNamed name binding = true ↔
      (∃ f, binding.2.body = .function f) ∧ binding.2.nativeName = name := by
  rw [isFunctionNamed, Bool.and_eq_true, beq_iff_eq, beq_iff_eq, Declaration.kind]
  refine and_congr_left fun _ => ?_
  cases binding.2.body with
  | record kind incomplete members => cases kind <;> simp [Body.kind, RecordKind.declarationKind]
  | _ => simp [Body.kind]

def prototypeCode (store : Store) (d : Declaration) (f : Function) : Code :=
  Code.line (prototype store d f ++ ";")

theorem definition_function {seen : List String} {d : Declaration} {f : Function}
    (body : d.body = .function f) : definition store seen d =
      .ok (if seen.contains d.nativeName then [] else prototypeCode store d f) := by
  simp only [definition, body]
  split_ifs <;> rfl

/-- One of the bindings of a native function declares it, and no other. -/
def DeclaresOnce (store : Store) (bindings : List Binding) (parts : List (Binding × Code))
    (name : String) : Prop :=
  ∃ binding f, binding ∈ bindings ∧ binding.2.body = .function f ∧ binding.2.nativeName = name ∧
    prototypesIn parts name = [(binding, prototypeCode store binding.2 f)]

/-- A function in `seen` is declared already, any other by the first of its bindings. -/
def Accounted (store : Store) (bindings : List Binding) (parts : List (Binding × Code))
    (seen : List String) (name : String) : Prop :=
  (name ∈ seen → prototypesIn parts name = []) ∧
    (name ∉ seen → (∃ binding ∈ bindings, isFunctionNamed name binding = true) →
      DeclaresOnce store bindings parts name)

section

variable {bindings rest : List Binding} {binding : Binding} {seen : List String} {own : Code}
  {parts : List (Binding × Code)} {name : String}

/-- A function is declared by the binding that comes first, and by none of the others. -/
theorem Accounted.cons_named (named : isFunctionNamed name binding = true)
    (defined : definition store seen binding.2 = .ok own)
    (later : prototypesIn parts name = []) :
    Accounted store (binding :: rest) ((binding, own) :: parts) seen name := by
  obtain ⟨⟨f, body⟩, rfl⟩ := isFunctionNamed_iff.mp named
  rw [definition_function body] at defined
  constructor
  · intro known
    rw [if_pos (List.contains_iff_mem.mpr known)] at defined
    cases defined
    rw [prototypesIn, List.filter_cons_of_neg (by simp)]
    exact later
  · intro unknown _
    rw [if_neg (by simpa using unknown)] at defined
    cases defined
    refine ⟨binding, f, List.mem_cons_self, body, rfl, ?_⟩
    rw [prototypesIn, List.filter_cons_of_pos (by simp [named, prototypeCode, Code.line])]
    exact congrArg _ later

theorem mem_seen_iff (named : ¬ isFunctionNamed name binding = true) :
    name ∈ (if binding.2.kind == .function then binding.2.nativeName :: seen else seen) ↔
      name ∈ seen := by
  split_ifs with function
  · have other : name ≠ binding.2.nativeName := by
      rintro rfl
      exact named (by simp [isFunctionNamed, function])
    simp [other]
  · exact Iff.rfl

theorem Accounted.cons_other (named : ¬ isFunctionNamed name binding = true)
    (accounted : Accounted store rest parts
      (if binding.2.kind == .function then binding.2.nativeName :: seen else seen) name) :
    Accounted store (binding :: rest) ((binding, own) :: parts) seen name := by
  have skipped : prototypesIn ((binding, own) :: parts) name = prototypesIn parts name := by
    rw [prototypesIn, List.filter_cons_of_neg (by simp [named])]
    rfl
  obtain ⟨known, first⟩ := accounted
  rw [mem_seen_iff named] at known first
  rw [Accounted, DeclaresOnce, skipped]
  refine ⟨known, fun unknown given => ?_⟩
  obtain ⟨function, member, called⟩ := given
  have later : function ∈ rest := by
    rcases List.mem_cons.mp member with rfl | later
    · exact absurd called named
    · exact later
  obtain ⟨found, f, listed, facts⟩ := first unknown ⟨function, later, called⟩
  exact ⟨found, f, List.mem_cons_of_mem binding listed, facts⟩

theorem exists_definitions {code : Code} (written : definitions store seen bindings = .ok code) :
    ∃ parts : List (Binding × Code), parts.map Prod.fst = bindings ∧
      parts.flatMap Prod.snd = code ∧
      (∀ part ∈ parts, ∃ seen, definition store seen part.1.2 = .ok part.2) ∧
      ∀ name, Accounted store bindings parts seen name := by
  induction bindings generalizing seen code with
  | nil =>
      cases written
      exact ⟨[], rfl, rfl, nofun, fun name => ⟨fun _ => rfl, nofun⟩⟩
  | cons binding rest induction =>
      rw [definitions] at written
      obtain ⟨own, defined, written⟩ := bind_eq_ok.mp written
      obtain ⟨others, further, finished⟩ := bind_eq_ok.mp written
      cases finished
      obtain ⟨parts, bound, gathered, each, once⟩ := induction further
      refine ⟨(binding, own) :: parts, by rw [List.map_cons, bound], by
        rw [List.flatMap_cons, gathered], List.forall_mem_cons.mpr ⟨⟨seen, defined⟩, each⟩,
        fun name => ?_⟩
      by_cases named : isFunctionNamed name binding = true
      · -- what comes later counts the function as declared
        have known : name ∈
            if binding.2.kind == .function then binding.2.nativeName :: seen else seen := by
          rw [isFunctionNamed, Bool.and_eq_true, beq_iff_eq, beq_iff_eq] at named
          simp [named.1, named.2]
        exact .cons_named named defined ((once name).1 known)
      · exact .cons_other named (once name)

end

/-- Every binding is declared ahead and defined in one place each: a native function by one
prototype however many bindings share it, a record ahead by its name, and by its members
unless it is incomplete. -/
structure Parts.Complete (store : Store) (bindings : List Binding) (parts : Parts) : Prop where
  ahead : parts.ahead = bindings.map fun binding => (binding, forward binding)
  defined : (parts.defined.map Prod.fst).Perm bindings
  written : ∀ part ∈ parts.defined, ∃ seen, definition store seen part.1.2 = .ok part.2
  functions : ∀ binding ∈ bindings, ∀ f, binding.2.body = .function f →
    DeclaresOnce store bindings parts.defined binding.2.nativeName
  records : ∀ binding ∈ bindings, ∀ kind incomplete members,
    binding.2.body = .record kind incomplete members →
    forward binding = [binding.2.spelling ++ ";"] ∧
      parts.defined.filter (fun part => part.1.1 == binding.1) =
        [(binding, if incomplete then [] else
          braced binding.2 (members.map fun m => store.declare m.type m.name ++ ";"))]

theorem filter_key_eq {α : Type} (key : α → String) {entries : List α}
    (distinct : (entries.map key).Nodup) {entry : α} (member : entry ∈ entries) :
    entries.filter (fun other => key other == key entry) = [entry] := by
  induction entries with
  | nil => cases member
  | cons first rest induction =>
      obtain ⟨new, others⟩ := List.nodup_cons.mp distinct
      rcases List.mem_cons.mp member with rfl | later
      · have apart : rest.filter (fun other => key other == key entry) = [] :=
          List.filter_eq_nil_iff.mpr fun other listed same =>
            new (List.mem_map.mpr ⟨other, listed, eq_of_beq same⟩)
        rw [List.filter_cons, if_pos (beq_self_eq_true _), apart]
      · have apart : ¬ (key first == key entry) = true := fun same =>
          new (List.mem_map.mpr ⟨entry, later, (eq_of_beq same).symm⟩)
        rw [List.filter_cons, if_neg apart, induction others later]

theorem definition_record {seen : List String} {d : Declaration} {kind : RecordKind}
    {incomplete : Bool} {members : List Member} (body : d.body = .record kind incomplete members) :
    definition store seen d = .ok (if incomplete then [] else
      braced d (members.map fun m => store.declare m.type m.name ++ ";")) := by
  cases incomplete <;> simp [definition, body]

theorem exists_parts {bindings : List Binding} (distinct : (keysOf bindings).Nodup) {code : Code}
    (written : cdef store bindings = .ok code) :
    ∃ parts : Parts, parts.code = code ∧ parts.Complete store bindings := by
  rw [cdef] at written
  obtain ⟨objective, -, written⟩ := bind_eq_ok.mp written
  obtain ⟨lines, gathered, finished⟩ := bind_eq_ok.mp written
  cases finished
  obtain ⟨parts, bound, together, each, once⟩ := exists_definitions gathered
  have perm : (parts.map Prod.fst).Perm bindings := bound ▸ dependencyOrder_perm distinct
  refine ⟨⟨if objective then objectivePrelude else [],
    bindings.map fun binding => (binding, forward binding), parts⟩, ?_, ?_⟩
  · rw [Parts.code, together, List.flatMap_map]
  · constructor
    case ahead =>
      rfl
    case defined =>
      exact perm
    case written =>
      exact each
    case functions =>
      intro binding member f body
      have called : isFunctionNamed binding.2.nativeName binding = true :=
        isFunctionNamed_iff.mpr ⟨⟨f, body⟩, rfl⟩
      obtain ⟨first, g, listed, facts⟩ := (once binding.2.nativeName).2 List.not_mem_nil
        ⟨binding, (dependencyOrder_perm distinct).mem_iff.mpr member, called⟩
      exact ⟨first, g, (dependencyOrder_perm distinct).mem_iff.mp listed, facts⟩
    case records =>
      intro binding member kind incomplete members body
      have ahead : forward binding = [binding.2.spelling ++ ";"] := by
        simp only [forward, body]
      obtain ⟨⟨bound, own⟩, listed, rfl⟩ := List.mem_map.mp (perm.mem_iff.mpr member)
      have keys : (parts.map fun part => part.1.1).Nodup := by
        have keys := (perm.map Prod.fst).nodup_iff.mpr distinct
        rwa [List.map_map] at keys
      obtain ⟨seen, defined⟩ := each _ listed
      have block := Except.ok.inj ((definition_record body).symm.trans defined)
      refine ⟨ahead, ?_⟩
      rw [block]
      exact filter_key_eq (fun part => part.1.1) keys listed

end LuaBinder.LuaModule
