import LuaBinder.Proofs.CType.Objects
import LuaBinder.Proofs.CType.Placeholders
import LuaBinder.Proofs.LuaModule.Sizes
import LuaBinder.Proofs.LuaModule.Symbols
import LuaBinder.Proofs.Session.Identity

namespace LuaBinder

open Grammar Header Session

/-! The globals in the C declarations of a module, read as C reads them. -/

namespace Store

variable (store : Store) {types : String → Bool}

/-- The names of types that may stand in the declarations of a store: those of primitive types,
typedefs and classes. -/
def namesType (name : String) : Bool :=
  Primitive.all.any (fun primitive => primitive.base == .named name) ||
    store.entries.any fun entry =>
      (entry.2.kind == .typedef || entry.2.kind == .interface) && entry.2.nativeName == name

theorem namesType_of_primitive (primitive : Primitive) {name : String}
    (base : primitive.base = .named name) : store.namesType name = true := by
  have listed : primitive ∈ Primitive.all := by cases primitive <;> decide
  rw [namesType, Bool.or_eq_true]
  exact .inl (List.any_eq_true.mpr ⟨primitive, listed, beq_iff_eq.mpr base⟩)

theorem namesType_of_lookup? {key : String} {d : Declaration} (found : store.lookup? key = some d)
    (kind : d.kind = .typedef ∨ d.kind = .interface) : store.namesType d.nativeName = true := by
  rw [namesType, Bool.or_eq_true]
  refine .inr (List.any_eq_true.mpr ⟨(key, d), Store.mem_entries_of_lookup? found, ?_⟩)
  simpa using kind

/-- The declarations under the keys fit, and have names. -/
def Identified (fits : Declaration → Prop) (keys : List String) : Prop :=
  ∀ key ∈ keys, ∃ d, store.lookup? key = some d ∧ fits d ∧ isIdentifier d.nativeName = true

variable {store}

mutual

/-- Types have names if the declarations that they mention have names. -/
theorem named_of_mentions : (type : CType) → type.placeholders = [] →
    store.Identified (·.isCompound = true) type.compounds →
    store.Identified (·.kind = .typedef) type.typedefs → store.Named store.namesType type
  | .primitive primitive, _, _, _ => fun _ => store.namesType_of_primitive primitive
  | .pointer target _, supported, compounds, typedefs =>
      named_of_mentions target supported compounds typedefs
  | .array element _, supported, compounds, typedefs =>
      named_of_mentions element supported compounds typedefs
  | .compound key, _, compounds, _ => by
      obtain ⟨d, found, compound, identifier⟩ := compounds key (List.mem_singleton_self key)
      exact ⟨d, found, compound, identifier, fun interface =>
        store.namesType_of_lookup? found (.inr interface)⟩
  | .typedef key, _, _, typedefs => by
      obtain ⟨d, found, kind, identifier⟩ := typedefs key (List.mem_singleton_self key)
      exact ⟨d, found, identifier, store.namesType_of_lookup? found (.inl kind)⟩
  | .function result params _, supported, compounds, typedefs => by
      obtain ⟨own, others⟩ := List.append_eq_nil_iff.mp supported
      obtain ⟨compounds, further⟩ := List.forall_mem_append.mp compounds
      obtain ⟨typedefs, more⟩ := List.forall_mem_append.mp typedefs
      exact ⟨named_of_mentions result own compounds typedefs,
        namedAll_of_mentions params others further more⟩
  | .unsupported _, supported, _, _ => nomatch supported

theorem namedAll_of_mentions : (params : Params) → params.placeholders = [] →
    store.Identified (·.isCompound = true) params.compounds →
    store.Identified (·.kind = .typedef) params.typedefs → store.NamedAll store.namesType params
  | .nil, _, _, _ => trivial
  | .cons _ type rest, supported, compounds, typedefs => by
      obtain ⟨own, others⟩ := List.append_eq_nil_iff.mp supported
      obtain ⟨compounds, further⟩ := List.forall_mem_append.mp compounds
      obtain ⟨typedefs, more⟩ := List.forall_mem_append.mp typedefs
      exact ⟨named_of_mentions type own compounds typedefs,
        namedAll_of_mentions rest others further more⟩

end

end Store

namespace LuaModule

open Sources

variable {store : Store} {types : String → Bool} {d : Declaration} {type : CType}

/-- The symbol of the library that a name is declared for. -/
def label : Option String → String
  | none => ""
  | some symbol => " __asm__(" ++ string symbol ++ ")"

/-- The line declares a name of the library. -/
def DeclaresExtern (types : String → Bool) (line : String) (symbol : Option String) (name : String)
    (shape : Shape) : Prop :=
  ∃ text, line = "extern " ++ text ++ label symbol ++ ";" ∧
    readDeclaration? types text = some (some name, shape)

theorem isIdentifier_addressAlias (identifier : Grammar.isIdentifier d.nativeName = true) :
    Grammar.isIdentifier (addressAlias d) = true :=
  isIdentifier_append identifier (by decide) (by decide)

/-- The address of a global is declared behind it. -/
theorem declaresExtern_globalLines (named : store.Named types type)
    (identifier : Grammar.isIdentifier d.nativeName = true) (const exposed : Bool) :
    ∃ own aliases, globalLines store d type const exposed = own :: aliases ∧
      DeclaresExtern types own none d.nativeName (store.object type const) ∧
      (exposed = false → aliases = []) ∧
      (exposed = true → ∃ line, aliases = [line] ∧
        DeclaresExtern types line (some d.nativeName) (addressAlias d)
          (.array (some 1) (store.object type false))) := by
  have own := store.readDeclaration?_object named identifier const
  have row : store.Named types (.array type (some 1)) := named
  have further := store.readDeclaration?_object row (isIdentifier_addressAlias identifier) false
  cases exposed with
  | false => exact ⟨_, _, rfl, ⟨_, by simp [label], own⟩, fun _ => rfl, nofun⟩
  | true =>
      exact ⟨_, _, rfl, ⟨_, by simp [label], own⟩, nofun,
        fun _ => ⟨_, rfl, _, by simp [label, String.append_assoc], further⟩⟩

/-- The declarations of a global are in the C declarations. -/
theorem globalLines_written {bindings : List Binding} (distinct : (keysOf bindings).Nodup)
    {code : Code} (written : cdef store bindings = .ok code) {usr : String}
    (listed : (usr, d) ∈ bindings) {const exposed : Bool}
    (body : d.body = .global type const exposed) :
    ∀ line ∈ globalLines store d type const exposed, ⟨0, line⟩ ∈ code := by
  intro line member
  obtain ⟨parts, rfl, complete⟩ := exists_parts distinct written
  obtain ⟨seen, own, defined, within⟩ := complete.mem_code listed
  simp only [definition, body] at defined
  cases defined
  exact within (Code.mem_ofLines.mpr ⟨line, member, rfl⟩)

end LuaModule

namespace Session

open LuaModule Sources

variable {forest : Forest} {policy : Policy} {commands : List Command} {top : List Nat}
  {usrs : List String} {s : Session}

theorem settled_of_run
    (ran : (runAll top).run forest (history forest policy commands) = (.ok usrs, s)) :
    (ofCommands forest policy commands).Settled s := by
  have settled := settled_ofCommands forest policy commands
  have allowed : (ofCommands forest policy commands).Allows (.run top) := trivial
  have same : (Command.run top).perform forest (history forest policy commands) = s :=
    congrArg Prod.snd ran
  exact same ▸ (settled.perform allowed).1

/-- What the type of a published global mentions is published as what it is mentioned as. -/
theorem named_of_global (settled : (ofCommands forest policy commands).Settled s)
    (oneKind : (ofCommands forest policy commands).OneKind) {usr : String} {d : Declaration}
    (found : s.store.lookup? usr = some d) {type : CType} {const exposed : Bool}
    (body : d.body = .global type const exposed) (supported : type.placeholders = [])
    (identifiers : ∀ key ∈ type.mentions, ∀ other ∈ s.store.lookup? key,
      Grammar.isIdentifier other.nativeName = true) :
    s.store.Named s.store.namesType type := by
  have own : type ∈ d.body.types := by simp [body, Body.types]
  have targets (key : String) (mentioned : key ∈ type.mentions) :=
    settled.written_identified oneKind (Store.mem_entries_of_lookup? found) own mentioned
  refine Store.named_of_mentions type supported (fun key compound => ?_) fun key typedef => ?_
  · have mentioned := type.compounds_subset_mentions compound
    obtain ⟨target, identifies, kind, -⟩ := targets key mentioned
    exact ⟨target, identifies.found, isCompound_of_kind (kind compound),
      identifiers key mentioned target identifies.found⟩
  · have mentioned := type.typedefs_subset_mentions typedef
    obtain ⟨target, identifies, -, kind⟩ := targets key mentioned
    exact ⟨target, identifies.found, kind typedef,
      identifiers key mentioned target identifies.found⟩

/-- Of each global that a run binds, the C declarations have a line that declares its name as an
object of its type, constant exactly if the type in the header is. If its address is exposed, a
second line declares the other name as an array of one element of the type. Both are read with
`const` at the levels of the type exactly if nothing in it points to constant pointers. In the
second one no array has elements without a length exactly if the type has no such array in it and
is no array without a length itself; `opens` are the typedefs that stand for one. -/
theorem globals_declared_iff
    (ran : (runAll top).run forest (history forest policy commands) = (.ok usrs, s))
    (oneKind : (ofCommands forest policy commands).OneKind) {usr : String} {d : Declaration}
    (listed : (usr, d) ∈ bindingsOf s.store usrs) {type : CType} {const exposed : Bool}
    (body : d.body = .global type const exposed) (supported : type.placeholders = [])
    (identifiers : ∀ key ∈ usr :: type.mentions, ∀ other ∈ s.store.lookup? key,
      Grammar.isIdentifier other.nativeName = true) (opens : String → Bool) :
    let types := s.store.namesType
    let read := s.store.nest type.withoutVoid
    (∃ number, (forest.cursor number).usr = usr ∧ (forest.cursor number).kind = .global ∧
      const = (forest.cursor number).type.isConst ∧
      Resolution forest (forest.cursor number).type type) ∧
    (∀ code, cdef s.store (bindingsOf s.store usrs) = .ok code →
      ∀ line ∈ globalLines s.store d type const exposed, ⟨0, line⟩ ∈ code) ∧
    ∃ own aliases, globalLines s.store d type const exposed = own :: aliases ∧
      (∃ shape, DeclaresExtern types own none d.nativeName shape ∧
        s.store.ReadsAs type const shape ∧ shape.hasOpenRows opens = read.hasOpenRows opens) ∧
      (exposed = false → aliases = []) ∧
      (exposed = true → ∃ line shape, aliases = [line] ∧
        DeclaresExtern types line (some d.nativeName) (addressAlias d) (.array (some 1) shape) ∧
        s.store.ReadsAs type false shape ∧
        ((Shape.array (some 1) shape).hasOpenRows opens = false ↔
          read.isOpen opens = false ∧ read.hasOpenRows opens = false)) := by
  obtain ⟨closed, rfl⟩ := emitted_of_run ran
  have settled := settled_of_run ran
  intro types read
  obtain ⟨found, -⟩ := (mem_bindingsOf_emitted closed).mp listed
  obtain ⟨identifier, mentioned⟩ := List.forall_mem_cons.mp identifiers
  have named := named_of_global settled oneKind found body supported mentioned
  have describes := (settled.described _ (Store.mem_entries_of_lookup? found)).2
  have distinct := (keysOf_bindingsOf_emitted closed).symm ▸ nodup_emitted closed
  obtain ⟨own, aliases, lines, first, hidden, shown⟩ :=
    declaresExtern_globalLines named (identifier d found) const exposed
  have reads (const : Bool) := s.store.readsAs_object type const
  refine ⟨describes.object type const exposed body,
    fun code written => globalLines_written distinct written listed body, own, aliases, lines,
    ⟨_, first, reads const, ?_⟩, hidden, fun exposed => ?_⟩
  · rw [← Shape.hasOpenRows_unqualified, (reads const).nest]
  · obtain ⟨line, written, declares⟩ := shown exposed
    refine ⟨line, _, written, declares, reads false, ?_⟩
    rw [Shape.hasOpenRows, Bool.or_eq_false_iff, ← Shape.isOpen_unqualified,
      ← Shape.hasOpenRows_unqualified, (reads false).nest]

/-- `extern int table[]; extern char *const *words;` -/
def tableForest : Forest := ⟨#[
  { kind := .global, spelling := "table", usr := "c:table"
    type := .known (TypeFacts.plain .incompleteArray none) .absent (NativeType.ofKind .int)
      .absent .absent .absent .nil },
  { kind := .global, spelling := "words", usr := "c:words"
    type := .pointerTo <| .known { TypeFacts.plain .pointer none with const := true }
      (NativeType.ofKind .charS) .absent .absent .absent .absent .nil }]⟩

/-- The address of the table is exposed. -/
def tablePolicy : Policy :=
  { globals := ((SelectionText.read { addresses := ["table"] }).toOption).getD {} }

def tableRun : Except Error (List String) × Session :=
  (runAll [0, 1]).run tableForest (history tableForest tablePolicy [])

def tableType : CType := .array (.primitive .int) none

def table : Declaration where
  usr := "c:table"
  nativeName := "table"
  name := "table"
  body := .global tableType false true

def wordsType : CType := .pointer (.pointer .char false) true

def words : Declaration where
  usr := "c:words"
  nativeName := "words"
  name := "words"
  body := .global wordsType false false

/-- An array of arrays without a length is declared, and a pointer to constant pointers is read as
one to pointers to constant characters. -/
theorem tableForest_misdeclared :
    let store := tableRun.2.store
    tableRun.1 = .ok ["c:table", "c:words"] ∧
      globalLines store table tableType false true =
        ["extern int table[];", "extern int table__ffi_address[1][] __asm__(\"table\");"] ∧
      (∃ shape, DeclaresExtern store.namesType
          "extern int table__ffi_address[1][] __asm__(\"table\");" (some "table")
          "table__ffi_address" (.array (some 1) shape) ∧
        (Shape.array (some 1) shape).hasOpenRows (fun _ => false) = true) ∧
      globalLines store words wordsType false false = ["extern const char **words;"] ∧
      ∃ shape, DeclaresExtern store.namesType "extern const char **words;" none "words" shape ∧
        ¬ wordsType.Kept shape := by
  intro store
  have succeeded : tableRun.1 = .ok ["c:table", "c:words"] := by decide +kernel
  have ran := Prod.fst_eq_iff.mp succeeded
  have oneKind : (ofCommands tableForest tablePolicy []).OneKind := by decide +kernel
  have first : store.lookup? "c:table" = some table := rfl
  have second : store.lookup? "c:words" = some words := rfl
  have identifier {key : String} {d : Declaration} (found : store.lookup? key = some d)
      (named : Grammar.isIdentifier d.nativeName = true) :
      ∀ other ∈ [key], ∀ e ∈ store.lookup? other, Grammar.isIdentifier e.nativeName = true := by
    intro other own e same
    rw [List.mem_singleton.mp own] at same
    exact Option.some.inj (found.symm.trans same) ▸ named
  have rows : globalLines store table tableType false true =
      ["extern int table[];", "extern int table__ffi_address[1][] __asm__(\"table\");"] := by
    decide +kernel
  have texts : globalLines store words wordsType false false = ["extern const char **words;"] := by
    decide +kernel
  obtain ⟨-, -, _, _, written, -, -, shown⟩ := globals_declared_iff ran oneKind
    (mem_bindingsOf (by simp) first) rfl rfl (identifier first (by decide)) fun _ => false
  obtain ⟨_, row, rfl, declares, -, closed⟩ := shown rfl
  obtain ⟨-, same⟩ := List.cons.inj (rows.symm.trans written)
  rw [← (List.cons.inj same).1] at declares
  obtain ⟨-, -, _, _, listed, ⟨shape, reads, as, -⟩, -⟩ := globals_declared_iff ran oneKind
    (mem_bindingsOf (by simp) second) rfl rfl (identifier second (by decide)) fun _ => false
  rw [← (List.cons.inj (texts.symm.trans listed)).1] at reads
  refine ⟨succeeded, rows, ⟨row, declares, ?_⟩, texts, shape, reads, fun kept => ?_⟩
  · by_contra sized
    exact absurd (closed.mp (Bool.eq_false_iff.mpr sized)).1 (by decide)
  · exact absurd (as.levels.mp kept) (by decide)

end Session

end LuaBinder
