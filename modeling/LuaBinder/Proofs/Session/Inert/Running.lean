import LuaBinder.Proofs.Session.Inert.Building
import LuaBinder.Proofs.Session.Naming

namespace LuaBinder.Session

open Header Store Step

/-! Visits and runs in two sessions whose policies differ only in names and comments. -/

/-! Functions. -/

theorem pairs_functionParameters (frameNumber : Nat) (owner : String) (index : Nat)
    (arguments : List Nat) :
    Pairs SameParameters (functionParameters frameNumber owner index arguments)
      (functionParameters frameNumber owner index arguments) := by
  induction arguments generalizing index with
  | nil => exact pairs_pure rfl
  | cons number rest induction =>
      refine (pairs_cursor number).next fun c => ?_
      refine (pairs_debug _ _ _ _).next fun _ => ?_
      refine (pairs_resolveParameter agrees_declare frameNumber c).next fun type => ?_
      refine pairs_getStore.bind fun store store' stores => ?_
      rw [isIncomplete_of_bare stores, isUnsupported_of_bare stores]
      dsimp only
      split
      · exact (pairs_debug _ _ _ _).next fun _ => pairs_getPolicy.bind fun _ _ _ =>
          pairs_collectParameter (induction (index + 1))
      · exact pairs_getPolicy.bind fun _ _ _ => pairs_collectParameter (induction (index + 1))

theorem functionRefusal?_of_bare {store other : Store} (same : store.bare = other.bare)
    (c : Cursor) (result : CType) (f : Frame) :
    functionRefusal? c store result f = functionRefusal? c other result f := by
  simp only [functionRefusal?, isIncomplete_of_bare same, isUnsupported_of_bare same]

theorem exposure_of_nameless {policy other : Policy} (same : policy.nameless = other.nameless)
    (name : String) : exposure policy name = exposure other name := by
  have address : policy.functions.exposesAddress name = other.functions.exposesAddress name :=
    Policy.exposesAddress_of_nameless same .functions name
  have type : policy.functionTypes.includes "" name = other.functionTypes.includes "" name :=
    Policy.includes_of_nameless same .functionTypes "" name
  have leaf : policy.leafFunctions.includes "" name = other.leafFunctions.includes "" name :=
    Policy.includes_of_nameless same .leafFunctions "" name
  simp only [exposure, Selection.includesName, address, type, leaf]

/-- The same declarations apart from names and documentation. -/
abbrev SameDeclarations (published others : List Declaration) : Prop :=
  published.map Declaration.bare = others.map Declaration.bare

theorem pairs_publishFunctions (frameNumber : Nat) (published others : List Declaration)
    (same : SameDeclarations published others) :
    Pairs Eq (publishFunctions frameNumber published) (publishFunctions frameNumber others) := by
  induction published generalizing others with
  | nil =>
      obtain rfl : others = [] := by simpa using same.symm
      exact pairs_pure rfl
  | cons d rest induction =>
      cases others with
      | nil => simp [SameDeclarations] at same
      | cons d' rest' =>
          obtain ⟨alike, same⟩ := List.cons.inj same
          have usr : d.usr = d'.usr := by
            simpa [Declaration.bare] using congrArg Declaration.usr alike
          have noted : Pairs Eq
              (do note frameNumber d.usr; publishFunctions frameNumber rest)
              (do note frameNumber d'.usr; publishFunctions frameNumber rest') := by
            rw [usr]
            exact (pairs_changeFrame _ _).next fun _ => induction rest' same
          refine pairs_getStore.bind fun store store' stores => ?_
          rw [usr, contains_of_bare stores]
          dsimp only
          split
          · exact (pairs_publish alike).next fun _ => usr ▸ noted
          · exact usr ▸ noted

theorem pairs_refuse (source logged name usr : String) (reason : Reason) (message : String) :
    Pairs Eq (refuse source logged name usr reason message)
      (refuse source logged name usr reason message) :=
  (pairs_debug _ _ _ _).next fun _ => (pairs_diagnose _ _ _ _ _).next fun _ =>
    (pairs_drop _).next fun _ => pairs_pure rfl

theorem bare_bindFunction {native : Native} {exposure : Exposure} {c : Cursor}
    {name name' doc doc' : String} {result : CType} {params params' : List Parameter}
    (same : SameParameters params params') (signature : CallSignature) :
    (bindFunction native exposure c name doc result params signature).bare =
      (bindFunction native exposure c name' doc' result params' signature).bare := by
  simp [bindFunction, Declaration.bare, Body.bare, Function.bare, same]

theorem pairs_bindFunctions (c : Cursor) (signatures : List CallSignature) (frameNumber : Nat)
    (result : CType) {params params' : List Parameter} (same : SameParameters params params') :
    Pairs Eq (bindFunctions c signatures frameNumber result params)
      (bindFunctions c signatures frameNumber result params') := by
  refine (pairs_docOf c c).bind fun doc doc' _ => ?_
  refine pairs_getPolicy.bind fun policy policy' policies => ?_
  refine (pairs_renamed _ _).bind fun name name' _ => ?_
  refine (pairs_selected (exposure_of_nameless policies _)).next fun exposure => ?_
  refine (pairs_publishFunctions _ _ _ ?_).next fun _ => pairs_noted frameNumber
  rw [SameDeclarations, Policy.native_of_nameless policies, List.map_map, List.map_map]
  exact List.map_congr_left fun signature _ => bare_bindFunction same signature

theorem pairs_addFunction (c : Cursor) (signatures : List CallSignature) (ignored : Bool)
    (frameNumber : Nat) :
    Pairs Eq (addFunction c signatures ignored frameNumber)
      (addFunction c signatures ignored frameNumber) := by
  refine (pairs_debug _ _ _ _).next fun _ => ?_
  refine (pairs_resolve agrees_declare c.result).next fun result => ?_
  refine (pairs_functionParameters _ _ _ _).bind fun params params' same => ?_
  refine pairs_getStore.bind fun store store' stores => ?_
  refine (pairs_frame frameNumber).next fun f => ?_
  rw [functionRefusal?_of_bare stores]
  split
  · exact pairs_refuse _ _ _ _ _ _
  · dsimp only
    split
    · exact (pairs_diagnose _ _ _ _ _).next fun _ => pairs_bindFunctions _ _ _ _ same
    · exact pairs_bindFunctions _ _ _ _ same

theorem isFunction_bare (d : Declaration) : isFunction d.bare = isFunction d :=
  congrArg (· == _) Body.kind_bare

theorem isFunctionAt_of_bare {store other : Store} (same : store.bare = other.bare) :
    isFunctionAt store = isFunctionAt other := by
  have bare (store : Store) (usr : String) : 
      isFunctionAt store.bare usr = isFunctionAt store usr := by
    rw [isFunctionAt, lookup?_bare, Option.map_map]
    simp only [Function.comp_def, isFunction_bare]
    rfl
  funext usr
  rw [← bare store, same, bare other]

theorem pairs_visitFunction (number : Nat) :
    Pairs Eq (visitFunction number) (visitFunction number) := by
  refine (pairs_cursor number).next fun c => ?_
  refine pairs_getPolicy.bind fun policy policy' policies => ?_
  rw [Policy.signatures_of_nameless policies]
  generalize policy'.signatures.specialize c.spelling c.type.isVariadic = specialized
  refine pairs_withFrame fun frameNumber => ?_
  refine pairs_getStore.bind fun store store' stores => ?_
  refine (pairs_selected (Policy.includes_of_nameless policies .functions _ _)).next
    fun included => ?_
  rw [isFunctionAt_of_bare stores]
  split
  · exact pairs_pure rfl
  split
  · exact pairs_pure rfl
  refine (pairs_isDropped _).next fun dropped => ?_
  split
  · exact pairs_pure rfl
  · exact pairs_addFunction _ _ _ _

/-! Compounds. -/

theorem recordSelection_of_nameless {policy other : Policy}
    (same : policy.nameless = other.nameless) (kind : CursorKind) (usr name : String) :
    (recordSelection policy kind).includes usr name =
      (recordSelection other kind).includes usr name := by
  unfold recordSelection
  split
  · exact Policy.includes_of_nameless same .unions usr name
  · exact Policy.includes_of_nameless same .structs usr name

theorem pairs_visitRecord (number : Nat) :
    Pairs Eq (visitRecord number) (visitRecord number) := by
  refine (pairs_cursor number).next fun c => pairs_withFrame fun _ => ?_
  refine (pairs_published? fun d => Body.isCompound_bare).bind fun found again same => ?_
  rw [same]
  split
  · exact pairs_pure rfl
  split
  · exact pairs_pure rfl
  refine pairs_getPolicy.bind fun policy policy' policies => ?_
  refine (pairs_selected (recordSelection_of_nameless policies _ _ _)).next fun included => ?_
  split
  · exact (pairs_buildRecord agrees_declare number).next fun _ => pairs_pure rfl
  · exact pairs_pure rfl

theorem pairs_visitConstants (constants : List Nat) :
    Pairs Eq (visitConstants constants) (visitConstants constants) := by
  induction constants with
  | nil => exact pairs_pure rfl
  | cons number rest induction =>
      refine (pairs_cursor number).next fun c => ?_
      refine pairs_getPolicy.bind fun policy policy' policies => ?_
      refine (pairs_published? fun d => ?_).bind fun found again same => ?_
      · exact congrArg (· == _) Body.kind_bare
      rw [same]
      split
      · exact induction.next fun _ => pairs_pure rfl
      refine (pairs_selected (Policy.includes_of_nameless policies .unnamedEnums _ _)).next
        fun included => ?_
      split
      · exact induction
      refine (pairs_renamed _ _).bind fun name name' _ => ?_
      refine (pairs_docOf c c).bind fun doc doc' _ => ?_
      refine (pairs_publish (by rfl)).next fun _ => ?_
      refine (pairs_debug _ _ _ _).next fun _ => ?_
      exact induction.next fun _ => pairs_pure rfl

theorem pairs_visitEnumeration (number : Nat) :
    Pairs Eq (visitEnumeration number) (visitEnumeration number) := by
  refine (pairs_cursor number).next fun c => pairs_withFrame fun _ => ?_
  split
  · refine pairs_get.bind fun s t alike => ?_
    rw [alike.typedefNamed]
    split
    · exact pairs_pure rfl
    · exact (pairs_childrenOf _ _).next fun _ => pairs_visitConstants _
  refine (pairs_published? fun d => ?_).bind fun found again same => ?_
  · exact congrArg (· == _) Body.kind_bare
  rw [same]
  split
  · exact pairs_pure rfl
  refine pairs_getPolicy.bind fun policy policy' policies => ?_
  refine (pairs_selected (Policy.includes_of_nameless policies .enums _ _)).next
    fun included => ?_
  split
  · exact (pairs_buildEnumeration number).next fun _ => pairs_pure rfl
  · exact pairs_pure rfl

theorem pairs_visitInterface (number : Nat) :
    Pairs Eq (visitInterface number) (visitInterface number) := by
  refine (pairs_cursor number).next fun c => pairs_withFrame fun _ => ?_
  refine (pairs_published? fun d => ?_).bind fun found again same => ?_
  · exact congrArg (· == _) Body.kind_bare
  rw [same]
  split
  · exact pairs_pure rfl
  refine pairs_getPolicy.bind fun policy policy' policies => ?_
  refine (pairs_selected (Policy.includes_of_nameless policies .interfaces _ _)).next
    fun included => ?_
  split
  · exact (pairs_buildInterface agrees_declare number).next fun _ => pairs_pure rfl
  · exact pairs_pure rfl

/-! Typedefs, globals and macro constants. -/

theorem pairs_addTypedef (number : Nat) (c : Cursor) :
    Pairs Eq (addTypedef number c) (addTypedef number c) := by
  refine (pairs_buildTypedef agrees_declare number).next fun _ => ?_
  refine pairs_getStore.bind fun store store' stores => ?_
  have unsupported : store.isUnsupported = store'.isUnsupported := by
    funext type
    exact isUnsupported_of_bare stores
  rw [underlying?_of_bare stores, unsupported]
  split
  · refine (pairs_debug _ _ _ _).next fun _ => ?_
    exact (pairs_diagnose _ _ _ _ _).next fun _ => pairs_pure rfl
  · exact pairs_pure rfl

theorem pairs_visitTypedef (number : Nat) :
    Pairs Eq (visitTypedef number) (visitTypedef number) := by
  refine (pairs_cursor number).next fun c => pairs_withFrame fun _ => ?_
  refine (pairs_published? fun d => ?_).bind fun found again same => ?_
  · exact congrArg (· == _) Body.kind_bare
  rw [same]
  split
  · exact pairs_pure rfl
  split
  · exact (pairs_debug _ _ _ _).next fun _ => pairs_pure rfl
  refine pairs_getPolicy.bind fun policy policy' policies => ?_
  refine (pairs_selected (Policy.includes_of_nameless policies .typedefs _ _)).next
    fun included => ?_
  split
  · exact pairs_addTypedef number c
  · exact pairs_pure rfl

theorem globalRefusal?_of_bare {store other : Store} (same : store.bare = other.bare)
    (type : CType) : globalRefusal? store type = globalRefusal? other type := by
  simp only [globalRefusal?, isIncomplete_of_bare same, isUnsupported_of_bare same]

theorem pairs_addGlobal (c : Cursor) : Pairs Eq (addGlobal c) (addGlobal c) := by
  refine (pairs_debug _ _ _ _).next fun _ => ?_
  refine (pairs_resolve agrees_declare c.type).next fun type => ?_
  refine pairs_getStore.bind fun store store' stores => ?_
  rw [globalRefusal?_of_bare stores]
  split
  · exact pairs_refuse _ _ _ _ _ _
  refine pairs_getPolicy.bind fun policy policy' policies => ?_
  refine (pairs_renamed _ _).bind fun name name' _ => ?_
  refine (pairs_docOf c c).bind fun doc doc' _ => ?_
  refine (pairs_selected (Policy.exposesAddress_of_nameless policies .globals _)).next
    fun address => ?_
  exact (pairs_publish (by rfl)).next fun _ => pairs_pure rfl

theorem pairs_visitGlobal (number : Nat) :
    Pairs Eq (visitGlobal number) (visitGlobal number) := by
  refine (pairs_cursor number).next fun c => pairs_withFrame fun _ => ?_
  refine (pairs_published? fun d => ?_).bind fun found again same => ?_
  · exact congrArg (· == _) Body.kind_bare
  rw [same]
  split
  · exact pairs_pure rfl
  split
  · exact pairs_pure rfl
  refine pairs_getPolicy.bind fun policy policy' policies => ?_
  refine (pairs_selected (Policy.includes_of_nameless policies .globals _ _)).next
    fun included => ?_
  split
  · exact pairs_pure rfl
  refine (pairs_isDropped _).next fun dropped => ?_
  split
  · exact pairs_pure rfl
  · exact pairs_addGlobal c

theorem pairs_addMacro (c : Cursor) : Pairs Eq (addMacro c) (addMacro c) := by
  unfold addMacro
  dsimp only
  split
  · exact pairs_throw
  · exact (pairs_debug _ _ _ _).next fun _ => pairs_pure rfl
  · refine pairs_getPolicy.bind fun policy policy' policies => ?_
    refine (pairs_renamed _ _).bind fun name name' _ => ?_
    refine (pairs_docOf c c).bind fun doc doc' _ => ?_
    refine (pairs_publish (by rfl)).next fun _ => ?_
    exact (pairs_debug _ _ _ _).next fun _ => pairs_pure rfl

theorem pairs_visitMacro (number : Nat) :
    Pairs Eq (visitMacro number) (visitMacro number) := by
  refine (pairs_cursor number).next fun c => pairs_withFrame fun _ => ?_
  refine (pairs_published? fun d => ?_).bind fun found again same => ?_
  · exact congrArg (· == _) Body.kind_bare
  rw [same]
  split
  · exact pairs_pure rfl
  split
  · exact pairs_pure rfl
  refine pairs_getPolicy.bind fun policy policy' policies => ?_
  refine (pairs_selected (Policy.includes_of_nameless policies .macros _ _)).next
    fun included => ?_
  split
  · exact pairs_pure rfl
  · exact pairs_addMacro c

theorem pairs_visit (number : Nat) : Pairs Eq (visit number) (visit number) := by
  refine (pairs_cursor number).next fun c => ?_
  split
  · exact pairs_visitFunction number
  · exact pairs_visitRecord number
  · exact pairs_visitRecord number
  · exact pairs_visitEnumeration number
  · exact pairs_visitTypedef number
  · exact pairs_visitGlobal number
  · exact pairs_visitMacro number
  · exact pairs_visitInterface number
  · exact (pairs_debug _ _ _ _).next fun _ => pairs_pure rfl

/-! Runs. -/

theorem pairs_visitAll (top : List Nat) : Pairs Eq (visitAll top) (visitAll top) := by
  induction top with
  | nil => exact pairs_pure rfl
  | cons number rest induction => exact (pairs_visit number).next fun _ => induction

/-- Nameless compounds are told from the others by their names in the headers. -/
theorem bare_nameAll (counts : List (String × Nat)) (entries others : List (String × Declaration))
    (same : Store.bare ⟨entries⟩ = Store.bare ⟨others⟩) :
    Store.bare ⟨nameAll counts entries⟩ = Store.bare ⟨nameAll counts others⟩ := by
  simp only [Store.bare, Store.mk.injEq] at same ⊢
  induction entries generalizing counts others with
  | nil =>
      obtain rfl : others = [] := by simpa using same.symm
      rfl
  | cons entry rest induction =>
      obtain ⟨key, d⟩ := entry
      cases others with
      | nil => simp at same
      | cons entry' rest' =>
          obtain ⟨key', d'⟩ := entry'
          simp only [List.map_cons, List.cons.injEq, Prod.mk.injEq] at same
          obtain ⟨⟨rfl, alike⟩, same⟩ := same
          simp only [Declaration.bare, Declaration.mk.injEq] at alike
          obtain ⟨usr, native, -, -, body⟩ := alike
          have compound : d.isCompound = d'.isCompound := by
            simpa [Declaration.isCompound] using congrArg Body.isCompound body
          have kind : d.kind = d'.kind := by
            simpa [Declaration.kind] using congrArg Body.kind body
          have word : kindWord d = kindWord d' := by simp only [kindWord, kind]
          simp only [nameAll, compound, native, word]
          split
          all_goals rw [List.map_cons, List.map_cons, induction _ _ same]
          · simp [Declaration.bare, usr, body]
          · simp [Declaration.bare, usr, native, body]

theorem pairs_nameAnonymous : Pairs Eq nameAnonymous nameAnonymous :=
  pairs_modify fun _ _ alike => { alike with store := bare_nameAll [] _ _ alike.store }

theorem emitted_bare (store : Store) : emitted store.bare = emitted store := by
  have same (d : Declaration) : isEmitted store.bare d.bare = isEmitted store d := by
    obtain ⟨_, _, _, _, body⟩ := d
    cases body with
    | typedef underlying => cases underlying <;> simp [isEmitted, Declaration.bare, Body.bare]
    | _ => rfl
  simp [emitted, Store.bare, List.filter_map, Function.comp_def, ← same]

theorem pairs_runAll (top : List Nat) : Pairs Eq (runAll top) (runAll top) := by
  refine pairs_read.next fun forest => ?_
  have named : Pairs Eq
      (modify fun s : Session => { s with typedefNamed := typedefNames forest top } : Step Unit)
      (modify fun s : Session => { s with typedefNamed := typedefNames forest top }) :=
    pairs_modify fun s t alike => { alike with typedefNamed := rfl }
  refine named.next fun _ => ?_
  refine (pairs_visitAll top).next fun _ => ?_
  refine pairs_get.bind fun s t alike => ?_
  rw [alike.context]
  dsimp only
  have finish : Pairs Eq
      (do nameAnonymous
          let bindings := emitted (← getStore)
          debug "parser" ("Parsed " ++ toString bindings.length ++ " declarations, " ++
            toString (← get).diagnostics.length ++ " diagnostics")
          return bindings)
      (do nameAnonymous
          let bindings := emitted (← getStore)
          debug "parser" ("Parsed " ++ toString bindings.length ++ " declarations, " ++
            toString (← get).diagnostics.length ++ " diagnostics")
          return bindings) := by
    refine pairs_nameAnonymous.next fun _ => ?_
    refine pairs_getStore.bind fun store store' stores => ?_
    refine pairs_get.bind fun s t alike => ?_
    refine (pairs_debug _ _ _ _).next fun _ => pairs_pure ?_
    rw [← emitted_bare, stores, emitted_bare]
  split
  · exact pairs_throw
  · exact finish

variable {forest : Forest} {top : List Nat} {policy other : Policy}
  {bindings rebound : List String}

/-- What a policy calls things and whether it asks for comments changes nothing else: not
what is published and in which order, nor its parts, nor what is emitted, nor of what the
diagnostics tell. -/
theorem names_and_comments_inert (alike : policy.nameless = other.nameless)
    (succeeded : ((runAll top).run forest { policy }).1 = .ok bindings)
    (succeeded' : ((runAll top).run forest { policy := other }).1 = .ok rebound) :
    let ended := ((runAll top).run forest { policy }).2
    let reended := ((runAll top).run forest { policy := other }).2
    bindings = rebound ∧ ended.store.bare = reended.store.bare ∧
      ended.diagnostics.map Diagnostic.bare = reended.diagnostics.map Diagnostic.bare := by
  intro ended reended
  have started : Matches { policy } { policy := other } :=
    { policy := alike, store := rfl, context := rfl, frames := rfl, diagnostics := rfl
      typedefNamed := rfl, dropped := rfl }
  obtain ⟨same, matching⟩ := pairs_runAll top forest _ _ started bindings ended rebound reended
    (Prod.ext succeeded rfl) (Prod.ext succeeded' rfl)
  exact ⟨same, matching.store, matching.diagnostics⟩

/-- `struct A { struct B *b; int flags : 3; }; struct B { struct A a; };
void use(struct B *b);`, each with a comment. -/
def commentedForest : Forest := ⟨#[
  { kind := .struct, spelling := "A", usr := "c:A", children := [1, 2], definition := some 0
    comment := some "/// The first." },
  { kind := .field, spelling := "b", type := .pointerTo (.declared .record 3) },
  { kind := .field, spelling := "flags", type := .ofKind .int, bitfield := true },
  { kind := .struct, spelling := "B", usr := "c:B", children := [4], definition := some 3
    comment := some "/// The second." },
  { kind := .field, spelling := "a", type := .declared .record 0 },
  { kind := .function, spelling := "use", usr := "c:use", arguments := [6]
    comment := some "/// Uses the second.", result := .ofKind .void
    type := .function .functionPrototype (.ofKind .void)
      (.cons (NativeType.pointerTo (.declared .record 3)) .nil) },
  { kind := .parameter, spelling := "b", type := .pointerTo (.declared .record 3) }]⟩

/-- Everything is renamed. -/
def renamingPolicy : Policy :=
  { structs := ((SelectionText.read
      { renames := [("(.*)", .string "S\\1")]
        memberRenames := [(".*", [("a", .string "first")])] }).toOption).getD {}
    functions := ((SelectionText.read
      { renames := [("use", .string "apply")]
        memberRenames := [("use", [("b", .string "second")])] }).toOption).getD {} }

theorem nameless_renamingPolicy :
    renamingPolicy.nameless = Policy.nameless { comments := false } := rfl

theorem commented_named :
    ((runAll [0, 5]).run commentedForest { policy := renamingPolicy }).1 =
      .ok ["c:A", "c:B", "c:use"] := by decide +kernel

theorem commented_plain :
    ((runAll [0, 5]).run commentedForest { policy := { comments := false } }).1 =
      .ok ["c:A", "c:B", "c:use"] := by decide +kernel

/-- The runs differ in the message that tells which member of `B` has no layout. -/
theorem commentedForest_inert :
    ((runAll [0, 5]).run commentedForest { policy := renamingPolicy }).2.store.bare =
        ((runAll [0, 5]).run commentedForest { policy := { comments := false } }).2.store.bare ∧
      ((runAll [0, 5]).run commentedForest { policy := renamingPolicy }).2.diagnostics.map
          Diagnostic.bare =
        ((runAll [0, 5]).run commentedForest
          { policy := { comments := false } }).2.diagnostics.map Diagnostic.bare ∧
      ((runAll [0, 5]).run commentedForest { policy := renamingPolicy }).2.diagnostics ≠
        ((runAll [0, 5]).run commentedForest
          { policy := { comments := false } }).2.diagnostics := by
  obtain ⟨-, stores, diagnostics⟩ :=
    names_and_comments_inert nameless_renamingPolicy commented_named commented_plain
  exact ⟨stores, diagnostics, by decide +kernel⟩

end LuaBinder.Session
