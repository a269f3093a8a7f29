import LuaBinder.LuaModule.Stub
import LuaBinder.Proofs.Declaration.Bare
import Mathlib.Tactic.SplitIfs

namespace LuaBinder.LuaModule

/-! The parts of a module that its documentation has no part in: the C declarations, the layout,
and all members but for the comments in front of them. -/

variable {store : Store} {bindings : List Binding} {d : Declaration}

/-! The order of the declarations. -/

@[simp] theorem needsDefinition_undocumented :
    needsDefinition d.undocumented = needsDefinition d := by
  obtain ⟨usr, nativeName, name, doc, body⟩ := d
  cases body <;> rfl

@[simp] theorem byName_undocumented (type : CType) :
    byName store.undocumented type = byName store type := by
  simp [byName, Function.comp_def]

theorem byValueWithin_undocumented : (fuel : Nat) → (type : CType) →
    byValueWithin store.undocumented fuel type = byValueWithin store fuel type
  | 0, _ => rfl
  | fuel + 1, type => by
      rw [byValueWithin, byValueWithin]
      congr
      funext key
      rw [Store.underlying?_undocumented, funext (byValueWithin_undocumented fuel)]

@[simp] theorem byValue_undocumented (type : CType) :
    byValue store.undocumented type = byValue store type := by
  rw [byValue, byValue, Store.size_undocumented, byValueWithin_undocumented]

@[simp] theorem dependencies_undocumented :
    dependencies store.undocumented d.undocumented = dependencies store d := by
  obtain ⟨usr, nativeName, name, doc, body⟩ := d
  cases body with
  | record kind incomplete members =>
      simp [dependencies, Body.undocumented, Declaration.undocumented, List.flatMap_map,
        Member.undocumented]
  | typedef underlying =>
      cases underlying <;> simp [dependencies, Body.undocumented, Declaration.undocumented]
  | _ => simp [dependencies, Body.undocumented, Declaration.undocumented]

theorem undocumented_append (front back : List Binding) :
    undocumented (front ++ back) = undocumented front ++ undocumented back := List.map_append

theorem find?_undocumented (key : String) :
    (undocumented bindings).find? (·.1 == key) =
      (bindings.find? (·.1 == key)).map (Prod.map id Declaration.undocumented) := by
  simp [undocumented, List.find?_map, Function.comp_def]

theorem any_undocumented (key : String) :
    (undocumented bindings).any (·.1 == key) = bindings.any (·.1 == key) := by
  simp [undocumented, Function.comp_def]

/-- A walk over declarations goes the same way without their documentation. -/
theorem foldl_undocumented {plain full : List Binding → Binding → List Binding}
    (same : ∀ ordered binding,
      plain (undocumented ordered) (Prod.map id Declaration.undocumented binding) =
        undocumented (full ordered binding)) (ordered : List Binding) :
    (undocumented bindings).foldl plain (undocumented ordered) =
      undocumented (bindings.foldl full ordered) := by
  calc (bindings.map (Prod.map id Declaration.undocumented)).foldl plain (undocumented ordered)
      = bindings.foldl (fun ordered binding =>
          plain ordered (Prod.map id Declaration.undocumented binding)) (undocumented ordered) :=
        List.foldl_map
    _ = undocumented (bindings.foldl full ordered) := List.foldl_hom undocumented same

theorem visit_undocumented : (fuel : Nat) → (active : List String) → (ordered : List Binding) →
    (binding : Binding) →
    visit store.undocumented (undocumented bindings) fuel active (undocumented ordered)
        (Prod.map id Declaration.undocumented binding) =
      undocumented (visit store bindings fuel active ordered binding)
  | 0, _, _, _ => rfl
  | fuel + 1, active, ordered, binding => by
      let needed := (dependencies store binding.2).filterMap fun key => bindings.find? (·.1 == key)
      have found : (dependencies store binding.2).filterMap
          (fun key => (undocumented bindings).find? (·.1 == key)) = undocumented needed := by
        simp only [find?_undocumented]
        rw [undocumented, List.map_filterMap]
      have before : (undocumented needed).foldl (visit store.undocumented (undocumented bindings)
            fuel (binding.1 :: active)) (undocumented ordered) =
          undocumented (needed.foldl (visit store bindings fuel (binding.1 :: active)) ordered) :=
        foldl_undocumented (visit_undocumented fuel (binding.1 :: active)) ordered
      rw [visit, visit]
      simp only [Prod.map_fst, Prod.map_snd, id_eq, dependencies_undocumented, any_undocumented,
        found, before]
      split_ifs
      · rfl
      · exact (undocumented_append _ [binding]).symm

@[simp] theorem dependencyOrder_undocumented :
    dependencyOrder store.undocumented (undocumented bindings) =
      undocumented (dependencyOrder store bindings) := by
  rw [dependencyOrder, dependencyOrder,
    show (undocumented bindings).length = bindings.length from List.length_map _]
  exact foldl_undocumented (visit_undocumented _ _) []

/-! The C declarations. -/

@[simp] theorem ownTypes_undocumented : ownTypes d.undocumented = ownTypes d := by
  obtain ⟨usr, nativeName, name, doc, body⟩ := d
  cases body with
  | typedef underlying => cases underlying <;> rfl
  | _ => simp [ownTypes, Body.undocumented, Declaration.undocumented, Member.undocumented]

@[simp] theorem usesObjective_undocumented :
    usesObjective store.undocumented (undocumented bindings) = usesObjective store bindings := by
  induction bindings with
  | nil => rfl
  | cons binding rest induction =>
      rw [undocumented, List.map_cons, ← undocumented, usesObjective, usesObjective, induction]
      simp

theorem forward_undocumented (binding : Binding) :
    forward (binding.1, binding.2.undocumented) = forward binding := by
  obtain ⟨key, usr, nativeName, name, doc, body⟩ := binding
  cases body with
  | enumeration incomplete constants => cases incomplete <;> rfl
  | _ => rfl

@[simp] theorem prototype_undocumented (f : Function) :
    prototype store.undocumented d.undocumented f = prototype store d f := by
  simp [prototype]

@[simp] theorem globalLines_undocumented (type : CType) (const exposesAddress : Bool) :
    globalLines store.undocumented d.undocumented type const exposesAddress =
      globalLines store d type const exposesAddress := by
  simp [globalLines, addressAlias]

theorem enumConstant_undocumented : enumConstant ∘ EnumConstant.undocumented = enumConstant := rfl

@[simp] theorem braced_undocumented : braced d.undocumented = braced d := by
  funext lines
  simp [braced]

@[simp] theorem definition_undocumented (seen : List String) :
    definition store.undocumented seen d.undocumented = definition store seen d := by
  cases shape : d.body with
  | record kind incomplete members =>
      cases incomplete <;> simp [definition, shape, Body.undocumented, Member.undocumented,
        Function.comp_def]
  | enumeration incomplete constants =>
      simp [definition, shape, Body.undocumented, List.mapM_map, enumConstant_undocumented]
  | typedef underlying =>
      cases underlying <;> simp [definition, shape, Body.undocumented]
  | _ => simp [definition, shape, Body.undocumented]

theorem definitions_undocumented (seen : List String) :
    definitions store.undocumented seen (undocumented bindings) =
      definitions store seen bindings := by
  induction bindings generalizing seen with
  | nil => rfl
  | cons binding rest induction =>
      rw [undocumented, List.map_cons, ← undocumented, definitions, definitions]
      simp [induction]

@[simp] theorem cdef_undocumented :
    cdef store.undocumented (undocumented bindings) = cdef store bindings := by
  have ahead : (undocumented bindings).flatMap forward = bindings.flatMap forward := by
    rw [undocumented, List.flatMap_map]
    exact congrArg (bindings.flatMap ·) (funext forward_undocumented)
  rw [cdef, cdef, usesObjective_undocumented, dependencyOrder_undocumented,
    definitions_undocumented, ahead]

/-! The layout. -/

@[simp] theorem Section.admits_undocumented (s : Section) :
    s.admits d.undocumented = s.admits d := by
  obtain ⟨usr, nativeName, name, doc, body⟩ := d
  cases s <;> cases body <;> rfl

@[simp] theorem Section.needs_undocumented (s : Section) : s.needs d.undocumented = s.needs d := by
  cases s <;> rfl

def Candidate.undocumented (c : Candidate) : Candidate :=
  ⟨c.place, Prod.map id Declaration.undocumented c.binding⟩

theorem candidates_undocumented :
    candidates (undocumented bindings) = (candidates bindings).map Candidate.undocumented := by
  simp [candidates, undocumented, List.filter_map, List.map_flatMap, Function.comp_def,
    Candidate.undocumented]

namespace Layout

def undocumented (layout : Layout) : Layout :=
  ⟨layout.exposed.map Candidate.undocumented, layout.refused.map Candidate.undocumented⟩

theorem grant_undocumented (layout : Layout) (c : Candidate) :
    layout.undocumented.grant c.undocumented = (layout.grant c).undocumented := by
  have names (c : Candidate) : c.undocumented.names = c.names := c.place.needs_undocumented
  have taken : layout.undocumented.taken = layout.taken := by
    simp [Layout.taken, undocumented, List.flatMap_map, names]
  rw [grant, grant, names, taken]
  split_ifs <;> simp [undocumented]

theorem foldl_grant_undocumented (cs : List Candidate) (layout : Layout) :
    (cs.map Candidate.undocumented).foldl grant layout.undocumented =
      (cs.foldl grant layout).undocumented := by
  rw [List.foldl_map]
  exact List.foldl_hom undocumented grant_undocumented

theorem of_undocumented :
    Layout.of (LuaBinder.undocumented bindings) = (Layout.of bindings).undocumented := by
  rw [Layout.of, Layout.of, candidates_undocumented]
  exact foldl_grant_undocumented (candidates bindings) {}

theorem within_undocumented (layout : Layout) (s : Section) :
    layout.undocumented.within s = LuaBinder.undocumented (layout.within s) := by
  simp [within, undocumented, LuaBinder.undocumented, List.filter_map, Function.comp_def,
    Candidate.undocumented]

end Layout

/-! The members of the module. Only a function has a comment in front of it. -/

theorem enumLine_undocumented : enumLine ∘ EnumConstant.undocumented = enumLine := rfl

theorem methodTable_undocumented (title : String) (methods : List Method) :
    methodTable title (methods.map Method.undocumented) = methodTable title methods := by
  simp [methodTable, Method.undocumented, Function.comp_def]

theorem classCode_undocumented (superclass : Option String) (methods : List Method) :
    classCode store.undocumented d.undocumented superclass (methods.map Method.undocumented) =
      classCode store d superclass methods := by
  have instances : (methods.map Method.undocumented).filter (!·.ofClass) =
      (methods.filter (!·.ofClass)).map Method.undocumented := List.filter_map
  have classes : (methods.map Method.undocumented).filter (·.ofClass) =
      (methods.filter (·.ofClass)).map Method.undocumented := List.filter_map
  cases superclass <;> simp only [classCode, instances, classes, methodTable_undocumented,
    Declaration.name_undocumented, Declaration.nativeName_undocumented,
    Store.lookup?_undocumented, Option.map_map, Function.comp_def]

theorem enumCode_undocumented (constants : List EnumConstant) :
    enumCode d.undocumented (constants.map EnumConstant.undocumented) = enumCode d constants := by
  rw [enumCode, enumCode, List.mapM_map, enumLine_undocumented, Declaration.name_undocumented]

theorem globalCode_undocumented (const : Bool) :
    globalCode d.undocumented const = globalCode d const := rfl

theorem wrapper_undocumented (f : Function) (symbol : String) :
    wrapper store.undocumented d.undocumented f symbol = wrapper store d f symbol := by
  simp [wrapper]

theorem functionCode_undocumented (f : Function) :
    functionCode store d f =
      Code.comment "--" d.doc ++ functionCode store.undocumented d.undocumented f := by
  have comment : (if d.doc == "" then [] else Code.comment "--" d.doc) =
      Code.comment "--" d.doc := by
    split_ifs with empty
    · rw [eq_of_beq empty]
      rfl
    · rfl
  rw [functionCode, functionCode, comment, wrapper_undocumented]
  rfl

theorem typeSpelling_undocumented : typeSpelling d.undocumented = typeSpelling d := by
  simp [typeSpelling]

/-- What is said of a declaration in front of its code. -/
def codeDocs (d : Declaration) : List String :=
  match d.body with
  | .function _ => [d.doc]
  | _ => []

theorem map_append_nil {ε α : Type} (result : Except ε (List α)) : result.map ([] ++ ·) = result := by
  cases result <;> rfl

theorem memberCode_undocumented : memberCode store d =
    (memberCode store.undocumented d.undocumented).map
      ((codeDocs d).flatMap (Code.comment "--") ++ ·) := by
  cases shape : d.body with
  | function f =>
      simp only [memberCode, codeDocs, shape, Declaration.body_undocumented, Body.undocumented,
        Except.map, List.flatMap_singleton, functionCode_undocumented (d := d)]
  | enumeration incomplete constants =>
      simp only [memberCode, codeDocs, shape, Declaration.body_undocumented, Body.undocumented,
        enumCode_undocumented, List.flatMap_nil, map_append_nil]
  | interface incomplete superclass methods =>
      simp only [memberCode, codeDocs, shape, Declaration.body_undocumented, Body.undocumented,
        classCode_undocumented, List.flatMap_nil, map_append_nil]
  | _ =>
      simp only [memberCode, codeDocs, shape, Declaration.body_undocumented, Body.undocumented,
        typeSpelling_undocumented, globalCode_undocumented, Declaration.name_undocumented,
        List.flatMap_nil, map_append_nil]

/-! What follows the sections. -/

@[simp] theorem exposesAddress_undocumented :
    exposesAddress d.undocumented = exposesAddress d := by
  obtain ⟨usr, nativeName, name, doc, body⟩ := d
  cases body <;> rfl

@[simp] theorem addressSymbol_undocumented : addressSymbol d.undocumented = addressSymbol d := by
  simp [addressSymbol, addressAlias]

theorem addressLines_undocumented (seen : List String) :
    addressLines seen (undocumented bindings) = addressLines seen bindings := by
  induction bindings generalizing seen with
  | nil => rfl
  | cons binding rest induction =>
      rw [undocumented, List.map_cons, ← undocumented, addressLines, addressLines]
      simp [induction]

theorem titled_undocumented (title : String) (lines : Code) :
    titled title (undocumented bindings) lines = titled title bindings lines := by
  simp [titled, undocumented]

theorem filter_undocumented (test : Declaration → Bool)
    (same : ∀ d : Declaration, test d.undocumented = test d) :
    (undocumented bindings).filter (fun binding => test binding.2) =
      undocumented (bindings.filter fun binding => test binding.2) := by
  simp [undocumented, List.filter_map, Function.comp_def, same]

theorem addressCode_undocumented :
    addressCode (undocumented bindings) = addressCode bindings := by
  rw [addressCode, addressCode, filter_undocumented exposesAddress fun _ =>
    exposesAddress_undocumented,
    titled_undocumented, addressLines_undocumented]

theorem functionTypeLine_undocumented :
    functionTypeLine store.undocumented d.undocumented = functionTypeLine store d := by
  funext f
  simp [functionTypeLine]

theorem functionTypeCode_undocumented :
    functionTypeCode store.undocumented (undocumented bindings) =
      functionTypeCode store bindings := by
  have lines (exposed : List Binding) :
      (undocumented exposed).filterMap (fun binding =>
          binding.2.function?.map (functionTypeLine store.undocumented binding.2)) =
        exposed.filterMap fun binding =>
          binding.2.function?.map (functionTypeLine store binding.2) := by
    simp [undocumented, List.filterMap_map, functionTypeLine_undocumented]
  rw [functionTypeCode, functionTypeCode,
    filter_undocumented (fun d => (d.function?.map (·.exposesType)).getD false)
      (fun _ => by rw [Declaration.function?_undocumented]),
    titled_undocumented, lines]

/-! The definitions for editors. -/

theorem compoundLuaType_undocumented (moduleName : String) (found : Option Declaration) :
    compoundLuaType moduleName (found.map Declaration.undocumented) =
      compoundLuaType moduleName found := by
  rcases found with _ | ⟨usr, nativeName, name, doc, body⟩
  · rfl
  · cases body <;> rfl

theorem luaTypeWithin_undocumented (moduleName : String) : (fuel : Nat) → (type : CType) →
    luaTypeWithin store.undocumented moduleName fuel type = luaTypeWithin store moduleName fuel type
  | 0, _ => rfl
  | fuel + 1, .typedef key => by
      rw [luaTypeWithin, luaTypeWithin, Store.underlying?_undocumented]
      cases store.underlying? key with
      | none => rfl
      | some type => exact luaTypeWithin_undocumented moduleName fuel type
  | fuel + 1, .compound key => by
      rw [luaTypeWithin, luaTypeWithin, Store.lookup?_undocumented, compoundLuaType_undocumented]
      all_goals exact nofun
  | fuel + 1, .pointer target const => by
      cases target with
      | primitive primitive => cases primitive <;> rfl
      | _ => rfl
  | fuel + 1, .primitive _ | fuel + 1, .array _ _ | fuel + 1, .function _ _ _
  | fuel + 1, .unsupported _ => rfl

namespace StubContext

variable {c : StubContext}

def undocumented (c : StubContext) : StubContext := { c with store := c.store.undocumented }

@[simp] theorem moduleName_undocumented : c.undocumented.moduleName = c.moduleName := rfl

@[simp] theorem typeText_undocumented (type : CType) :
    c.undocumented.typeText type = c.typeText type := by
  rw [typeText, typeText, luaType, luaType, undocumented, Store.size_undocumented,
    luaTypeWithin_undocumented]

@[simp] theorem doc_empty : c.doc "" = [] := by
  simp [doc]

/-- What is said of a declaration in front of its lines. -/
def lineDocs (d : Declaration) : List String :=
  match d.body with
  | .record _ _ _ | .typedef _ => []
  | _ => [d.doc]

theorem memberLines_undocumented : c.memberLines d =
    (c.undocumented.memberLines d.undocumented).map ((lineDocs d).flatMap c.doc ++ ·) := by
  cases shape : d.body with
  | enumeration incomplete constants =>
      simp only [memberLines, lineDocs, shape, Declaration.body_undocumented, Body.undocumented,
        enumLines, List.mapM_map, enumLine_undocumented]
      cases constants.mapM enumLine <;> simp [bind, Except.bind, Except.map, pure, Except.pure]
  | constant rawType value =>
      simp only [memberLines, lineDocs, shape, Declaration.body_undocumented, Body.undocumented]
      cases constantType rawType <;> simp [bind, Except.bind, Except.map, pure, Except.pure]
  | function f =>
      simp [memberLines, lineDocs, shape, Body.undocumented, functionLines, Except.map]
  | _ =>
      simp [memberLines, lineDocs, shape, Body.undocumented, globalLines, Except.map]

theorem recordLines_undocumented (members : List Member) : c.recordLines d members =
    c.doc d.doc ++ c.undocumented.recordLines d.undocumented (members.map Member.undocumented) := by
  simp [recordLines, Member.undocumented, Function.comp_def]

theorem recordNames_undocumented :
    recordNames (LuaBinder.undocumented bindings) = recordNames bindings := by
  rw [recordNames, recordNames, filter_undocumented Declaration.isRecord fun _ =>
    Declaration.isRecord_undocumented]
  simp [LuaBinder.undocumented, Function.comp_def]

theorem aliases_undocumented :
    c.undocumented.aliases (LuaBinder.undocumented bindings) = c.aliases bindings := by
  have line (d : Declaration) (underlying : Option CType) :
      c.undocumented.aliasLine d.undocumented underlying = c.aliasLine d underlying := by
    cases underlying <;> simp [aliasLine]
  rw [aliases, aliases, recordNames_undocumented, LuaBinder.undocumented, List.flatMap_map]
  refine congrArg (bindings.flatMap ·) (funext fun binding => ?_)
  cases shape : binding.2.body <;> simp [shape, Body.undocumented, line]

end StubContext

end LuaBinder.LuaModule
