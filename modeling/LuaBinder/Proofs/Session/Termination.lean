import LuaBinder.LuaModule.Order
import LuaBinder.LuaModule.Stub
import LuaBinder.Proofs.Declaration.ByValue
import LuaBinder.Proofs.Declaration.Unfolding
import LuaBinder.Proofs.Session.Fares.Running

namespace LuaBinder

open Header Session LuaModule

/-! Where no typedef is another name of itself, everything comes to an end: visits, runs
and type resolutions, and whatever follows the typedefs of a bound type. -/

namespace LuaModule

open Store

/-! Modules follow typedefs too. Where the walk along them ends, any larger bound gives the
same answer. -/

variable {store : Store} {type last : CType} {steps fuel : Nat}

theorem byValueWith_eq (unfold : String → List String) : (type : CType) →
    byValueWith unfold type =
      match type.element with
      | .compound key => [key]
      | .typedef key => key :: unfold key
      | _ => []
  | .array inner _ => by simp [CType.element, byValueWith, byValueWith_eq unfold inner]
  | .pointer _ _ | .primitive _ | .compound _ | .typedef _ | .function _ _ _
  | .unsupported _ => rfl

theorem byValueWithin_of_unfolds (walk : store.Unfolds CType.element steps type last)
    (enough : steps < fuel) :
    byValueWithin store fuel type = byValueWithin store (steps + 1) type := by
  induction walk generalizing fuel with
  | @stop type final =>
      obtain ⟨fuel, rfl⟩ : ∃ less, fuel = less + 1 := ⟨fuel - 1, by omega⟩
      rw [byValueWithin, byValueWithin, byValueWith_eq, byValueWith_eq]
      cases element : type.element <;> simp_all
  | @step type inner last key steps named found rest induction =>
      obtain ⟨fuel, rfl⟩ : ∃ less, fuel = less + 1 := ⟨fuel - 1, by omega⟩
      rw [byValueWithin, byValueWithin, byValueWith_eq, byValueWith_eq]
      simp [named, found, induction (Nat.lt_of_succ_lt_succ enough)]

theorem luaTypeWithin_of_unfolds {moduleName : String}
    (walk : store.Unfolds id steps type last) (enough : steps < fuel) :
    luaTypeWithin store moduleName fuel type =
      luaTypeWithin store moduleName (steps + 1) type := by
  induction walk generalizing fuel with
  | @stop type final =>
      obtain ⟨fuel, rfl⟩ : ∃ less, fuel = less + 1 := ⟨fuel - 1, by omega⟩
      cases type with
      | typedef key => simp [luaTypeWithin, final key rfl]
      | pointer target =>
          cases target with
          | primitive primitive => cases primitive <;> simp [luaTypeWithin]
          | _ => simp [luaTypeWithin]
      | _ => simp [luaTypeWithin]
  | @step type inner last key steps named found rest induction =>
      obtain ⟨fuel, rfl⟩ : ∃ less, fuel = less + 1 := ⟨fuel - 1, by omega⟩
      obtain rfl : type = .typedef key := named
      simpa [luaTypeWithin, found] using induction (Nat.lt_of_succ_lt_succ enough)

end LuaModule

/-- Each way to follow the typedefs of the type takes finitely many steps, after which a
larger bound makes no difference. -/
structure Store.Follows (store : Store) (type : CType) : Prop where
  base : ∃ steps last, store.Unfolds CType.core steps type last ∧
    ∀ fuel, steps < fuel → store.baseWithin fuel type = last
  target : ∃ steps last, store.Unfolds id steps type last ∧
    ∀ fuel, steps < fuel → store.targetWithin fuel type = last ∧
      ∀ moduleName, luaTypeWithin store moduleName fuel type = luaType store moduleName type
  held : ∃ steps last, store.Unfolds CType.element steps type last ∧
    ∀ fuel, steps < fuel → store.heldWithin fuel type = store.held? type ∧
      byValueWithin store fuel type = byValue store type

theorem Store.follows_of_unfolds {store : Store} {type : CType}
    (ends : ∀ peel : CType → CType,
      (∀ type key, peel type = .typedef key → type.core = .typedef key) →
      ∃ steps last, store.Unfolds peel steps type last) : store.Follows type where
  base := by
    obtain ⟨steps, last, walk⟩ := ends CType.core fun _ _ named => named
    exact ⟨steps, last, walk, fun fuel enough => baseWithin_of_unfolds walk enough⟩
  target := by
    obtain ⟨steps, last, walk⟩ := ends id fun _ _ named => congrArg CType.core named
    refine ⟨steps, last, walk, fun fuel enough => ⟨targetWithin_of_unfolds walk enough, ?_⟩⟩
    intro moduleName
    rw [luaType, luaTypeWithin_of_unfolds walk enough,
      luaTypeWithin_of_unfolds walk (Nat.lt_succ_of_lt walk.steps_lt)]
  held := by
    obtain ⟨steps, last, walk⟩ := ends CType.element fun type _ named =>
      (CType.core_element type).symm.trans (congrArg CType.core named)
    refine ⟨steps, last, walk, fun fuel enough => ⟨?_, ?_⟩⟩
    · rw [held?, heldWithin_of_unfolds walk enough, heldWithin_of_unfolds walk walk.steps_lt]
    · rw [byValue, byValueWithin_of_unfolds walk enough,
        byValueWithin_of_unfolds walk walk.steps_lt]

namespace Sources

variable {sources : Sources} {store earlier : Store} {s : Session} {key other : String}
  {type : CType}

theorem Describe.aliases (described : sources.Describe store)
    (found : store.underlying? key = some type) (named : type.core = .typedef other) :
    sources.forest.Aliases key other := by
  rw [Store.underlying?_eq] at found
  obtain ⟨body, published, underlying⟩ := Option.bind_eq_some_iff.mp found
  obtain ⟨number, own, resolution⟩ := (described.body? published).underlying type underlying
  obtain ⟨target, renamed, same⟩ := resolution.exists_alias named
  exact ⟨number, target, own, renamed, same⟩

theorem Describe.exists_unfolds (described : sources.Describe store)
    (acyclic : ∀ usr, ¬ Relation.TransGen sources.forest.Aliases usr usr)
    (bound : ∀ key type, earlier.underlying? key = some type →
      store.underlying? key = some type)
    (peel : CType → CType)
    (below : ∀ type key, peel type = .typedef key → type.core = .typedef key) (type : CType) :
    ∃ steps last, earlier.Unfolds peel steps type last :=
  Store.exists_unfolds acyclic (fun key inner name found named =>
    described.aliases (bound key inner found) (below inner name named)) type

theorem part_of_longer {forest : Forest} {policy : Policy} {commands : List Command}
    {type part : NativeType}
    (within : (ofCommands forest policy (commands ++ [.resolve type])).Part part) :
    (ofCommands forest policy commands).Part part ∨ part ∈ type.parts := by
  obtain ⟨whole, drawn, below⟩ := within
  rcases drawn with drawn | drawn
  · simp only [ofCommands, List.flatMap_append, List.flatMap_singleton, List.mem_append,
      List.mem_singleton] at drawn
    rcases drawn with drawn | rfl
    · exact .inl ⟨whole, .inl drawn, below⟩
    · exact .inr below
  · exact .inl ⟨whole, .inr drawn, below⟩

theorem Raises.ne_tooDeep {error : Error} (raises : sources.Raises error)
    (named : ∀ part, sources.Part part → ¬ part.IsOwnTypedef) : error ≠ .tooDeep := by
  rintro rfl
  obtain ⟨part, within, own⟩ := raises
  exact named part within own

theorem Lands.ne_tooDeep {step : Step α} {raises : Error → Prop}
    (lands : sources.Lands s step raises) (fails : ∀ error, raises error → error ≠ .tooDeep) :
    (step.run sources.forest s).1 ≠ .error .tooDeep := by
  intro deep
  unfold Lands Step.Ensures at lands
  split at lands
  · rename_i result
    simp [result] at deep
  · rename_i error after result
    rw [result] at deep
    exact fails error lands.1 (Except.error.inj deep)

end Sources

namespace Session

open Sources

/-- Over a header in which no typedef is another name of itself, neither by its underlying
type nor by having no declaration and no other canonical type, nothing that a session is
asked to do nests too deeply. Nor does any clearing, and at any time at which the typedefs
stood for what they stand for now, or were pending, they can be followed to an end. -/
theorem sessions_terminate (forest : Forest) (policy : Policy) (commands : List Command)
    (acyclic : ∀ usr, ¬ Relation.TransGen forest.Aliases usr usr)
    (named : ∀ part, (ofCommands forest policy commands).Part part → ¬ part.IsOwnTypedef) :
    let s := history forest policy commands
    (∀ number, ((visit number).run forest s).1 ≠ .error .tooDeep) ∧
    (∀ top, ((runAll top).run forest s).1 ≠ .error .tooDeep) ∧
    (∀ type : NativeType, (∀ part ∈ type.parts, ¬ NativeType.IsOwnTypedef part) →
      ((resolveType type).run forest s).1 ≠ .error .tooDeep) ∧
    (∀ usr problem,
      ((makeOpaque (s.store.size + 1) usr problem).run forest s).1 = .ok ()) ∧
    ∀ earlier : Store, (∀ key type, earlier.underlying? key = some type →
      s.store.underlying? key = some type) → ∀ type, earlier.Follows type := by
  intro s
  have settled : (ofCommands forest policy commands).Settled s :=
    settled_ofCommands forest policy commands
  refine ⟨fun number => ?_, fun top => ?_, fun type parts => ?_, fun usr problem => ?_, ?_⟩
  · exact Lands.ne_tooDeep (visit_lands settled number) fun _ raises => raises.ne_tooDeep named
  · refine Lands.ne_tooDeep (runAll_lands settled top) fun error raises => ?_
    rcases raises with raises | ⟨-, count, rfl⟩
    · exact raises.ne_tooDeep named
    · simp
  · have drawn : type ∈ (ofCommands forest policy (commands ++ [.resolve type])).types := by
      simp [ofCommands]
    refine Lands.ne_tooDeep (resolve_lands (settled_longer forest policy commands _) drawn) ?_
    refine fun _ raises => raises.ne_tooDeep fun part within => ?_
    rcases part_of_longer within with within | below
    · exact named part within
    · exact parts part below
  · have succeeds := @makeOpaque_succeeds_of_size forest usr problem s
    unfold Step.Ensures at succeeds
    split at succeeds
    · rename_i result
      rw [result]
    · exact succeeds.elim
  · intro earlier bound type
    exact Store.follows_of_unfolds fun peel below =>
      settled.described.exists_unfolds acyclic bound peel below type

def outerUsr : String := "c:U"

/-- `struct S; typedef void (*T)(struct S *); typedef T *U; struct S { U u; struct S *s; };` -/
def callbackRing : Forest := ⟨#[
  { kind := .typedef, spelling := "T", usr := "c:T"
    underlying := .pointerTo <| .function .functionPrototype (.ofKind .void) <|
      .cons (NativeType.pointerTo (.declared .record 2)) .nil },
  { kind := .typedef, spelling := "U", usr := outerUsr
    underlying := .pointerTo (.declared .typedef 0) },
  { kind := .struct, spelling := "S", usr := "c:S", children := [3, 4]
    definition := some 2 },
  { kind := .field, spelling := "u", type := .declared .typedef 1 },
  { kind := .field, spelling := "s", type := .pointerTo (.declared .record 2) }]⟩

theorem aliases_callbackRing {usr other : String} (aliases : callbackRing.Aliases usr other) :
    usr = outerUsr ∧ other = "c:T" := by
  have listed : ∀ c ∈ callbackRing.cursors.toList, ∀ target ∈ NativeType.alias? c.underlying,
      c.usr = outerUsr ∧ (callbackRing.cursor target).usr = "c:T" := by decide +kernel
  obtain ⟨number, target, rfl, renamed, rfl⟩ := aliases
  rcases callbackRing.cursor_cases number with found | missing
  · exact listed _ found target renamed
  · simp [missing, NativeType.alias?] at renamed

/-- The structure, its callbacks and their typedefs all lead to each other. -/
theorem callbackRing_terminates :
    ((visit 2).run callbackRing (history callbackRing {} [.visit 1])).1 ≠ .error .tooDeep ∧
      (history callbackRing {} [.visit 1]).store.Follows (.typedef outerUsr) := by
  have acyclic (usr : String) : ¬ Relation.TransGen callbackRing.Aliases usr usr := by
    intro cycle
    obtain ⟨next, first, -⟩ := Relation.TransGen.head'_iff.mp cycle
    obtain ⟨middle, -, last⟩ := Relation.TransGen.tail'_iff.mp cycle
    have source : usr = outerUsr := (aliases_callbackRing first).1
    have target : usr = "c:T" := (aliases_callbackRing last).2
    simp [source, outerUsr] at target
  have declared : ∀ part ∈ (ofCommands callbackRing {} [.visit 1]).parts,
      NativeType.kind part = .typedef → part.declaration? ≠ none := by decide +kernel
  have named (part : NativeType) (within : (ofCommands callbackRing {} [.visit 1]).Part part) :
      ¬ part.IsOwnTypedef :=
    fun own => declared part (mem_parts_iff.mpr within) own.1 own.2.1
  have terminates := sessions_terminate callbackRing {} [.visit 1] acyclic named
  exact ⟨terminates.1 2, terminates.2.2.2.2 _ (fun _ _ bound => bound) _⟩

end Session

end LuaBinder
