import LuaBinder.Proofs.Session.Sources
import LuaBinder.Proofs.Session.Step

namespace LuaBinder.Session

open Header

/-! What steps give, from whatever session they start. -/

variable {forest : Forest} {native : NativeType} {declare : Declare}

def Step.Returns (step : Step α) (forest : Forest) (good : α → Prop) : Prop :=
  ∀ s, step.Ensures forest s (fun value _ => good value) fun _ _ => True

namespace Step.Returns

variable {good : α → Prop} {good' : β → Prop}

theorem pure {value : α} (given : good value) : (Pure.pure value : Step α).Returns forest good :=
  fun _ => given

theorem throw {error : Error} : (MonadExcept.throw error : Step α).Returns forest good :=
  fun _ => trivial

theorem imp {good' : α → Prop} {step : Step α} (returns : step.Returns forest good)
    (implied : ∀ value, good value → good' value) : step.Returns forest good' :=
  fun s => (returns s).imp (fun value _ => implied value) fun _ _ _ => trivial

theorem bind {step : Step α} {next : α → Step β} (first : step.Returns forest good)
    (second : ∀ value, good value → (next value).Returns forest good') :
    (step >>= next).Returns forest good' :=
  fun s => Ensures.bind (first s) fun value middle given => second value given middle

theorem map {step : Step α} {f : α → β} (first : step.Returns forest good)
    (implied : ∀ value, good value → good' (f value)) :
    (do return f (← step)).Returns forest good' :=
  first.bind fun value given => .pure (implied value given)

/-- What comes before does not matter. -/
theorem after {step : Step α} {next : α → Step β}
    (second : ∀ value, (next value).Returns forest good') :
    (step >>= next).Returns forest good' := by
  have first : step.Returns forest fun _ => True := by
    intro s
    unfold Ensures
    split <;> trivial
  exact first.bind fun value _ => second value

theorem cursor {number : Nat} {next : Cursor → Step β}
    (second : (next (forest.cursor number)).Returns forest good') :
    (Session.cursor number >>= next).Returns forest good' :=
  fun s => Ensures.look rfl (second s)

end Step.Returns

/-! Types are resolved to what the headers say, in whatever session. -/

theorem unsupported_returns {spelling reason : String} :
    (unsupported spelling reason).Returns forest (Resolution forest native) :=
  .after fun _ => .pure (.unsupported _)

/-- What is declared is given by its USR. -/
def Declare.Names (declare : Declare) (forest : Forest) : Prop :=
  ∀ form number, (declare form number).Returns forest (· = (forest.cursor number).usr)

theorem declareWithin_names (fuel : Nat) : Declare.Names (declareWithin fuel) forest := by
  intro form number
  cases fuel with
  | zero => exact .throw
  | succ fuel =>
      refine .cursor (.after fun store => ?_)
      split
      · exact .pure rfl
      · exact .after fun _ => .pure rfl

theorem declare_names : Declare.Names Session.declare forest :=
  fun form number => .after fun _ => declareWithin_names _ form number

section

variable (names : declare.Names forest)
include names

theorem resolveCompound_returns (native : NativeType) {facts : TypeFacts TypeKind}
    (own : native.facts? = some facts) :
    (resolveCompound declare facts).Returns forest (Resolution forest native) := by
  unfold resolveCompound
  split
  · exact unsupported_returns
  · rename_i number declared
    refine .cursor ?_
    dsimp only
    split
    · rename_i form formed
      refine (names form number).map ?_
      rintro _ rfl
      exact .compound (by simp [TypeTree.declaration?, own, declared]) formed
    · exact unsupported_returns

theorem resolveTypedef_returns {number : Nat} (kind : native.kind = .typedef)
    (declared : native.declaration? = some number) :
    (resolveTypedef declare number).Returns forest (Resolution forest native) := by
  refine .cursor ?_
  split
  · exact .pure (.primitive _)
  · refine (names .typedef number).map ?_
    rintro _ rfl
    exact .typedef kind declared

theorem resolveObject_returns (native : NativeType) (kind : native.kind = .objectPointer) :
    (resolveObject declare native.pointee).Returns forest (Resolution forest native) := by
  cases pointee : native.pointee with
  | absent => exact .pure (.primitive _)
  | known facts =>
      simp only [resolveObject]
      split
      · refine (resolveCompound_returns names native.pointee (by rw [pointee]; rfl)).map ?_
        exact fun _ resolution => .pointer (.inr kind) resolution
      · exact .pure (.primitive _)

end

mutual

theorem resolve_returns (names : declare.Names forest) : (native : NativeType) →
    (resolve declare native).Returns forest (Resolution forest native)
  | .absent => unsupported_returns
  | .known facts pointee element named result canonical arguments => by
      rw [resolve]
      split
      · exact .pure (.primitive _)
      · exact unsupported_returns
      split
      case h_1 kind => -- pointers
        exact (resolve_returns names pointee).map fun _ resolution =>
          .pointer (.inl kind) resolution
      case h_2 kind => -- pointers to objects
        exact resolveObject_returns names
          (.known facts pointee element named result canonical arguments) kind
      case h_3 kind =>
        exact (resolve_returns names element).map fun _ resolution => .array (.inl kind) resolution
      case h_4 kind =>
        exact (resolve_returns names element).map fun _ resolution => .array (.inr kind) resolution
      case h_5 kind => -- elaborated types
        exact (resolve_returns names named).imp fun _ resolution => .elaborated kind resolution
      case h_6 kind => -- typedefs
        split
        · rename_i number declared
          exact resolveTypedef_returns names kind declared
        · rename_i undeclared
          split
          · exact .throw
          · rename_i known
            refine (resolve_returns names canonical).imp fun _ resolution =>
              .canonical (.inr ⟨kind, undeclared⟩) ?_
            cases canonical with
            | absent => simp [TypeTree.facts?] at known
            | known => exact resolution
      case h_7 | h_8 | h_9 => exact resolveCompound_returns names _ rfl
      case h_10 kind => -- functions without a prototype
        exact (resolve_returns names result).map fun _ resolution => .bareFunction kind resolution
      case h_11 => -- function prototypes
        split
        · exact unsupported_returns
        refine (resolveAll_returns names arguments 0).bind fun params each => ?_
        refine (resolve_returns names result).bind fun type resolution => ?_
        refine .after fun store => ?_
        split
        · rename_i usable
          choose! origin listed each using each
          exact .pure (.function origin listed each resolution usable)
        · exact unsupported_returns
      case h_12 kind => -- unexposed types
        split
        · exact unsupported_returns
        · rename_i known
          refine (resolve_returns names canonical).imp fun _ resolution =>
            .canonical (.inl kind) ?_
          cases canonical with
          | absent => simp [TypeTree.facts?] at known
          | known => exact resolution
      case h_13 => exact unsupported_returns

theorem resolveAll_returns (names : declare.Names forest) :
    (natives : TypeTrees TypeKind) → (index : Nat) →
    (resolveAll declare index natives).Returns forest fun params =>
      ∀ p ∈ params, ∃ native ∈ natives.toList, Resolution forest native p.2
  | .nil, _ => .pure (by simp)
  | .cons first rest, index => by
      rw [resolveAll]
      refine (resolve_returns names first).bind fun type resolution => ?_
      refine (resolveAll_returns names rest (index + 1)).map fun params each p member => ?_
      rcases List.mem_cons.mp member with rfl | member
      · exact ⟨first, by simp [TypeTrees.toList], resolution⟩
      · obtain ⟨native, listed, resolution⟩ := each p member
        exact ⟨native, by simp [TypeTrees.toList, listed], resolution⟩

end

end LuaBinder.Session
