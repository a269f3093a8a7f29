import LuaBinder.Proofs.Session.Inert.Pairing
import LuaBinder.Proofs.Session.Stages

namespace LuaBinder.Session

open Header Store Step

/-! Types and declarations in two runs: what is resolved is the same, and what is built
has the same parts. -/

/-- Two runs get the same USRs. -/
def Declare.Agrees (declare : Declare) : Prop :=
  ∀ form number, Pairs Eq (declare form number) (declare form number)

/-! Types. -/

theorem pairs_unsupported (spelling reason : String) :
    Pairs Eq (unsupported spelling reason) (unsupported spelling reason) :=
  (pairs_debug _ _ _ _).next fun _ => pairs_pure rfl

theorem pairs_finishFunction (facts : TypeFacts TypeKind) (params : List (String × CType))
    (result : CType) :
    Pairs Eq (finishFunction facts params result) (finishFunction facts params result) := by
  refine pairs_getStore.bind fun store other same => ?_
  have usable : isUsableSignature store params result = isUsableSignature other params result := by
    simp only [isUsableSignature, isUnsupported_of_bare same, isIncomplete_of_bare same]
  rw [usable]
  split
  · exact pairs_pure rfl
  · exact pairs_unsupported _ _

section

variable {declare : Declare} (agrees : declare.Agrees)
include agrees

theorem pairs_resolveCompound (facts : TypeFacts TypeKind) :
    Pairs Eq (resolveCompound declare facts) (resolveCompound declare facts) := by
  unfold resolveCompound
  split
  · exact pairs_unsupported _ _
  · refine (pairs_cursor _).next fun c => ?_
    dsimp only
    split
    · exact (agrees _ _).next fun _ => pairs_pure rfl
    · exact pairs_unsupported _ _

theorem pairs_resolveTypedef (number : Nat) :
    Pairs Eq (resolveTypedef declare number) (resolveTypedef declare number) := by
  refine (pairs_cursor number).next fun c => ?_
  split
  · exact pairs_pure rfl
  · exact (agrees _ _).next fun _ => pairs_pure rfl

theorem pairs_resolveObject (native : NativeType) :
    Pairs Eq (resolveObject declare native) (resolveObject declare native) := by
  cases native with
  | absent => exact pairs_pure rfl
  | known facts =>
      simp only [resolveObject]
      split
      · exact (pairs_resolveCompound agrees facts).next fun _ => pairs_pure rfl
      · exact pairs_pure rfl

end

section

variable {declare : Declare}

mutual

theorem pairs_resolve (agrees : declare.Agrees) : (native : NativeType) →
    Pairs Eq (resolve declare native) (resolve declare native)
  | .absent => pairs_unsupported _ _
  | .known facts pointee element named result canonical arguments => by
      rw [resolve]
      split
      · exact pairs_pure rfl
      · exact pairs_unsupported _ _
      split
      case h_1 => exact (pairs_resolve agrees pointee).next fun _ => pairs_pure rfl
      case h_2 => exact pairs_resolveObject agrees pointee
      case h_3 | h_4 => exact (pairs_resolve agrees element).next fun _ => pairs_pure rfl
      case h_5 => exact pairs_resolve agrees named
      case h_6 => -- typedefs
        split
        · exact pairs_resolveTypedef agrees _
        split
        · exact pairs_throw
        · exact pairs_resolve agrees canonical
      case h_7 | h_8 | h_9 => exact pairs_resolveCompound agrees facts
      case h_10 => exact (pairs_resolve agrees result).next fun _ => pairs_pure rfl
      case h_11 => -- function prototypes
        split
        · exact pairs_unsupported _ _
        refine (pairs_resolveAll agrees arguments 0).next fun params => ?_
        exact (pairs_resolve agrees result).next fun _ => pairs_finishFunction facts params _
      case h_12 => -- unexposed types
        split
        · exact pairs_unsupported _ _
        · exact pairs_resolve agrees canonical
      case h_13 => exact pairs_unsupported _ _

theorem pairs_resolveAll (agrees : declare.Agrees) : (natives : TypeTrees TypeKind) →
    (index : Nat) →
    Pairs Eq (resolveAll declare index natives) (resolveAll declare index natives)
  | .nil, _ => pairs_pure rfl
  | .cons first rest, index => by
      rw [resolveAll]
      refine (pairs_resolve agrees first).next fun type => ?_
      exact (pairs_resolveAll agrees rest (index + 1)).next fun _ => pairs_pure rfl

end

end

/-! Names. -/

theorem pairs_nameOf (c : Cursor) : Pairs Eq (nameOf c) (nameOf c) := by
  unfold nameOf
  split
  · exact pairs_typedefName _
  · exact pairs_pure rfl

theorem pairs_renameUnlessEmpty (selection other : Selection) (name : String) :
    Pairs (fun _ _ => True) (renameUnlessEmpty selection name)
      (renameUnlessEmpty other name) := by
  unfold renameUnlessEmpty
  split
  · exact pairs_pure trivial
  · exact pairs_renamed _ _

theorem pairs_parameterName (selection other : Selection) (owner : String) (index : Nat)
    (spelling : String) :
    Pairs (fun _ _ => True) (parameterName selection owner index spelling)
      (parameterName other owner index spelling) := by
  unfold parameterName
  split
  · exact (pairs_pure rfl).next fun _ => pairs_pure trivial
  · exact (pairs_renamed _ _).bind fun _ _ _ => pairs_pure trivial

/-! Records. -/

theorem bare_clearRecord (body : Body) : (clearRecord body).bare = clearRecord body.bare := by
  cases body <;> rfl

theorem bare_setMembers (members : List Member) (body : Body) :
    (setMembers members body).bare = setMembers (members.map Member.bare) body.bare := by
  cases body <;> rfl

theorem heldMember?_bare (store : Store) (usr : String) (d : Declaration) :
    (heldMember? store usr d).map Member.bare = heldMember? store.bare usr d.bare := by
  obtain ⟨_, _, _, _, body⟩ := d
  cases body with
  | record kind incomplete members =>
      cases incomplete with
      | true => rfl
      | false =>
          simp only [heldMember?, Declaration.bare, Body.bare, List.find?_map, held?_bare]
          rfl
  | _ => rfl

theorem pairs_makeOpaque (fuel : Nat) (usr : String) (problem problem' : String) :
    Pairs Eq (makeOpaque fuel usr problem) (makeOpaque fuel usr problem') := by
  induction fuel generalizing usr problem problem' with
  | zero => exact pairs_throw
  | succ fuel induction =>
      refine (pairs_amend _ bare_clearRecord bare_clearRecord).next fun _ => ?_
      refine (pairs_lookup? usr).bind fun found found' same => ?_
      have native : (found.map (·.nativeName)).getD "" = (found'.map (·.nativeName)).getD "" := by
        simpa [Function.comp_def, Declaration.bare] using
          congrArg (fun d => (d.map (·.nativeName)).getD "") same
      dsimp only
      rw [native]
      refine (pairs_diagnose _ _ _ _ _).next fun _ => ?_
      refine pairs_getStore.bind fun store store' stores => ?_
      rw [keys_of_bare stores]
      refine pairs_forM _ fun holder _ => ?_
      refine (pairs_lookup? holder).bind fun d d' same => ?_
      cases d with
      | none =>
          obtain rfl : d' = none := by simpa using same.symm
          exact pairs_pure rfl
      | some d =>
          obtain ⟨d', rfl, alike⟩ := Option.map_eq_some_iff.mp same.symm
          refine pairs_getStore.bind fun store store' stores => ?_
          have held := heldMember?_bare store usr d
          rw [stores, ← alike, ← heldMember?_bare] at held
          cases found : heldMember? store usr d with
          | none =>
              obtain found' : heldMember? store' usr d' = none := by simpa [found] using held.symm
              rw [found']
              exact pairs_pure rfl
          | some m =>
              obtain ⟨m', found', -⟩ := Option.map_eq_some_iff.mp (found ▸ held).symm
              rw [found']
              exact (pairs_debug _ _ _ _).next fun _ => induction _ _ _

theorem pairs_buildMember (selection other : Selection) (record : String) (index : Nat)
    (c : Cursor) (type : CType) :
    Pairs (fun member again => member.bare = again.bare)
      (buildMember selection record index c type) (buildMember other record index c type) := by
  unfold buildMember
  split
  · refine (pairs_renamed _ _).bind fun _ _ _ => ?_
    exact (pairs_docOf c c).bind fun _ _ _ => pairs_pure rfl
  · exact (pairs_docOf c c).bind fun _ _ _ => pairs_pure rfl

/-- The same members apart from their names, or the same problem. -/
def SameMembers : Except String (List Member) → Except String (List Member) → Prop
  | .ok members, .ok others => members.map Member.bare = others.map Member.bare
  | .error _, .error _ => True
  | _, _ => False

theorem memberProblem?_of_bare {store other : Store} (same : store.bare = other.bare)
    (name : String) (type : CType) :
    memberProblem? store name type = memberProblem? other name type := by
  simp only [memberProblem?, isUnsupported_of_bare same, isIncomplete_of_bare same]

theorem pairs_childrenOf (number : Nat) (kind : CursorKind) :
    Pairs Eq (childrenOf number kind) (childrenOf number kind) :=
  pairs_read.next fun _ => pairs_pure rfl

theorem bare_addConstant (constant : EnumConstant) (body : Body) :
    (addConstant constant body).bare = addConstant constant.bare body.bare := by
  cases body <;> simp [addConstant, Body.bare]

theorem pairs_buildConstant (selection other : Selection) (usr enumeration : String)
    (number : Nat) :
    Pairs Eq (buildConstant selection usr enumeration number)
      (buildConstant other usr enumeration number) := by
  refine (pairs_cursor number).next fun c => ?_
  refine (pairs_renamed _ _).bind fun name name' _ => ?_
  refine (pairs_docOf c c).bind fun doc doc' _ => ?_
  exact pairs_amend _ (bare_addConstant _) (bare_addConstant _)

theorem pairs_buildEnumeration (number : Nat) :
    Pairs Eq (buildEnumeration number) (buildEnumeration number) := by
  refine (pairs_cursor number).next fun c => ?_
  refine pairs_getPolicy.bind fun policy policy' policies => ?_
  refine (pairs_cursor _).next fun definition => ?_
  refine (pairs_nameOf c).next fun nativeName => ?_
  refine (pairs_renameUnlessEmpty _ _ _).bind fun name name' _ => ?_
  refine (pairs_docOf _ _).bind fun doc doc' _ => ?_
  refine (pairs_publish (by rfl)).next fun _ => ?_
  refine (pairs_debug _ _ _ _).next fun _ => ?_
  refine (pairs_childrenOf _ _).next fun children => ?_
  exact pairs_forM _ fun child _ => pairs_buildConstant _ _ _ _ _

section

variable {declare : Declare} (agrees : declare.Agrees)
include agrees

theorem pairs_buildMembers (selection other : Selection) (record : String) (index : Nat)
    (fields : List Nat) :
    Pairs SameMembers (buildMembers declare selection record index fields)
      (buildMembers declare other record index fields) := by
  induction fields generalizing index with
  | nil => exact pairs_pure rfl
  | cons number rest induction =>
      refine (pairs_cursor number).next fun c => ?_
      split
      · exact pairs_pure trivial
      refine (pairs_resolve agrees c.type).next fun type => ?_
      refine pairs_getStore.bind fun store store' stores => ?_
      rw [memberProblem?_of_bare stores]
      split
      · exact pairs_pure trivial
      refine (pairs_buildMember selection other record index c type).bind
        fun member member' alike => ?_
      refine (induction (index + 1)).bind fun members members' rest => ?_
      cases members with
      | error _ =>
          cases members' with
          | error _ => exact pairs_pure trivial
          | ok _ => exact rest.elim
      | ok members =>
          cases members' with
          | error _ => exact rest.elim
          | ok members' =>
              refine pairs_pure ?_
              have rest : members.map Member.bare = members'.map Member.bare := rest
              simp [SameMembers, alike, rest]

theorem pairs_completeTypedef (usr : String) (native : NativeType) :
    Pairs Eq (completeTypedef declare usr native) (completeTypedef declare usr native) :=
  (pairs_resolve agrees native).next fun type =>
    pairs_amend (fun _ => .typedef (some type)) (fun _ => rfl) fun _ => rfl

theorem pairs_buildTypedef (number : Nat) :
    Pairs Eq (buildTypedef declare number) (buildTypedef declare number) := by
  refine (pairs_cursor number).next fun c => ?_
  refine pairs_getPolicy.bind fun policy policy' policies => ?_
  refine (pairs_renamed _ _).bind fun name name' _ => ?_
  refine (pairs_docOf c c).bind fun doc doc' _ => ?_
  refine (pairs_publish (by rfl)).next fun _ => ?_
  refine (pairs_debug _ _ _ _).next fun _ => ?_
  refine pairs_read.next fun forest => ?_
  dsimp only
  split
  · exact (pairs_nameByTypedef _ _).next fun _ => pairs_completeTypedef agrees _ _
  · exact pairs_completeTypedef agrees _ _

theorem pairs_layRecord (selection other : Selection) (record usr : String) (fields : List Nat)
    (logged : String → String) :
    Pairs Eq (layRecord declare selection record usr fields logged)
      (layRecord declare other record usr fields logged) := by
  refine (pairs_buildMembers agrees _ _ _ _ _).bind fun members members' same => ?_
  cases members with
  | ok members =>
      cases members' with
      | error _ => exact same.elim
      | ok members' =>
          have same : members.map Member.bare = members'.map Member.bare := same
          exact pairs_amend _ (bare_setMembers members) fun body =>
            same ▸ bare_setMembers members' body
  | error problem =>
      cases members' with
      | ok _ => exact same.elim
      | error problem' =>
          refine (pairs_debug _ _ _ _).next fun _ => ?_
          refine pairs_getStore.bind fun store store' stores => ?_
          rw [size_of_bare stores]
          exact pairs_makeOpaque _ _ _ _

theorem pairs_buildRecord (number : Nat) :
    Pairs Eq (buildRecord declare number) (buildRecord declare number) := by
  refine (pairs_cursor number).next fun c => ?_
  dsimp only
  generalize (if (c.definition.isNone && c.isDefinition) = true then some number
    else c.definition) = definition
  refine (pairs_nameOf c).next fun nativeName => ?_
  refine pairs_getPolicy.bind fun policy policy' policies => ?_
  refine (pairs_renameUnlessEmpty _ _ _).bind fun name name' _ => ?_
  refine (pairs_cursor _).next fun documented => ?_
  refine (pairs_docOf _ _).bind fun doc doc' _ => ?_
  refine (pairs_publish (by rfl)).next fun _ => ?_
  cases definition with
  | none => exact pairs_debug _ _ _ _
  | some defined =>
      refine (pairs_debug _ _ _ _).next fun _ => ?_
      refine pairs_getPolicy.bind fun policy policy' policies => ?_
      refine (pairs_cursor defined).next fun record => ?_
      refine (pairs_childrenOf _ _).next fun fields => ?_
      exact pairs_layRecord agrees _ _ _ _ _ _

/-! Interfaces. -/

theorem pairs_resolveParameter (frameNumber : Nat) (c : Cursor) :
    Pairs Eq (resolveParameter declare frameNumber c) (resolveParameter declare frameNumber c) := by
  refine (pairs_resolve agrees c.type).next fun type => ?_
  refine pairs_getStore.bind fun store store' stores => ?_
  rw [isIncomplete_of_bare stores, isUnsupported_of_bare stores]
  split
  · exact (pairs_changeFrame _ _).next fun _ => pairs_pure rfl
  split
  · exact (pairs_changeFrame _ _).next fun _ => pairs_pure rfl
  · exact pairs_pure rfl

/-- The same parameters apart from their names. -/
abbrev SameParameters (params others : List Parameter) : Prop :=
  params.map Parameter.bare = others.map Parameter.bare

omit agrees in
theorem pairs_collectParameter {selection other : Selection} {owner spelling : String}
    {index : Nat} {type : CType} {collect collect' : Step (List Parameter)}
    (collects : Pairs SameParameters collect collect') :
    Pairs SameParameters (collectParameter selection owner spelling index type collect)
      (collectParameter other owner spelling index type collect') := by
  refine (pairs_parameterName _ _ _ _ _).bind fun name name' _ => ?_
  refine collects.bind fun others others' same => pairs_pure ?_
  simp [SameParameters, Parameter.bare, same]

theorem pairs_methodParameters (frameNumber : Nat) (owner : String) (index : Nat)
    (arguments : List Nat) :
    Pairs SameParameters (methodParameters declare frameNumber owner index arguments)
      (methodParameters declare frameNumber owner index arguments) := by
  induction arguments generalizing index with
  | nil => exact pairs_pure rfl
  | cons number rest induction =>
      refine (pairs_cursor number).next fun c => ?_
      refine (pairs_resolveParameter agrees frameNumber c).next fun type => ?_
      exact pairs_getPolicy.bind fun _ _ _ => pairs_collectParameter (induction (index + 1))

theorem pairs_buildMethod (owner : String) (number : Nat) :
    Pairs (fun method again => method.map Method.bare = again.map Method.bare)
      (buildMethod declare owner number) (buildMethod declare owner number) := by
  refine (pairs_cursor number).next fun c => pairs_withFrame fun frameNumber => ?_
  refine (pairs_resolve agrees c.result).next fun result => ?_
  refine (pairs_methodParameters agrees frameNumber owner 0 c.arguments).bind
    fun params params' same => ?_
  refine (pairs_frame frameNumber).next fun found => ?_
  refine pairs_getStore.bind fun store store' stores => ?_
  rw [isIncomplete_of_bare stores, isUnsupported_of_bare stores]
  split
  · exact (pairs_diagnose _ _ _ _ _).next fun _ => pairs_pure rfl
  split
  · exact (pairs_diagnose _ _ _ _ _).next fun _ => pairs_pure rfl
  refine pairs_getPolicy.bind fun policy policy' policies => ?_
  refine (pairs_renamed _ _).bind fun name name' _ => ?_
  refine (pairs_docOf c c).bind fun doc doc' _ => pairs_pure ?_
  simp [Method.bare, same]

theorem pairs_buildInterfacePart (usr owner : String) (child : Nat) :
    Pairs Eq (buildInterfacePart declare usr owner child)
      (buildInterfacePart declare usr owner child) := by
  have superclass (parent : String) (body : Body) :
      (setSuperclass parent body).bare = setSuperclass parent body.bare := by
    cases body <;> rfl
  have method (method : Method) (body : Body) :
      (addMethod method body).bare = addMethod method.bare body.bare := by
    cases body <;> simp [addMethod, Body.bare]
  refine (pairs_cursor child).next fun c => ?_
  split
  · exact (agrees _ _).next fun parent => pairs_amend _ (superclass parent) (superclass parent)
  · exact pairs_pure rfl
  split
  · refine (pairs_buildMethod agrees owner child).bind fun built again same => ?_
    cases built with
    | none =>
        obtain rfl : again = none := by simpa using same.symm
        exact pairs_pure rfl
    | some built =>
        obtain ⟨again, rfl, alike⟩ := Option.map_eq_some_iff.mp same.symm
        exact pairs_amend _ (method built) fun body => alike ▸ method again body
  · exact pairs_pure rfl

theorem pairs_buildInterface (number : Nat) :
    Pairs Eq (buildInterface declare number) (buildInterface declare number) := by
  refine (pairs_cursor number).next fun c => ?_
  refine pairs_getPolicy.bind fun policy policy' policies => ?_
  refine (pairs_renamed _ _).bind fun name name' _ => ?_
  refine (pairs_cursor _).next fun documented => ?_
  refine (pairs_docOf _ _).bind fun doc doc' _ => ?_
  refine (pairs_publish (by rfl)).next fun _ => ?_
  split
  · exact pairs_debug _ _ _ _
  · refine (pairs_debug _ _ _ _).next fun _ => ?_
    refine (pairs_cursor _).next fun interface => ?_
    exact pairs_forM _ fun child _ => pairs_buildInterfacePart agrees _ _ child

theorem pairs_build (form : Form) (number : Nat) :
    Pairs Eq (build declare form number) (build declare form number) := by
  cases form with
  | typedef => exact pairs_buildTypedef agrees number
  | record => exact pairs_buildRecord agrees number
  | enumeration => exact pairs_buildEnumeration number
  | interface => exact pairs_buildInterface agrees number

end

/-! All together. -/

theorem agrees_declareWithin (fuel : Nat) : Declare.Agrees (declareWithin fuel) := by
  induction fuel with
  | zero => exact fun form number => pairs_throw
  | succ fuel induction =>
      intro form number
      refine (pairs_cursor number).next fun c => ?_
      refine pairs_getStore.bind fun store store' stores => ?_
      rw [contains_of_bare stores]
      split
      · exact pairs_pure rfl
      · refine (pairs_withFrame fun _ => pairs_build induction form number).next fun _ => ?_
        exact pairs_pure rfl

theorem agrees_declare : Declare.Agrees declare := fun form number =>
  pairs_read.next fun forest => agrees_declareWithin (forest.size + 2) form number

end LuaBinder.Session
