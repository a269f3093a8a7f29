import LuaBinder.Proofs.CType.Shapes

namespace LuaBinder

open Grammar

/-! Types that differ in their constant levels only, and when they are declared alike. -/

mutual

/-- The types are the same but for the levels that are constant. -/
def CType.SameShape : CType → CType → Prop
  | .pointer target _, .pointer other _ => target.SameShape other
  | .array element length, .array other otherLength =>
      length = otherLength ∧ element.SameShape other
  | .function result params variadic, .function other others otherVariadic =>
      variadic = otherVariadic ∧ params.SameShape others ∧ result.SameShape other
  | .primitive primitive, .primitive other => primitive = other
  | .compound key, .compound other => key = other
  | .typedef key, .typedef other => key = other
  | .unsupported reason, .unsupported other => reason = other
  | _, _ => False

def Params.SameShape : Params → Params → Prop
  | .nil, .nil => True
  | .cons _ type rest, .cons _ other others => type.SameShape other ∧ rest.SameShape others
  | _, _ => False

end

/-- How often `const` is written in front of a declaration. -/
def CType.marks : CType → Nat
  | .pointer target const => target.marks + if const && !target.isSuffixed then 1 else 0
  | .array element _ => element.marks
  | .function result _ _ => result.marks
  | _ => 0

mutual

/-- How often it is written in front of each parameter in the declaration. -/
def CType.innerMarks : CType → List Nat
  | .pointer target _ => target.innerMarks
  | .array element _ => element.innerMarks
  | .function result params _ => params.allMarks ++ result.innerMarks
  | _ => []

def Params.allMarks : Params → List Nat
  | .nil => []
  | .cons _ type rest => type.marks :: (type.innerMarks ++ rest.allMarks)

end

def CType.allMarks (type : CType) : List Nat := type.marks :: type.innerMarks

theorem CType.SameShape.isSuffixed_eq {type other : CType} (same : type.SameShape other) :
    type.isSuffixed = other.isSuffixed := by
  cases type <;> cases other <;> first | rfl | exact same.elim

mutual

theorem length_innerMarks : (type other : CType) → type.SameShape other →
    type.innerMarks.length = other.innerMarks.length
  | .pointer target _, .pointer other _, same => length_innerMarks target other same
  | .array element _, .array other _, same => length_innerMarks element other same.2
  | .function result params _, .function other others _, same => by
      rw [CType.innerMarks, CType.innerMarks, List.length_append, List.length_append,
        length_allMarks params others same.2.1, length_innerMarks result other same.2.2]
  | .primitive _, .primitive _, _ | .compound _, .compound _, _ | .typedef _, .typedef _, _
  | .unsupported _, .unsupported _, _ => rfl

theorem length_allMarks : (params others : Params) → params.SameShape others →
    params.allMarks.length = others.allMarks.length
  | .nil, .nil, _ => rfl
  | .cons _ type rest, .cons _ other others, same => by
      rw [Params.allMarks, Params.allMarks, List.length_cons, List.length_cons,
        List.length_append, List.length_append, length_innerMarks type other same.1,
        length_allMarks rest others same.2]

end

/-! As many marks on each chain make one text. -/

/-- A text with `const` in front of it, so many times. -/
def marked : Nat → String → String
  | 0, text => text
  | count + 1, text => marked count ("const " ++ text)

theorem marked_declare_pointer (spelling : Spelling) (target : CType) (const : Bool) (m : Nat)
    (name : String) : marked m ((CType.pointer target const).declare spelling name) =
      marked (m + if const && !target.isSuffixed then 1 else 0) (target.declare spelling
        (if target.isSuffixed then "(*" ++ name ++ ")" else "*" ++ name)) := by
  cases suffixed : target.isSuffixed with
  | true => simp [CType.declare_pointer_of_isSuffixed _ suffixed]
  | false =>
      rw [CType.declare_pointer _ suffixed]
      cases const <;> simp [marked]

mutual

/-- The texts are compared behind `m` and `n` marks of pointers further out. -/
theorem declare_of_marks (spelling : Spelling) : (type other : CType) → type.SameShape other →
    type.innerMarks = other.innerMarks → {m n : Nat} → m + type.marks = n + other.marks →
    (name : String) →
    marked m (type.declare spelling name) = marked n (other.declare spelling name)
  | .pointer target const, .pointer other otherConst, same, inner, m, n, own, name => by
      have suffixed : target.isSuffixed = other.isSuffixed := CType.SameShape.isSuffixed_eq same
      rw [marked_declare_pointer, marked_declare_pointer, suffixed]
      refine declare_of_marks spelling target other same inner ?_ _
      rw [CType.marks, CType.marks, suffixed] at own
      omega
  | .array element length, .array other otherLength, same, inner, m, n, own, name => by
      obtain ⟨rfl, same⟩ := same
      rw [CType.declare_array, CType.declare_array]
      exact declare_of_marks spelling element other same inner own _
  | .function result params variadic, .function other others otherVariadic, same, inner, m, n, own,
      name => by
      obtain ⟨rfl, listed, same⟩ := same
      obtain ⟨all, rest⟩ := List.append_inj inner (length_allMarks params others listed)
      rw [CType.declare, CType.declare, declareAll_of_marks spelling params others listed all]
      exact declare_of_marks spelling result other same rest own _
  | .primitive _, .primitive _, rfl, _, _, _, rfl, _ => rfl
  | .compound _, .compound _, rfl, _, _, _, rfl, _ => rfl
  | .typedef _, .typedef _, rfl, _, _, _, rfl, _ => rfl
  | .unsupported _, .unsupported _, rfl, _, _, _, rfl, _ => rfl

theorem declareAll_of_marks (spelling : Spelling) : (params others : Params) →
    params.SameShape others → params.allMarks = others.allMarks →
    params.declareAll spelling = others.declareAll spelling
  | .nil, .nil, _, _ => rfl
  | .cons _ type rest, .cons _ other others, same, all => by
      obtain ⟨own, all⟩ := List.cons.inj all
      obtain ⟨inner, all⟩ := List.append_inj all (length_innerMarks type other same.1)
      have first := declare_of_marks spelling type other same.1 inner (congrArg (0 + ·) own) ""
      rw [Params.declareAll, Params.declareAll, declareAll_of_marks spelling rest others same.2 all]
      exact congrArg (· :: _) first

end

/-! The marks can be counted in the text. -/

namespace Grammar

variable {types : String → Bool}

theorem tokens_nameThen_empty (type name : String) :
    tokens (nameThen type name) = tokens (nameThen type "") ++ tokens name := by
  rw [tokens_nameThen, tokens_nameThen, tokens_empty, List.append_nil]

theorem exists_word_of_valid {base : Base} (valid : base.Valid types) {spelled : String}
    (spelling : tokens spelled = base.words.map .word) :
    ∃ word rest, tokens (nameThen spelled "") = .word word :: rest ∧ word ≠ "const" := by
  have first : ∃ word rest, base.words = word :: rest ∧ word ≠ "const" := by
    cases base with
    | basic words =>
        obtain ⟨given, basic, -⟩ := valid
        obtain ⟨word, words, rfl⟩ := List.exists_cons_of_ne_nil given
        refine ⟨word, words, rfl, ?_⟩
        rintro rfl
        exact absurd (basic _ List.mem_cons_self) (by decide)
    | tagged keyword tag =>
        refine ⟨keyword, [tag], rfl, ?_⟩
        rintro rfl
        exact absurd valid.1 (by decide)
    | named name => exact ⟨name, [], rfl, (not_mem_of_isIdentifier valid.1).1⟩
  obtain ⟨word, rest, written, other⟩ := first
  refine ⟨word, rest.map .word, ?_, other⟩
  rw [tokens_nameThen, spelling, written, tokens_empty, List.append_nil]
  rfl

theorem replicate_append_inj {word mark : Token} (other : word ≠ mark) {front back : List Token}
    {m n : Nat} (texts : List.replicate m mark ++ word :: front =
      List.replicate n mark ++ word :: back) : m = n ∧ front = back := by
  induction m generalizing n with
  | zero =>
      cases n with
      | zero => exact ⟨rfl, (List.cons.inj texts).2⟩
      | succ n => exact absurd (List.cons.inj texts).1 other
  | succ m induction =>
      cases n with
      | zero => exact absurd (List.cons.inj texts).1.symm other
      | succ n =>
          obtain ⟨same, rest⟩ := induction (List.cons.inj texts).2
          exact ⟨congrArg Nat.succ same, rest⟩

/-- What stands behind the first parameter, up to the parenthesis. -/
def continued (rest : List (List Token)) (variadic : Bool) : List Token :=
  if rest = [] ∧ variadic = false then [] else .mark ',' :: joined rest variadic

theorem joined_eq_continued (first : List Token) (rest : List (List Token)) (variadic : Bool) :
    joined (first :: rest) variadic = first ++ continued rest variadic := by
  obtain ⟨single, fixed, text⟩ | ⟨more, text⟩ := joined_cons first rest variadic
  · rw [text, continued, if_pos ⟨single, fixed⟩, List.append_nil]
  · have other : ¬(rest = [] ∧ variadic = false) := by
      rintro ⟨rfl, rfl⟩
      simp at more
    rw [text, continued, if_neg other]

end Grammar

namespace Store

variable (store : Store)

/-- What stands between the marks and the name. -/
def before : CType → List Token
  | .pointer target _ =>
      before target ++ if target.isSuffixed then [.mark '(', .mark '*'] else [.mark '*']
  | .array element _ => before element
  | .function result _ _ => before result
  | type => tokens (type.declare store.spelling "")

/-- What stands behind the name. -/
def behind : CType → List Token
  | .pointer target _ => (if target.isSuffixed then [.mark ')'] else []) ++ behind target
  | .array element length =>
      .mark '[' :: (tokens (lengthText length) ++ .mark ']' :: behind element)
  | .function result params variadic =>
      .mark '(' :: (tokens (parameterList (params.declareAll store.spelling) variadic) ++
        .mark ')' :: behind result)
  | _ => []

theorem tokens_declare : (type : CType) → (name : String) →
    tokens (type.declare store.spelling name) =
      List.replicate type.marks (.word "const") ++
        (store.before type ++ tokens name ++ store.behind type)
  | .primitive _, name | .compound _, name | .typedef _, name | .unsupported _, name => by
      simp [CType.declare, CType.marks, before, behind, tokens_nameThen_empty _ name]
  | .array element length, name => by
      rw [CType.declare_array, tokens_declare element, tokens_array]
      simp [CType.marks, before, behind]
  | .function result params variadic, name => by
      rw [CType.declare, tokens_declare result, tokens_function]
      simp [CType.marks, before, behind]
  | .pointer target const, name => by
      cases suffixed : target.isSuffixed with
      | true =>
          rw [CType.declare_pointer_of_isSuffixed _ suffixed, tokens_declare target,
            tokens_parenthesized]
          simp [CType.marks, before, behind, suffixed]
      | false =>
          rw [CType.declare_pointer _ suffixed]
          have own := tokens_declare target ("*" ++ name)
          rw [tokens_star] at own
          cases const with
          | false => simp [CType.marks, before, behind, suffixed, own]
          | true =>
              rw [if_pos rfl, tokens_const, own]
              simp [CType.marks, before, behind, suffixed, List.replicate_succ]

theorem before_eq : (type other : CType) → type.SameShape other →
    store.before type = store.before other
  | .pointer target _, .pointer other _, same => by
      have suffixed : target.isSuffixed = other.isSuffixed := CType.SameShape.isSuffixed_eq same
      rw [before, before, before_eq target other same, suffixed]
  | .array element _, .array other _, same => before_eq element other same.2
  | .function result _ _, .function other _ _, same => before_eq result other same.2.2
  | .primitive _, .primitive _, rfl | .compound _, .compound _, rfl
  | .typedef _, .typedef _, rfl | .unsupported _, .unsupported _, rfl => rfl

variable {types : String → Bool}

theorem before_eq_cons : (type : CType) → store.Named types type →
    ∃ word rest, store.before type = .word word :: rest ∧ word ≠ "const"
  | .primitive primitive, named => by
      rw [before, CType.declare]
      · exact exists_word_of_valid (valid_primitive types named) primitive.tokens_spelling
      all_goals nofun
  | .compound key, named => by
      obtain ⟨valid, spelled⟩ := store.compound_spelled types named
      rw [before, CType.declare]
      · exact exists_word_of_valid valid spelled
      all_goals nofun
  | .typedef key, named => by
      obtain ⟨valid, spelled⟩ := store.typedef_spelled types named
      rw [before, CType.declare]
      · exact exists_word_of_valid valid spelled
      all_goals nofun
  | .array element _, named => before_eq_cons element named
  | .function result _ _, named => before_eq_cons result named.1
  | .pointer target _, named => by
      obtain ⟨word, rest, written, other⟩ := before_eq_cons target named
      exact ⟨word, _, by rw [before, written, List.cons_append], other⟩
  | .unsupported _, named => named.elim

theorem marks_of_tokens {type other : CType} (named : store.Named types type)
    (same : type.SameShape other) {name : String} {rest further : List Token}
    (texts : tokens (type.declare store.spelling name) ++ rest =
      tokens (other.declare store.spelling name) ++ further) :
    type.marks = other.marks ∧ store.behind type ++ rest = store.behind other ++ further := by
  obtain ⟨word, front, written, distinct⟩ := store.before_eq_cons type named
  have first : Token.word word ≠ .word "const" := fun same => distinct (Token.word.inj same)
  rw [tokens_declare, tokens_declare, ← store.before_eq type other same, written] at texts
  simp only [List.append_assoc, List.cons_append] at texts
  obtain ⟨own, texts⟩ := replicate_append_inj first texts
  exact ⟨own, List.append_cancel_left (List.append_cancel_left texts)⟩

theorem joined_of_parameterList {params others : Params} (named : store.NamedAll types params)
    (same : params.SameShape others) {variadic : Bool} {rest further : List Token}
    (texts : tokens (parameterList (params.declareAll store.spelling) variadic) ++ rest =
      tokens (parameterList (others.declareAll store.spelling) variadic) ++ further) :
    joined ((params.declareAll store.spelling).map tokens) variadic ++ rest =
      joined ((others.declareAll store.spelling).map tokens) variadic ++ further := by
  cases params with
  | nil =>
      cases others with
      | nil => rw [List.append_cancel_left texts]
      | cons otherName other others => exact same.elim
  | cons name type params =>
      cases others with
      | nil => exact same.elim
      | cons otherName other others =>
          obtain ⟨word, front, written, -⟩ := store.before_eq_cons type named.1
          have given {own : CType} (before : store.before own = .word word :: front) :
              tokens (own.declare store.spelling "") ≠ [] := by
            rw [tokens_declare, before]
            simp
          have alike := store.before_eq type other same.1
          rwa [Params.declareAll, Params.declareAll, tokens_parameterList _ _ (given written),
            tokens_parameterList _ _ (given (alike ▸ written))] at texts

/-- What stands behind the name tells the marks that are in it, and where it ends. -/
def Counted (type other : CType) : Prop :=
  ∀ rest further, store.behind type ++ rest = store.behind other ++ further →
    type.innerMarks = other.innerMarks ∧ rest = further

def CountedAll (params others : Params) (variadic : Bool) : Prop :=
  ∀ rest further,
    joined ((params.declareAll store.spelling).map tokens) variadic ++ .mark ')' :: rest =
      joined ((others.declareAll store.spelling).map tokens) variadic ++ .mark ')' :: further →
    params.allMarks = others.allMarks ∧ rest = further

theorem counted_pointer {target other : CType} {const otherConst : Bool}
    (same : target.SameShape other) (counted : store.Counted target other) :
    store.Counted (.pointer target const) (.pointer other otherConst) := by
  intro rest further texts
  rw [behind, behind, same.isSuffixed_eq, List.append_assoc, List.append_assoc] at texts
  exact counted rest further (List.append_cancel_left texts)

theorem counted_array {element other : CType} {length : Option Int}
    (counted : store.Counted element other) :
    store.Counted (.array element length) (.array other length) := by
  intro rest further texts
  simp only [behind, List.cons_append, List.append_assoc, List.cons.injEq, true_and,
    List.append_cancel_left_eq] at texts
  exact counted rest further texts

theorem counted_function {result other : CType} {params others : Params} {variadic : Bool}
    (named : store.NamedAll types params) (same : params.SameShape others)
    (listed : store.CountedAll params others variadic) (counted : store.Counted result other) :
    store.Counted (.function result params variadic) (.function other others variadic) := by
  intro rest further texts
  simp only [behind, List.cons_append, List.append_assoc, List.cons.injEq, true_and] at texts
  obtain ⟨all, texts⟩ := listed _ _ (store.joined_of_parameterList named same texts)
  obtain ⟨inner, finished⟩ := counted rest further texts
  exact ⟨by rw [CType.innerMarks, CType.innerMarks, all, inner], finished⟩

theorem countedAll_cons {type other : CType} {params others : Params} {variadic : Bool}
    (named : store.Named types type) (same : type.SameShape other)
    (shapes : params.SameShape others) (counted : store.Counted type other)
    (listed : store.CountedAll params others variadic) (name otherName : String) :
    store.CountedAll (.cons name type params) (.cons otherName other others) variadic := by
  intro rest further texts
  rw [Params.declareAll, Params.declareAll, List.map_cons, List.map_cons, joined_eq_continued,
    joined_eq_continued, List.append_assoc, List.append_assoc] at texts
  obtain ⟨own, texts⟩ := store.marks_of_tokens named same texts
  obtain ⟨inner, texts⟩ := counted _ _ texts
  suffices params.allMarks = others.allMarks ∧ rest = further by
    rw [Params.allMarks, Params.allMarks, own, inner, this.1]
    exact ⟨rfl, this.2⟩
  cases params with
  | nil =>
      cases others with
      | nil => exact ⟨rfl, (List.cons.inj (List.append_cancel_left texts)).2⟩
      | cons otherName other others => exact shapes.elim
  | cons name type params =>
      cases others with
      | nil => exact shapes.elim
      | cons otherName other others =>
          rw [continued, continued, if_neg (fun none => List.cons_ne_nil _ _ none.1),
            if_neg (fun none => List.cons_ne_nil _ _ none.1)] at texts
          exact listed rest further (List.cons.inj texts).2

mutual

theorem counted : (type other : CType) → type.SameShape other → store.Named types type →
    store.Counted type other
  | .pointer target _, .pointer other _, same, named =>
      store.counted_pointer same (counted target other same named)
  | .array element _, .array other _, same, named => by
      obtain ⟨rfl, same⟩ := same
      exact store.counted_array (counted element other same named)
  | .function result params variadic, .function other others _, same, named => by
      obtain ⟨rfl, listed, same⟩ := same
      exact store.counted_function named.2 listed (countedAll params others listed named.2 variadic)
        (counted result other same named.1)
  | .primitive _, .primitive _, _, _ | .compound _, .compound _, _, _
  | .typedef _, .typedef _, _, _ | .unsupported _, .unsupported _, _, _ => fun _ _ texts =>
      ⟨rfl, texts⟩

theorem countedAll : (params others : Params) → params.SameShape others →
    store.NamedAll types params → (variadic : Bool) → store.CountedAll params others variadic
  | .nil, .nil, _, _, _ => fun _ _ texts =>
      ⟨rfl, (List.cons.inj (List.append_cancel_left texts)).2⟩
  | .cons name type params, .cons otherName other others, same, named, variadic =>
      store.countedAll_cons named.1 same.1 same.2 (counted type other same.1 named.1)
        (countedAll params others same.2 named.2 variadic) name otherName

end

/-- Types that differ in their constant levels only are declared alike exactly if each chain of
pointers, arrays and results in them has as many constant levels. -/
theorem declare_eq_iff {type other : CType} (named : store.Named types type)
    (same : type.SameShape other) (name : String) :
    store.declare other name = store.declare type name ↔ other.allMarks = type.allMarks := by
  constructor
  · intro alike
    have texts : tokens (type.declare store.spelling name) ++ [] =
        tokens (other.declare store.spelling name) ++ [] := congrArg (tokens · ++ []) alike.symm
    obtain ⟨own, texts⟩ := store.marks_of_tokens named same texts
    obtain ⟨inner, -⟩ := store.counted type other same named _ _ texts
    rw [CType.allMarks, CType.allMarks, own, inner]
  · intro marks
    obtain ⟨own, inner⟩ := List.cons.inj marks
    exact (declare_of_marks store.spelling type other same inner.symm
      (congrArg (0 + ·) own.symm) name).symm

end Store

end LuaBinder
