import LuaBinder.Proofs.Session.Layouts.Worsening

namespace LuaBinder

open Header Session

/-! Every record takes after one declaration of its USR, the one that it has been built from.
What others of that USR define comes too late. -/

/-- The declaration has the USR. It is within reach, or something with another USR is that
leads to it. -/
structure Header.Forest.Origin (forest : Forest) (reach : Nat → Prop) (key : String)
    (author : Nat) : Prop where
  usr : (forest.cursor author).usr = key
  reached : reach author ∨
    ∃ source, reach source ∧ (forest.cursor source).usr ≠ key ∧ forest.Leads source author

namespace Store

variable {forest : Forest} {policy : Policy} {reach : Nat → Prop}
  {store middle grown later view : Store} {d : Declaration} {key : String}
  {author number : Nat} {kind : RecordKind} {incomplete : Bool} {members : List Member}

/-- A record has the members that its author defines, or none because they are not supported. -/
structure Authored (forest : Forest) (store : Store) (author : Nat) (incomplete : Bool)
    (members : List Member) : Prop where
  formed : formOf? (forest.cursor author).kind = some .record
  laid : incomplete = false → ∃ view : Store, view.Worsens store ∧ forest.Lays author view members
  hidden : incomplete = true →
    members = [] ∧ ∀ types, ¬ (forest.report author).Supports store types

namespace Authored

theorem of_lays (laid : forest.Lays author view members) (worsens : view.Worsens store) :
    store.Authored forest author false members where
  formed := laid.formed
  laid := fun _ => ⟨view, worsens, laid⟩
  hidden := by simp

theorem of_hides (hides : forest.Hides author view) (worsens : view.Worsens store) :
    store.Authored forest author true [] where
  formed := hides.formed
  laid := by simp
  hidden := fun _ => ⟨rfl, worsens.unsupported (by simp [Report.Supports, hides.unlaid])⟩

theorem worsens (authored : store.Authored forest author incomplete members)
    (worsens : store.Worsens later) : later.Authored forest author incomplete members where
  formed := authored.formed
  laid := by
    intro complete
    obtain ⟨view, earlier, laid⟩ := authored.laid complete
    exact ⟨view, earlier.trans worsens, laid⟩
  hidden := by
    intro hidden
    obtain ⟨empty, unsupported⟩ := authored.hidden hidden
    exact ⟨empty, worsens.unsupported unsupported⟩

/-- Once a compound is lost, the members that hold it are not supported. -/
theorem lose {m : Member} (authored : store.Authored forest author false members)
    (worsens : store.Worsens later) (listed : m ∈ members)
    (held : store.held? m.type = some key)
    (lost : later.isIncomplete (.compound key) = true) :
    later.Authored forest author true [] where
  formed := authored.formed
  laid := by simp
  hidden := by
    refine fun _ => ⟨rfl, fun types supports => ?_⟩
    obtain ⟨view, earlier, laid⟩ := authored.laid rfl
    obtain ⟨own, ⟨same, -⟩, alike⟩ := (earlier.trans worsens).supports supports
    obtain rfl := Option.some.inj (same.symm.trans laid.types)
    obtain ⟨type, given, alike⟩ := exists_of_forall₂ alike (List.mem_map_of_mem listed)
    exact supports.2 type given (lost_of_alike alike (.inr ⟨key, worsens.held? held, lost⟩))

end Authored

/-- Whatever records are new have authors. -/
def Authors (forest : Forest) (reach : Nat → Prop) (store grown : Store) : Prop :=
  ∀ key kind incomplete members, grown.body? key = some (.record kind incomplete members) →
    key ∉ store.keys →
    ∃ author, forest.Origin reach key author ∧ grown.Authored forest author incomplete members

namespace Authors

theorem refl : Authors forest reach store store :=
  fun _ _ _ _ found absent => absurd (mem_keys_of_body? found) absent

theorem trans (first : Authors forest reach store middle) (grows : middle.Grows grown)
    (second : Authors forest reach middle grown) : Authors forest reach store grown := by
  intro key kind incomplete members found absent
  by_cases earlier : key ∈ middle.keys
  · rw [grows.body? earlier] at found
    obtain ⟨author, origin, authored⟩ := first key kind incomplete members found absent
    exact ⟨author, origin, authored.worsens (.of_grows grows)⟩
  · exact second key kind incomplete members found earlier

/-- Only the declaration itself is of its own making. -/
theorem push (fresh : d.usr ∉ store.keys)
    (own : ∀ kind incomplete members, d.body = .record kind incomplete members →
      ∃ author, forest.Origin reach d.usr author ∧
        (store.push d).Authored forest author incomplete members) :
    Authors forest reach store (store.push d) := by
  intro key kind incomplete members found absent
  rw [body?_push fresh] at found
  split at found
  · rename_i same
    exact same ▸ own kind incomplete members (Option.some.inj found)
  · exact absurd (mem_keys_of_body? found) absent

/-- What else is built inside the build of a declaration has an author that this one leads
to. -/
theorem inside (inner : Authors forest (forest.Leads number) (store.push d) grown)
    (reached : reach number) (usr : d.usr = (forest.cursor number).usr) (absent : key ∉ store.keys)
    (differs : key ≠ d.usr)
    (found : grown.body? key = some (.record kind incomplete members)) :
    ∃ author, forest.Origin reach key author ∧
      grown.Authored forest author incomplete members := by
  obtain ⟨author, origin, authored⟩ := inner key kind incomplete members found
    (by simp [absent, differs])
  refine ⟨author, ⟨origin.usr, .inr ⟨number, reached, usr ▸ differs.symm, ?_⟩⟩, authored⟩
  rcases origin.reached with leads | ⟨source, leads, -, onward⟩
  · exact leads
  · exact leads.trans onward

end Authors

/-- The new body of a record has the author of the old one. -/
def Inherits (forest : Forest) (grown later : Store) (body after : Body) : Prop :=
  ∀ kind incomplete members, after = .record kind incomplete members →
    ∃ earlier old, body = .record kind earlier old ∧
      ∀ author, grown.Authored forest author earlier old →
        later.Authored forest author incomplete members

theorem Inherits.same {body : Body} (worsens : grown.Worsens later) :
    Inherits forest grown later body body :=
  fun _ _ _ same => ⟨_, _, same, fun _ authored => authored.worsens worsens⟩

namespace Authors

variable {change : String → Body → Body}

theorem mapBodies (authors : Authors forest reach store grown)
    (inherits : ∀ key body, Inherits forest grown (grown.mapBodies change) body (change key body)) :
    Authors forest reach store (grown.mapBodies change) := by
  intro key kind incomplete members found absent
  rw [body?_mapBodies] at found
  obtain ⟨body, published, changed⟩ := Option.map_eq_some_iff.mp found
  obtain ⟨earlier, old, rfl, inherited⟩ := inherits key body kind incomplete members changed
  obtain ⟨author, origin, authored⟩ := authors key kind earlier old published absent
  exact ⟨author, origin, inherited author authored⟩

/-- A declaration is built, and then its own body and those of others are changed. -/
theorem finish (inner : Authors forest (forest.Leads number) (store.push d) grown)
    (reached : reach number) (usr : d.usr = (forest.cursor number).usr)
    (begun : grown.body? d.usr = some d.body)
    (own : ∀ kind incomplete members, change d.usr d.body = .record kind incomplete members →
      (grown.mapBodies change).Authored forest number incomplete members)
    (inherits : ∀ key ≠ d.usr, ∀ body, grown.body? key = some body →
      Inherits forest grown (grown.mapBodies change) body (change key body)) :
    Authors forest reach store (grown.mapBodies change) := by
  intro key kind incomplete members found absent
  rw [body?_mapBodies] at found
  obtain ⟨body, published, changed⟩ := Option.map_eq_some_iff.mp found
  by_cases same : key = d.usr
  · subst same
    obtain rfl := Option.some.inj (begun.symm.trans published)
    exact ⟨number, ⟨usr.symm, .inl reached⟩, own kind incomplete members changed⟩
  · obtain ⟨earlier, old, rfl, inherited⟩ :=
      inherits key same body published kind incomplete members changed
    obtain ⟨author, origin, authored⟩ := inner.inside reached usr absent same published
    exact ⟨author, origin, inherited author authored⟩

end Authors

theorem Clears.isIncomplete (clears : store.Clears key cleared)
    (complete : store.Complete key members)
    (holds : Relation.ReflTransGen store.Holds other key) :
    (store.clear cleared).isIncomplete (.compound other) = true := by
  obtain ⟨members, kind, found⟩ : ∃ members, store.Complete other members := by
    cases holds.cases_head with
    | inl same => exact ⟨members, same ▸ complete⟩
    | inr step =>
        obtain ⟨next, ⟨members, complete, -⟩, -⟩ := step
        exact ⟨members, complete⟩
  rw [isIncomplete_compound, body?_clear, if_pos (clears.mem holds), found]
  rfl

/-- A record that is cleared has held something that is lost with it. -/
theorem Clears.inherits {cleared : List String} (clears : grown.Clears key cleared)
    (complete : grown.Complete key members) {holder : String} (differs : holder ≠ key)
    (listed : holder ∈ cleared) (body : Body) (found : grown.body? holder = some body) :
    Inherits forest grown (grown.clear cleared) body (clearRecord body) := by
  intro kind incomplete after changed
  cases body with
  | record own earlier old =>
      cases changed
      refine ⟨earlier, old, rfl, fun author authored => ?_⟩
      cases earlier with
      | true =>
          obtain ⟨rfl, -⟩ := authored.hidden rfl
          exact authored.worsens .clear
      | false =>
          cases (clears.holding holder listed).cases_head with
          | inl same => exact absurd same differs
          | inr step =>
              obtain ⟨next, ⟨members, ⟨other, same⟩, m, member, held⟩, rest⟩ := step
              obtain ⟨-, -, rfl⟩ := Body.record.inj (Option.some.inj (found.symm.trans same))
              exact authored.lose .clear member held (clears.isIncomplete complete rest)
  | _ => cases changed

/-- What is built after a declaration leaves its body as it is. -/
theorem Builds.begun (inner : Builds forest reach (store.push d) grown) (closed : store.Closed)
    (fresh : d.usr ∉ store.keys) (silent : d.body.mentions = []) :
    (store.push d).Closed ∧ grown.body? d.usr = some d.body := by
  have pushed : (store.push d).Closed := closed.push fresh (by simp [silent])
  refine ⟨pushed, ?_⟩
  rw [(inner.grows pushed).body? (by simp), body?_push fresh, if_pos rfl]

theorem Builds.authors (built : Builds forest reach store grown) (closed : store.Closed) :
    Authors forest reach store grown := by
  induction built with
  | refl => exact .refl
  | trans first second before after =>
      have grows := first.grows closed
      exact (before closed).trans (second.grows grows.closed) (after grows.closed)
  | @blank reach store d number reached usr fresh blank hides =>
      refine .push fresh fun kind incomplete members body => ⟨number, ⟨usr.symm, .inl reached⟩, ?_⟩
      have grows : store.Grows (store.push d) :=
        .push closed fresh (by simp [blank.mentions_eq_nil])
      have hidden := hides (by simp [Declaration.isRecord, body])
      rw [body] at blank
      cases blank
      exact .of_hides hidden (.of_grows grows)
  | @elaborate reach store grown key change _ fresh elaborates _ authors =>
      refine (authors closed).mapBodies fun other body => ?_
      split
      · intro kind incomplete members changed
        have elaborated := elaborates body
        rw [changed] at elaborated
        cases elaborated
        exact ⟨incomplete, members, rfl, fun _ authored => authored.worsens (.elaborate elaborates)⟩
      · exact .same (.elaborate elaborates)
  | @typedef reach store grown d number type reached usr fresh body inner _ _ authors =>
      obtain ⟨pushed, begun⟩ := inner.begun closed fresh (by simp [body])
      have worsens : grown.Worsens (grown.amendBody d.usr fun _ => .typedef (some type)) :=
        .resolve (begun.trans (congrArg some body))
      refine (authors pushed).finish reached usr begun ?_ fun key differs _ _ => ?_
      · intro kind incomplete members changed
        rw [if_pos rfl] at changed
        cases changed
      · rw [if_neg differs]
        exact .same worsens
  | @record reach store grown d number kind members reached usr fresh body inner _ _ laid authors =>
      obtain ⟨pushed, begun⟩ := inner.begun closed fresh (by simp [body])
      refine (authors pushed).finish reached usr begun ?_ fun key differs _ _ => ?_
      · intro own incomplete listed changed
        rw [if_pos rfl, body] at changed
        cases changed
        exact .of_lays laid .setMembers
      · rw [if_neg differs]
        exact .same .setMembers
  | @opaque_ reach store grown d number kind cleared reached usr fresh body inner clears hides
      authors =>
      obtain ⟨pushed, begun⟩ := inner.begun closed fresh (by simp [body])
      refine (authors pushed).finish reached usr begun ?_ fun key differs inside found => ?_
      · intro own incomplete listed changed
        rw [if_pos clears.self, body] at changed
        cases changed
        exact .of_hides hides .clear
      · split
        · rename_i listed
          have complete : grown.Complete d.usr [] := ⟨kind, begun.trans (congrArg some body)⟩
          exact clears.inherits complete differs listed inside found
        · exact .same .clear

theorem Visits.authors (visits : Visits forest reach policy store grown)
    (closed : store.Closed) : Authors forest reach store grown := by
  induction visits with
  | trans first second before after =>
      have advances := first.advances closed
      have grows := (second.advances advances.closed).toGrows
      exact (before closed).trans grows (after advances.closed)
  | build built => exact built.authors closed
  | value _ fresh binding =>
      refine .push fresh fun kind incomplete members body => ?_
      have value := binding.value
      rw [body] at value
      cases value

end Store

end LuaBinder
