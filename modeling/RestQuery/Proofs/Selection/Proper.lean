import RestQuery.Proofs.Call.Selection
import RestQuery.Proofs.Selection.Shapes
import RestQuery.Proofs.Snapshot.Typed

/-!
# Proper queries

A selector is `Selector.Selected` if it was read from a value that is selectable; calls that select
such values give such selectors (`Call.selected_of_run`).  A query is `Query.Proper` if its
selectors and those of all queries inside it are, its columns are texts, and no query stands for
another text.  Whether a proper query can be written depends on its unreadable selectors alone.
-/

namespace RestQuery

/-! ## Selectors that are read -/

/-- Whether the column or the path of a selector is a text, and no query stands for a name or a
cast; an unreadable selector has neither. -/
def Selector.isProper : Selector → Bool
  | .wildcard => true
  | .column name => name.asText?.isSome
  | .modified base name cast => base.asText?.isSome && !name.isQuery && !cast.isQuery
  | .path p => p.asText?.isSome
  | .embedded _ name => !name.isQuery
  | .misembedded _ _ => false
  | .invalid _ => true
  | .unwritable _ => false

/-- Any value but a selector that is no proper one, and a modified item with a query for a name or
a cast. -/
structure Value.Selectable (v : Value) : Prop where
  selector : ∀ s, v = .selector s → s.isProper
  modifier : ∀ target entries, v.IsModified target entries →
    (member entries "name").isQuery = false ∧ (member entries "cast").isQuery = false

theorem Value.Selectable.of_none {v : Value} (other : ∀ s, v ≠ .selector s)
    (none : v.modifierPair? = none) : v.Selectable :=
  ⟨fun s same => absurd same (other s), fun target entries modified =>
    absurd modified (modifierPair?_eq_none.1 none target entries)⟩

theorem Value.Selectable.of_modified {v target : Value} {entries : List (Value × Value)}
    (modified : v.IsModified target entries) (named : (member entries "name").isQuery = false)
    (casted : (member entries "cast").isQuery = false) : v.Selectable := by
  refine ⟨fun s same => ?_, fun target' entries' modified' => ?_⟩
  · rcases modified.pair with run | run <;> cases same.symm.trans run
  · obtain ⟨rfl, rfl⟩ := modified.unique modified'
    exact ⟨named, casted⟩

/-- A selector that is read from a selectable value. -/
inductive Selector.Selected : Selector → Prop
  | read {given : Value} (selectable : given.Selectable) : Selected (Selector.read given)
  | readJson {given : Value} {s : Selector} (selectable : given.Selectable)
      (made : Selector.readJson given = .ok s) : Selected s

namespace Selector

theorem isProper_readText {given : Value} {s : String} (text : given.asText? = some s) :
    (readText given s).isProper := by
  have given : given.asText?.isSome := by rw [text]; rfl
  exact readText_cases (motive := fun s => s.isProper) _ s rfl given given

theorem isProper_readModified (given target : Value) {entries : List (Value × Value)}
    (name : (Value.member entries "name").isQuery = false)
    (cast : (Value.member entries "cast").isQuery = false) :
    (readModified given target entries).isProper := by
  have other {v : Value} (other : v.isQuery = false) : v.givenOrNull.isQuery = false := by
    rw [Value.givenOrNull]
    split
    · exact other
    · rfl
  cases target with
  | query q =>
    rw [readModified]
    split
    · rw [isProper, other name]
      rfl
    · rfl
  | text s | token t =>
    simp only [readModified, Value.asText?]
    split
    · rfl
    · simp only [isProper, other name, other cast]
      rfl
  | _ => rfl

theorem isProper_read {given : Value} (selectable : given.Selectable) :
    (read given).isProper := by
  refine read_cases (motive := fun s => s.isProper) selectable.selector (fun _ _ => rfl)
    (fun _ => isProper_readText) ?_ rfl
  intro target entries modified
  obtain ⟨name, cast⟩ := selectable.modifier target entries modified
  exact isProper_readModified given target name cast

theorem isProper_readJson {given : Value} (selectable : given.Selectable) {s : Selector}
    (made : readJson given = .ok s) : s.isProper :=
  readJson_cases (motive := fun s => s.isProper) made (selectable.selector s)
    (fun _ => isProper_readText) rfl

theorem Selected.isProper {s : Selector} (selected : s.Selected) : s.isProper := by
  cases selected with
  | read selectable => exact isProper_read selectable
  | readJson selectable made => exact isProper_readJson selectable made

end Selector

namespace Call

variable {write : QueryText} {pageSize : Value} {q r : Query}

/-- Calls that select nothing but selectable values give such selectors. -/
theorem selected_of_run {calls : List Call}
    (selectable : ∀ c ∈ calls, ∀ v ∈ c.selects, v.Selectable)
    (selected : ∀ s ∈ q.selectors, s.Selected) (made : run write pageSize q calls = .ok r) :
    ∀ s ∈ r.selectors, s.Selected := by
  refine selectors_forall selected (fun c member read parsed => ?_) made
  have selectable := selectable c member
  cases c with
  | select given =>
    cases parsed
    intro s member
    obtain ⟨v, item, rfl⟩ := List.mem_map.1 member
    exact .read (selectable v item)
  | selectJson given =>
    exact forall_of_mapM_eq_ok (fun v item s made => .readJson (selectable v item) made) parsed
  | _ =>
    cases parsed
    exact List.forall_mem_nil _

end Call

/-! ## Proper queries -/

/-- The selectors of the query were read from selectable values, its columns are texts, and no query
stands for an operand. -/
structure Query.OwnProper (q : Query) : Prop where
  selectors : ∀ s ∈ q.selectors, s.Selected
  filters : ∀ f ∈ q.filters, f.isQueryFree
  ordering : ∀ k ∈ q.ordering, k.column.asText?.isSome
  onConflict : q.onConflict.isQuery = false
  columns : ∀ v ∈ q.columns, v.asText?.isSome

/-- A query is proper if all that it holds is, and all queries inside it are proper. -/
inductive Query.Proper : Query → Prop
  | intro {q : Query} (own : q.OwnProper) (parts : ∀ p ∈ q.parts, p.Proper) : q.Proper

namespace Query.Proper

variable {q : Query}

theorem own (proper : q.Proper) : q.OwnProper := by
  cases proper with
  | intro own parts => exact own

theorem part (proper : q.Proper) {p : Query} (member : p ∈ q.parts) : p.Proper := by
  cases proper with
  | intro own parts => exact parts p member

theorem conditions (proper : q.Proper) : ∀ f ∈ q.conditions, f.isQueryFree := by
  induction proper with
  | @intro q own parts ih =>
    intro f member
    rw [conditions_eq] at member
    rcases List.mem_append.1 member with stored | nested
    · exact own.filters f stored
    · obtain ⟨g, grouped, inside⟩ := List.mem_flatMap.1 nested
      rw [FilterGroup.conditions_eq] at inside
      obtain ⟨p, queried, held⟩ := List.mem_flatMap.1 inside
      exact ih p (mem_parts_of_group grouped queried) f held

theorem aliasValue (proper : q.Proper) {e : Embedding} (member : e ∈ q.embeddings) :
    e.aliasValue.isQuery = false := by
  obtain ⟨s, selected, found⟩ := List.mem_filterMap.1 member
  have own := (proper.own.selectors s selected).isProper
  cases s with
  | embedded query name =>
    cases found
    rw [Embedding.aliasValue]
    split
    · simpa [Selector.isProper] using own
    · rfl
  | _ => cases found

/-- Every node of a proper query is reached by names that are no queries, and its query is
proper. -/
theorem node (q : Query) (proper : q.Proper) {before : List Value}
    (named : ∀ name ∈ before, name.isQuery = false) :
    ∀ n ∈ q.nodesFrom before, n.hasQueryFreePath ∧ n.query.Proper := by
  induction q using Query.embedding_induction generalizing before with
  | step q ih =>
    intro n visited
    rw [nodesFrom_embeddings] at visited
    rcases List.mem_cons.1 visited with rfl | below
    · refine ⟨List.all_eq_true.2 fun name passed => ?_, proper⟩
      rw [named name passed]
      rfl
    · obtain ⟨e, member, inside⟩ := List.mem_flatMap.1 below
      refine ih e member (proper.part (mem_parts_of_embedding member)) (fun name passed => ?_) n
        inside
      rcases List.mem_append.1 passed with earlier | last
      · exact named name earlier
      · rw [List.mem_singleton.1 last]
        exact proper.aliasValue member

theorem nodes (proper : q.Proper) : ∀ n ∈ q.nodes, n.isQueryFree ∧ n.hasQueryFreeKeys := by
  intro n visited
  obtain ⟨path, inside⟩ := node q proper (List.forall_mem_nil _) n visited
  exact ⟨Bool.and_eq_true_iff.2 ⟨path, List.all_eq_true.2 inside.conditions⟩,
    Bool.and_eq_true_iff.2 ⟨path, List.all_eq_true.2 inside.own.ordering⟩⟩

end Query.Proper

end RestQuery
