import RestQuery.Proofs.Call.Channels
import RestQuery.Proofs.Clause.Ordering
import RestQuery.Proofs.Clause.Preorder
import RestQuery.Proofs.Json.Exact

/-!
# Typed queries

A query is `Query.Typed` if its names, columns, paths, aliases and casts are texts, its operands are
exact values, and its groups stand under their own connectives, and so for all queries inside it.
Calls always put a group under its connective (`Call.groupsPlaced_of_run`).  The clauses of a typed
query can be written, as all nodes of its embedding tree are typed (`Query.Typed.isTyped_of_node`).
-/

namespace RestQuery

/-! ## Groups under their connectives -/

/-- The conjunctions of a query are joined by `and`, and its disjunctions by `or`. -/
structure Query.GroupsPlaced (q : Query) : Prop where
  conjunctions : ∀ g ∈ q.conjunctions, g.connective = .and
  disjunctions : ∀ g ∈ q.disjunctions, g.connective = .or

theorem Query.groupsPlaced_ofResource (resource : String) (cardinality : Cardinality) :
    (ofResource resource cardinality).GroupsPlaced :=
  ⟨List.forall_mem_nil _, List.forall_mem_nil _⟩

theorem Query.GroupsPlaced.of_only {q r : Query} (placed : q.GroupsPlaced)
    (and : r.only .conjunctions = q.only .conjunctions)
    (or : r.only .disjunctions = q.only .disjunctions) : r.GroupsPlaced := by
  have conjunctions := congrArg Query.conjunctions and
  have disjunctions := congrArg Query.disjunctions or
  simp only [only] at conjunctions disjunctions
  exact ⟨conjunctions ▸ placed.conjunctions, disjunctions ▸ placed.disjunctions⟩

namespace Call

variable {write : QueryText} {pageSize : Value} {q r : Query}

theorem groupsPlaced_of_apply {c : Call} (placed : q.GroupsPlaced)
    (step : apply write pageSize q c = .ok r) : r.GroupsPlaced := by
  cases c with
  | group connective children negated =>
    obtain ⟨queries, _, made⟩ := bind_eq_ok.1 step
    have added (gs : List FilterGroup) (earlier : ∀ g ∈ gs, g.connective = connective) :
        ∀ g ∈ gs ++ [⟨connective, queries, negated⟩], g.connective = connective := by
      intro g member
      rcases List.mem_append.1 member with present | new
      · exact earlier g present
      · rw [List.mem_singleton.1 new]
    cases connective <;> cases made
    · exact ⟨added _ placed.conjunctions, placed.disjunctions⟩
    · exact ⟨placed.conjunctions, added _ placed.disjunctions⟩
  | _ =>
    -- Any other call writes another part of the query.
    have and : r.only .conjunctions = q.only .conjunctions := only_of_apply (by simp [channel]) step
    have or : r.only .disjunctions = q.only .disjunctions := only_of_apply (by simp [channel]) step
    exact placed.of_only and or

/-- Whatever is called, groups stand under their own connectives. -/
theorem groupsPlaced_of_run {calls : List Call} (placed : q.GroupsPlaced)
    (made : run write pageSize q calls = .ok r) : r.GroupsPlaced := by
  induction calls generalizing q with
  | nil =>
    cases made
    exact placed
  | cons c cs ih =>
    rw [run_cons] at made
    obtain ⟨p, step, rest⟩ := bind_eq_ok.1 made
    exact ih (groupsPlaced_of_apply placed step) rest

end Call

/-! ## Typed queries -/

/-- Whether a value is a text, or nothing. -/
def Value.isOptionalText : Value → Bool
  | .null => true
  | v => v.asText?.isSome

/-- Whether the column, the path, the alias and the cast of a selector are texts. -/
def Selector.isTyped : Selector → Bool
  | .wildcard => true
  | .column name => name.asText?.isSome
  | .modified base name cast =>
    base.asText?.isSome && name.isOptionalText && cast.isOptionalText
  | .path p => p.asText?.isSome
  | .embedded _ name => name.isOptionalText
  | .misembedded _ _ => true
  | .invalid _ => true
  | .unwritable _ => true

/-- All that the query itself holds is of its proper type. -/
structure Query.OwnTyped (q : Query) : Prop extends Query.GroupsPlaced q where
  selectors : ∀ s ∈ q.selectors, s.isTyped
  filters : ∀ f ∈ q.filters, f.isTyped ∧ f.operand.isExact
  ordering : ∀ k ∈ q.ordering, k.column.asText?.isSome
  schema : q.schema.isOptionalText
  onConflict : q.onConflict.isOptionalText
  columns : ∀ v ∈ q.columns, v.asText?.isSome

instance (q : Query) : Decidable q.OwnTyped :=
  decidable_of_iff
    (((∀ g ∈ q.conjunctions, g.connective = .and) ∧ (∀ g ∈ q.disjunctions, g.connective = .or)) ∧
      (∀ s ∈ q.selectors, s.isTyped) ∧ (∀ f ∈ q.filters, f.isTyped ∧ f.operand.isExact) ∧
      (∀ k ∈ q.ordering, k.column.asText?.isSome) ∧ q.schema.isOptionalText ∧
      q.onConflict.isOptionalText ∧ (∀ v ∈ q.columns, v.asText?.isSome))
    ⟨fun ⟨⟨c, d⟩, s, f, o, n, k, v⟩ => ⟨⟨c, d⟩, s, f, o, n, k, v⟩,
      fun h => ⟨⟨h.conjunctions, h.disjunctions⟩, h.selectors, h.filters, h.ordering, h.schema,
        h.onConflict, h.columns⟩⟩

/-- The queries that a query embeds, and those in its groups. -/
def Query.parts (q : Query) : List Query :=
  q.embeddings.map Embedding.query ++ q.groups.flatMap FilterGroup.queries

theorem Query.mem_parts_of_embedding {q : Query} {e : Embedding} (member : e ∈ q.embeddings) :
    e.query ∈ q.parts :=
  List.mem_append_left _ (List.mem_map.2 ⟨e, member, rfl⟩)

theorem Query.mem_parts_of_group {q p : Query} {g : FilterGroup} (member : g ∈ q.groups)
    (queried : p ∈ g.queries) : p ∈ q.parts :=
  List.mem_append_right _ (List.mem_flatMap.2 ⟨g, member, queried⟩)

theorem Query.sizeOf_parts {q p : Query} (member : p ∈ q.parts) : sizeOf p < sizeOf q := by
  rcases List.mem_append.1 member with embedded | grouped
  · obtain ⟨e, embeds, rfl⟩ := List.mem_map.1 embedded
    exact sizeOf_embedding embeds
  · obtain ⟨g, grouped, queried⟩ := List.mem_flatMap.1 grouped
    exact Nat.lt_trans (FilterGroup.sizeOf_queries queried) (sizeOf_groups grouped)

/-- What holds of a query as soon as it holds of the queries inside it holds of every query. -/
theorem Query.parts_induction {motive : Query → Prop}
    (step : ∀ q : Query, (∀ p ∈ q.parts, motive p) → motive q) (q : Query) : motive q :=
  step q fun p member =>
    have := Query.sizeOf_parts member
    Query.parts_induction step p
termination_by sizeOf q

/-- A query is typed if all that it holds is, and all queries inside it are typed. -/
inductive Query.Typed : Query → Prop
  | intro {q : Query} (own : q.OwnTyped) (parts : ∀ p ∈ q.parts, p.Typed) : q.Typed

namespace Query.Typed

variable {q : Query}

theorem own (typed : q.Typed) : q.OwnTyped := by
  cases typed with
  | intro own parts => exact own

theorem embedded (typed : q.Typed) {e : Embedding} (member : e ∈ q.embeddings) :
    e.query.Typed := by
  cases typed with
  | intro own parts => exact parts _ (mem_parts_of_embedding member)

theorem grouped (typed : q.Typed) {g : FilterGroup} (member : g ∈ q.groups) {p : Query}
    (queried : p ∈ g.queries) : p.Typed := by
  cases typed with
  | intro own parts => exact parts _ (mem_parts_of_group member queried)

end Query.Typed

/-! ## What is given in the place of an optional text -/

/-- The text of a value that counts as given. -/
def Value.givenText? (v : Value) : Option String := if v.isGiven then v.asText? else none

theorem Value.isSome_of_isGiven {v : Value} (typed : v.isOptionalText) (given : v.isGiven) :
    v.asText?.isSome := by
  cases v <;> first | exact typed | cases given

/-- An optional text is not given, or it is a text that is. -/
theorem Value.givenText?_of_isOptionalText {v : Value} (typed : v.isOptionalText) :
    (v.isGiven = false ∧ v.givenText? = none) ∨
      (v.isGiven ∧ ∃ s, v.asText? = some s ∧ v.givenText? = some s) := by
  cases given : v.isGiven with
  | false => exact .inl ⟨rfl, by rw [givenText?, given]; rfl⟩
  | true =>
    obtain ⟨s, text⟩ := Option.isSome_iff_exists.1 (isSome_of_isGiven typed given)
    exact .inr ⟨rfl, s, text, by rw [givenText?, given, text]; rfl⟩

/-! ## Nodes of typed queries -/

/-- A query is embedded under a text, its resource if no other name is given. -/
theorem Query.OwnTyped.aliasValue {q : Query} (own : q.OwnTyped) {e : Embedding}
    (member : e ∈ q.embeddings) : e.aliasValue.asText?.isSome := by
  obtain ⟨s, selected, found⟩ := List.mem_filterMap.1 member
  have typed := own.selectors s selected
  cases s with
  | embedded query name =>
    cases found
    rw [Embedding.aliasValue]
    split
    next given => exact Value.isSome_of_isGiven typed given
    next => rfl
  | _ => cases found

namespace Query.Typed

/-- Every node of a typed query is reached by texts, and its query is typed. -/
theorem node (q : Query) (typed : q.Typed) {before : List Value}
    (named : ∀ name ∈ before, name.asText?.isSome) :
    ∀ n ∈ q.nodesFrom before, n.hasTextPath ∧ n.query.Typed := by
  induction q using Query.embedding_induction generalizing before with
  | step q ih =>
    intro n visited
    rw [nodesFrom_embeddings] at visited
    rcases List.mem_cons.1 visited with rfl | below
    · exact ⟨List.all_eq_true.2 named, typed⟩
    · obtain ⟨e, member, inside⟩ := List.mem_flatMap.1 below
      refine ih e member (typed.embedded member) (fun name passed => ?_) n inside
      rcases List.mem_append.1 passed with earlier | last
      · exact named name earlier
      · rw [List.mem_singleton.1 last]
        exact typed.own.aliasValue member

/-- All filters of a typed query are typed, those in its groups included. -/
theorem conditions {q : Query} (typed : q.Typed) : ∀ f ∈ q.conditions, f.isTyped := by
  induction typed with
  | @intro q own parts ih =>
    intro f member
    rw [conditions_eq] at member
    rcases List.mem_append.1 member with stored | nested
    · exact (own.filters f stored).1
    · obtain ⟨g, grouped, inside⟩ := List.mem_flatMap.1 nested
      rw [FilterGroup.conditions_eq] at inside
      obtain ⟨p, queried, held⟩ := List.mem_flatMap.1 inside
      exact ih p (mem_parts_of_group grouped queried) f held

variable {q : Query}

theorem isTyped_of_node (typed : q.Typed) : ∀ n ∈ q.nodes, n.isTyped := by
  intro n visited
  obtain ⟨path, inside⟩ := node q typed (List.forall_mem_nil _) n visited
  exact Bool.and_eq_true_iff.2 ⟨path, List.all_eq_true.2 inside.conditions⟩

theorem hasTextKeys_of_node (typed : q.Typed) : ∀ n ∈ q.nodes, n.hasTextKeys := by
  intro n visited
  obtain ⟨path, inside⟩ := node q typed (List.forall_mem_nil _) n visited
  exact Bool.and_eq_true_iff.2 ⟨path, List.all_eq_true.2 inside.own.ordering⟩

end Query.Typed

end RestQuery
