import RestQuery.Clause.Window
import RestQuery.Proofs.Embedding.Collect
import RestQuery.Proofs.Filter.Arrangement
import RestQuery.Proofs.Group.Conditions

/-!
# Filters, groups and pagination of a tree

Each of these clauses recurses through the embedding tree with a text as path.  They all write the
nodes of the tree in depth-first order, every node under its dotted path, and what a tree writes
where it is embedded is what it writes as a root with the alias before every name.  Both are said by
`Query.clauses_preorder`.
-/

namespace RestQuery

/-! ## What a single query writes -/

section Own

variable (write : QueryText) (above path : String)

theorem Filter.pair_append (f : Filter) :
    f.pair write (above ++ path) = under above <$> f.pair write path := by
  simp [pair, under, String.append_assoc]

theorem Query.ownFilterPairs_append (q : Query) :
    q.ownFilterPairs write (above ++ path) =
      List.map (under above) <$> q.ownFilterPairs write path := by
  rw [ownFilterPairs, ownFilterPairs, ← mapM_map_result]
  simp only [Filter.pair_append]

theorem Query.ownGroupPairs_append (q : Query) :
    q.ownGroupPairs write (above ++ path) =
      List.map (under above) <$> q.ownGroupPairs write path := by
  rw [ownGroupPairs, ownGroupPairs, ← mapM_map_result]
  simp [under, String.append_assoc]

theorem Query.ownLimitPairs_append (q : Query) :
    q.ownLimitPairs (above ++ path) = (q.ownLimitPairs path).map (under above) := by
  rw [ownLimitPairs, ownLimitPairs]
  cases q.window.limit <;> simp [under, String.append_assoc]

theorem Query.ownOffsetPairs_append (q : Query) :
    q.ownOffsetPairs (above ++ path) = (q.ownOffsetPairs path).map (under above) := by
  rw [ownOffsetPairs, ownOffsetPairs]
  split <;> simp [under, String.append_assoc]

end Own

/-! ## Embedded queries -/

/-- A clause of an embedded query is the clause of the same query as a root, under its alias: the
clause of a tree is that of its root alone and, after it, those of the embedded trees in the order
of selection, each in one piece. -/
def EmbedsUnderAlias (write : QueryText) (clause : Query → Except Error (List Pair)) : Prop :=
  ∀ q : Query, clause q = (do
    return (← clause { q with selectors := [] }) ++
      (← q.embeddings.flatMapM fun e => do
        let name ← e.aliasValue.plain write
        return (← clause e.query).map (under (name ++ "."))))

theorem collect_embedsUnderAlias {write : QueryText}
    {emit : String → Query → Except Error (List Pair)}
    (uniform : ∀ above path q, emit (above ++ path) q = List.map (under above) <$> emit path q)
    (alone : ∀ path q, emit path { q with selectors := [] } = emit path q) :
    EmbedsUnderAlias write fun q => q.collect (dottedBelow write) emit "" := by
  intro q
  have root : Query.collect (dottedBelow write) emit "" { q with selectors := [] } = emit "" q := by
    rw [Query.collect_embeddings, alone]
    simp [Query.embeddings]
  have below : ∀ e ∈ q.embeddings,
      (do e.query.collect (dottedBelow write) emit (← dottedBelow write "" e.aliasValue)) = (do
        let name ← e.aliasValue.plain write
        return (← e.query.collect (dottedBelow write) emit "").map (under (name ++ "."))) := by
    intro e _
    simp only [dottedBelow, bind_assoc, pure_bind, String.empty_append]
    congr 1
    funext name
    have moved := collect_under write uniform (name ++ ".") e.query ""
    rw [String.append_empty] at moved
    rw [moved, map_eq_pure_bind]
  dsimp only
  rw [root, Query.collect_embeddings, flatMapM_congr below]

theorem Query.filterPairs_embeds (write : QueryText) :
    EmbedsUnderAlias write (filterPairs write) :=
  collect_embedsUnderAlias (ownFilterPairs_append write) fun _ _ => rfl

theorem Query.groupPairs_embeds (write : QueryText) :
    EmbedsUnderAlias write (groupPairs write) :=
  collect_embedsUnderAlias (ownGroupPairs_append write) fun _ _ => rfl

theorem Query.limitPairs_embeds (write : QueryText) :
    EmbedsUnderAlias write (limitPairs write) :=
  collect_embedsUnderAlias (fun above path q => by rw [ownLimitPairs_append]; rfl) fun _ _ => rfl

theorem Query.offsetPairs_embeds (write : QueryText) :
    EmbedsUnderAlias write (offsetPairs write) :=
  collect_embedsUnderAlias (fun above path q => by rw [ownOffsetPairs_append]; rfl) fun _ _ => rfl

/-! ## Typed trees -/

/-- Whether the aliases on the way to a node are texts, and the filters of its query and of the
groups of it are typed. -/
def Node.isTyped (n : Node) : Bool := n.hasTextPath && n.query.conditions.all Filter.isTyped

/-- Whether no query stands for an alias on the way to a node, or in a filter of its query and of
the groups of it. -/
def Node.isQueryFree (n : Node) : Bool :=
  n.hasQueryFreePath && n.query.conditions.all Filter.isQueryFree

theorem Node.isQueryFree_of_isTyped {n : Node} (typed : n.isTyped) : n.isQueryFree := by
  obtain ⟨path, conditions⟩ := Bool.and_eq_true_iff.1 typed
  exact Bool.and_eq_true_iff.2 ⟨hasQueryFreePath_of_hasTextPath path, List.all_eq_true.2
    fun f member => Filter.isQueryFree_of_isTyped (List.all_eq_true.1 conditions f member)⟩

/-- A clause of a tree can be written if it can be written for every node. -/
theorem collect_succeeds {write : QueryText} {emit : String → Query → Except Error (List Pair)}
    {q : Query} (named : ∀ n ∈ q.nodes, n.hasQueryFreePath)
    (each : ∀ n ∈ q.nodes, ∀ path, Succeeds (emit path n.query)) :
    Succeeds (q.collect (dottedBelow write) emit "") := by
  rw [Query.collect_nodes]
  refine Succeeds.flatMapM fun n member => ?_
  rw [Node.foldlM_dottedBelow]
  exact (Node.dotted_succeeds write (named n member)).bind (each n member)

/-! ## The clauses as a walk over the nodes -/

section Nodes

variable (write : QueryText) (q : Query)

/-- A clause that recurses with a dotted path visits the nodes, each under its dotted path. -/
theorem Query.collect_dotted (emit : String → Query → Except Error (List Pair)) :
    q.collect (dottedBelow write) emit "" =
      q.nodes.flatMapM (fun n => do emit (← n.dotted write) n.query) := by
  rw [collect_nodes]
  simp only [Node.foldlM_dottedBelow]

theorem Query.filterPairs_nodes :
    q.filterPairs write = q.nodes.flatMapM (fun n => do
      let path ← n.dotted write
      (Filter.byOperator n.query.filters).mapM fun f => do
        return (path ++ (← f.column.plain write), ← f.written write false)) := by
  rw [filterPairs, collect_dotted]
  simp only [ownFilterPairs, Filter.arranged_eq, Filter.pair]

theorem Query.limitPairs_nodes :
    q.limitPairs write = q.nodes.flatMapM (fun n => do
      let path ← n.dotted write
      return n.query.window.limit.toList.map fun limit => (path ++ "limit", toString limit)) := by
  rw [limitPairs, collect_dotted]
  have own (path : String) (q : Query) : q.ownLimitPairs path =
      q.window.limit.toList.map fun limit => (path ++ "limit", toString limit) := by
    rw [ownLimitPairs]
    cases q.window.limit <;> rfl
  simp only [own, ok_eq_pure]

theorem Query.offsetPairs_nodes :
    q.offsetPairs write = q.nodes.flatMapM (fun n => do
      let path ← n.dotted write
      return ([n.query.window.offset].filter (· ≠ 0)).map fun offset =>
        (path ++ "offset", toString offset)) := by
  rw [offsetPairs, collect_dotted]
  have own (path : String) (q : Query) : q.ownOffsetPairs path =
      ([q.window.offset].filter (· ≠ 0)).map fun offset =>
        (path ++ "offset", toString offset) := by
    rw [ownOffsetPairs]
    split
    next zero => simp [zero]
    next given => simp [given]
  simp only [own, ok_eq_pure]

end Nodes

/-- The clauses of a tree in which no query stands for a text can be written. -/
theorem Query.queryFreeClauses_succeed (write : QueryText) {q : Query}
    (free : ∀ n ∈ q.nodes, n.isQueryFree) :
    Succeeds (q.filterPairs write) ∧ Succeeds (q.groupPairs write) ∧
      Succeeds (q.limitPairs write) ∧ Succeeds (q.offsetPairs write) := by
  have named : ∀ n ∈ q.nodes, n.hasQueryFreePath := fun n member =>
    (Bool.and_eq_true_iff.1 (free n member)).1
  have conditions : ∀ n ∈ q.nodes, ∀ f ∈ n.query.conditions, f.isQueryFree := fun n member =>
    List.all_eq_true.1 (Bool.and_eq_true_iff.1 (free n member)).2
  refine ⟨collect_succeeds named fun n member path => Succeeds.mapM fun f stored => ?_,
    collect_succeeds named fun n member path => Succeeds.mapM fun g stored => ?_,
    collect_succeeds named fun n _ path => .pure _, collect_succeeds named fun n _ path => .pure _⟩
  · exact f.pair_succeeds write (conditions n member f
      (mem_conditions_of_filters stored)) path
  · exact (g.content_succeeds write fun f inside => conditions n member f
      (mem_conditions_of_groups stored inside)).bind fun _ => .pure _

theorem Query.clauses_succeed (write : QueryText) {q : Query} (typed : ∀ n ∈ q.nodes, n.isTyped) :
    Succeeds (q.filterPairs write) ∧ Succeeds (q.groupPairs write) ∧
      Succeeds (q.limitPairs write) ∧ Succeeds (q.offsetPairs write) :=
  queryFreeClauses_succeed write fun n member => Node.isQueryFree_of_isTyped (typed n member)

/-- The clauses for filters, groups, limits and offsets list the nodes of the tree in depth-first
order, every name under the dotted path of its node: the filters operator by operator, each once,
the conjunctions before the disjunctions, any limit, and any offset but zero.  What an embedded
tree adds is what it writes as a root, under its alias.  A typed tree can always be written. -/
theorem Query.clauses_preorder (write : QueryText) (q : Query) :
    (q.filterPairs write = q.nodes.flatMapM (fun n => do
      let path ← n.dotted write
      (Filter.byOperator n.query.filters).mapM fun f => do
        return (path ++ (← f.column.plain write), ← f.written write false))) ∧
    (q.groupPairs write = q.nodes.flatMapM (fun n => do
      let path ← n.dotted write
      (n.query.conjunctions ++ n.query.disjunctions).mapM fun g => do
        return (path ++ g.key, ← g.content write))) ∧
    (q.limitPairs write = q.nodes.flatMapM (fun n => do
      let path ← n.dotted write
      return n.query.window.limit.toList.map fun limit => (path ++ "limit", toString limit))) ∧
    (q.offsetPairs write = q.nodes.flatMapM (fun n => do
      let path ← n.dotted write
      return ([n.query.window.offset].filter (· ≠ 0)).map fun offset =>
        (path ++ "offset", toString offset))) ∧
    (∀ fs, (Filter.byOperator fs).Perm fs) ∧
    (EmbedsUnderAlias write (filterPairs write) ∧ EmbedsUnderAlias write (groupPairs write) ∧
      EmbedsUnderAlias write (limitPairs write) ∧ EmbedsUnderAlias write (offsetPairs write)) ∧
    ((∀ n ∈ q.nodes, n.isTyped) →
      Succeeds (q.filterPairs write) ∧ Succeeds (q.groupPairs write) ∧
        Succeeds (q.limitPairs write) ∧ Succeeds (q.offsetPairs write)) := by
  refine ⟨filterPairs_nodes write q, q.collect_dotted write (ownGroupPairs write),
    limitPairs_nodes write q, offsetPairs_nodes write q, fun fs => ?_,
    ⟨filterPairs_embeds write, groupPairs_embeds write, limitPairs_embeds write,
      offsetPairs_embeds write⟩, clauses_succeed write⟩
  rw [← Filter.arranged_eq]
  exact Filter.arranged_perm fs

/-- Actors who live or were born after 1950. -/
def FilterGroup.recentActors : FilterGroup where
  connective := .or
  queries :=
    [{ Query.ofResource "actors" .many with filters := [⟨.is, .text "died", .null, false⟩] },
      { Query.ofResource "actors" .many with filters := [⟨.gt, .text "born", .int 1950, false⟩] }]
  negated := false

theorem FilterGroup.content_recentActors (write : QueryText) :
    recentActors.content write = .ok "(died.is.null,born.gt.1950)" := by
  rw [content, flattened_eq, recentActors]
  simp only [List.flatMapM_cons, List.flatMapM_nil, Query.flattened_eq, Filter.arranged_eq]
  rfl

/-- Two actors with a name, of the recent ones. -/
def Query.twoActors : Query :=
  { ofResource "actors" .many with
    filters := [⟨.neq, .text "name", .text "", false⟩]
    disjunctions := [.recentActors]
    window := ⟨0, some 2⟩ }

/-- Films before 1990 with two actors each. -/
def Query.filmsWithActors : Query :=
  { ofResource "films" .many with
    selectors := [.wildcard, .embedded twoActors (.text "cast")]
    filters := [⟨.lt, .text "year", .int 1990, false⟩, ⟨.eq, .text "title", .null, true⟩]
    window := ⟨10, some 0⟩ }

/-- The clauses of the films stand first, and those of the actors under the alias of these. -/
theorem Query.clauses_preorder_filmsWithActors :
    (∀ n ∈ filmsWithActors.nodes, n.isTyped) ∧
      filmsWithActors.filterPairs (fun _ => .ok "") =
        .ok [("title", "not.eq.null"), ("year", "lt.1990"), ("cast.name", "neq.")] ∧
      filmsWithActors.groupPairs (fun _ => .ok "") =
        .ok [("cast.or", "(died.is.null,born.gt.1950)")] ∧
      filmsWithActors.limitPairs (fun _ => .ok "") = .ok [("limit", "0"), ("cast.limit", "2")] ∧
      filmsWithActors.offsetPairs (fun _ => .ok "") = .ok [("offset", "10")] ∧
      Succeeds (filmsWithActors.filterPairs fun _ => .ok "") ∧
      Succeeds (filmsWithActors.groupPairs fun _ => .ok "") ∧
      Succeeds (filmsWithActors.limitPairs fun _ => .ok "") ∧
      Succeeds (filmsWithActors.offsetPairs fun _ => .ok "") := by
  have typed : ∀ n ∈ filmsWithActors.nodes, n.isTyped := by decide
  have walk : filmsWithActors.nodes =
      [⟨[], filmsWithActors⟩, ⟨[.text "cast"], twoActors⟩] := rfl
  obtain ⟨filters, groups, limits, offsets, _, _, succeed⟩ :=
    clauses_preorder (fun _ => .ok "") filmsWithActors
  have grouped : filmsWithActors.groupPairs (fun _ => .ok "") =
      .ok [("cast.or", "(died.is.null,born.gt.1950)")] := by
    rw [groups, walk]
    simp only [List.flatMapM_cons, filmsWithActors, twoActors, Query.ofResource, List.append_nil,
      List.nil_append, List.mapM_cons, FilterGroup.content_recentActors]
    rfl
  exact ⟨typed, filters.trans rfl, grouped, limits.trans rfl, offsets.trans rfl, succeed typed⟩

end RestQuery
