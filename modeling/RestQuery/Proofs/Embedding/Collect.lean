import Mathlib.Data.List.Basic
import RestQuery.Proofs.Value.Plain
import RestQuery.Query.Embedding

/-!
# Running through the embedding tree

`Query.collect` recurses through the selectors of a query and carries along whatever stands for the
path of aliases.  `Query.collect_nodesFrom` says that this visits the nodes of the tree one by one
in depth-first order, each at the path that its aliases lead to, and `collect_under` that a tree
written below a path is written as at the root, with that path before every name.

An embedded query is smaller than the one that embeds it, which makes `Query.embedding_induction`
the induction for whatever is said of a whole tree.
-/

namespace RestQuery

/-! ## Induction over the tree -/

theorem Selector.sizeOf_embedding {s : Selector} {e : Embedding} (found : s.embedding? = some e) :
    sizeOf e.query < sizeOf s := by
  cases s with
  | embedded q name =>
    cases found
    show sizeOf q < sizeOf (Selector.embedded q name)
    simp only [Selector.embedded.sizeOf_spec]
    omega
  | _ => cases found

theorem Query.sizeOf_embedding {q : Query} {e : Embedding} (member : e ∈ q.embeddings) :
    sizeOf e.query < sizeOf q := by
  obtain ⟨s, selected, found⟩ := List.mem_filterMap.1 member
  have below := Selector.sizeOf_embedding found
  have inside := List.sizeOf_lt_of_mem selected
  cases q
  simp only [Query.mk.sizeOf_spec]
  dsimp only at inside
  omega

/-- What holds of a query as soon as it holds of the queries it embeds holds of every query. -/
theorem Query.embedding_induction {motive : Query → Prop}
    (step : ∀ q : Query, (∀ e ∈ q.embeddings, motive e.query) → motive q) (q : Query) :
    motive q :=
  step q fun e member =>
    have := Query.sizeOf_embedding member
    Query.embedding_induction step e.query
termination_by sizeOf q

/-! ## Collecting is a walk over the nodes -/

section Walk

variable {π α : Type} (extend : π → Value → Except Error π)
  (emit : π → Query → Except Error (List α))

theorem Selector.collectAll_eq (path : π) (ss : List Selector) :
    Selector.collectAll extend emit path ss =
      (ss.filterMap Selector.embedding?).flatMapM (fun e => do
        e.query.collect extend emit (← extend path e.aliasValue)) := by
  induction ss with
  | nil => rfl
  | cons s ss ih =>
    rw [collectAll, ih]
    cases s <;> simp [collect, embedding?, List.filterMap_cons, ok_eq_pure]

/-- A query is visited before its embeddings, which come in the order of selection. -/
theorem Query.collect_embeddings (path : π) (q : Query) :
    q.collect extend emit path = (do
      return (← emit path q) ++
        (← q.embeddings.flatMapM fun e => do
          e.query.collect extend emit (← extend path e.aliasValue))) := by
  cases q
  simp only [collect, Selector.collectAll_eq, embeddings]

/-- Collecting visits the nodes in depth-first order.  The path of a node is what its aliases, one
after the other, make of the path at the start. -/
theorem Query.collect_nodesFrom (start : π) (q : Query) :
    ∀ {before : List Value} {path : π}, before.foldlM extend start = .ok path →
      q.collect extend emit path =
        (q.nodesFrom before).flatMapM (fun n => do
          emit (← n.path.foldlM extend start) n.query) := by
  induction q using Query.embedding_induction with
  | step q ih =>
    intro before path reached
    rw [collect_embeddings, nodesFrom_embeddings, List.flatMapM_cons, flatMapM_flatMap]
    simp only [reached, ok_bind]
    congr 1
    funext own
    congr 1
    apply flatMapM_congr
    intro e member
    have further : (before ++ [e.aliasValue]).foldlM extend start = extend path e.aliasValue := by
      simp [List.foldlM_append, reached]
    cases next : extend path e.aliasValue with
    | ok path' => exact ih e member (further.trans next)
    | error cause =>
      -- The first node below the embedding has no path, and so nothing below it is visited.
      rw [next] at further
      rw [nodesFrom_embeddings, List.flatMapM_cons, further]
      rfl

/-- Collecting from the root visits all nodes. -/
theorem Query.collect_nodes (start : π) (q : Query) :
    q.collect extend emit start =
      q.nodes.flatMapM (fun n => do emit (← n.path.foldlM extend start) n.query) :=
  q.collect_nodesFrom extend emit start rfl

theorem Query.nodes_tail (q : Query) :
    q.nodes.tail = q.embeddings.flatMap fun e => e.query.nodesFrom [e.aliasValue] := by
  rw [nodes, nodesFrom_embeddings, List.tail_cons]
  rfl

theorem Query.nodes_eq (q : Query) : q.nodes = ⟨[], q⟩ :: q.nodes.tail := by
  rw [nodes, nodesFrom_embeddings, List.tail_cons]

/-- Collecting from the selectors of the root visits all nodes but the root. -/
theorem Query.collectAll_nodes (start : π) (q : Query) :
    Selector.collectAll extend emit start q.selectors =
      q.nodes.tail.flatMapM (fun n => do emit (← n.path.foldlM extend start) n.query) := by
  rw [Selector.collectAll_eq, nodes_tail, flatMapM_flatMap]
  apply flatMapM_congr
  intro e _
  have first : [e.aliasValue].foldlM extend start = extend start e.aliasValue := by simp
  cases next : extend start e.aliasValue with
  | ok path => exact e.query.collect_nodesFrom extend emit start (first.trans next)
  | error cause =>
    rw [next] at first
    rw [nodesFrom_embeddings, List.flatMapM_cons, first]
    rfl

end Walk

/-! ## Walking through two trees at once -/

section Related

variable {π π' α : Type} {extend : π → Value → Except Error π}
  {extend' : π' → Value → Except Error π'} {emit : π → Query → Except Error (List α)}
  {emit' : π' → Query → Except Error (List α)} {R : Query → Query → Prop}
  {A : Value → Value → Prop} {P : π → π' → Prop}

/-- Related queries are run through alike, if a relation goes on from a query to the embeddings of
it, and from a path and an alias to the path below, and related queries at such paths emit the
same. -/
theorem Query.collect_related
    (below : ∀ {q r : Query}, R q r → List.Forall₂ (fun e f : Embedding =>
      R e.query f.query ∧ A e.aliasValue f.aliasValue) q.embeddings r.embeddings)
    (extended : ∀ p p' v w, P p p' → A v w → Matched P (· = ·) (extend p v) (extend' p' w))
    (emitted : ∀ p p' q r, P p p' → R q r → emit p q = emit' p' r) (q : Query) :
    ∀ {r p p'}, R q r → P p p' → q.collect extend emit p = r.collect extend' emit' p' := by
  induction q using Query.embedding_induction with
  | step q ih =>
    intro r p p' related paths
    rw [collect_embeddings, collect_embeddings, emitted p p' q r paths related]
    congr 1
    funext own
    congr 1
    refine flatMapM_forall₂ (forall₂_imp_of_mem (below related) fun e member f _ same => ?_)
    exact (extended p p' _ _ paths same.2).bind_eq fun _ _ further => ih e member same.1 further

/-- So are the selectors of related queries. -/
theorem Query.collectAll_related
    (below : ∀ {q r : Query}, R q r → List.Forall₂ (fun e f : Embedding =>
      R e.query f.query ∧ A e.aliasValue f.aliasValue) q.embeddings r.embeddings)
    (extended : ∀ p p' v w, P p p' → A v w → Matched P (· = ·) (extend p v) (extend' p' w))
    (emitted : ∀ p p' q r, P p p' → R q r → emit p q = emit' p' r) {q r : Query} {p : π} {p' : π'}
    (related : R q r) (paths : P p p') :
    Selector.collectAll extend emit p q.selectors =
      Selector.collectAll extend' emit' p' r.selectors := by
  rw [Selector.collectAll_eq, Selector.collectAll_eq]
  refine flatMapM_forall₂ ((below related).imp fun e f same => ?_)
  exact (extended p p' _ _ paths same.2).bind_eq fun _ _ further =>
    e.query.collect_related below extended emitted same.1 further

end Related

/-! ## The queries of the tree -/

/-- The queries of the embedding tree in depth-first order, the root first. -/
def Query.tree (q : Query) : List Query := q.nodes.map Node.query

theorem foldlM_dottedBelow (write : QueryText) (names : List Value) (path : String) :
    names.foldlM (dottedBelow write) path = (do
      return path ++ String.join ((← names.mapM (Value.plain write)).map (· ++ "."))) := by
  induction names generalizing path with
  | nil => simp
  | cons name names ih =>
    simp only [List.foldlM_cons, dottedBelow, ih, List.mapM_cons, bind_assoc, pure_bind,
      List.map_cons, String.join_cons, String.append_assoc]

/-- The text that is carried along is the dotted path of the node. -/
theorem Node.foldlM_dottedBelow (write : QueryText) (n : Node) :
    n.path.foldlM (dottedBelow write) "" = n.dotted write := by
  rw [RestQuery.foldlM_dottedBelow, dotted]
  simp

/-- Whether the aliases on the way to a node are texts. -/
def Node.hasTextPath (n : Node) : Bool := n.path.all fun name => name.asText?.isSome

/-- Whether no query stands for an alias on the way to a node. -/
def Node.hasQueryFreePath (n : Node) : Bool := n.path.all fun name => !name.isQuery

theorem Node.isQuery_of_hasQueryFreePath {n : Node} (free : n.hasQueryFreePath) {name : Value}
    (passed : name ∈ n.path) : name.isQuery = false := by
  simpa using List.all_eq_true.1 free name passed

theorem Node.hasQueryFreePath_of_hasTextPath {n : Node} (named : n.hasTextPath) :
    n.hasQueryFreePath :=
  List.all_eq_true.2 fun name passed => by
    rw [Value.isQuery_of_asText? (List.all_eq_true.1 named name passed)]
    rfl

theorem Node.dotted_succeeds (write : QueryText) {n : Node} (free : n.hasQueryFreePath) :
    Succeeds (n.dotted write) := by
  refine (Succeeds.mapM fun name passed => ?_).bind fun _ => .pure _
  exact Value.plain_succeeds write (isQuery_of_hasQueryFreePath free passed)

/-- The path of aliases itself is carried along as it is. -/
theorem foldlM_snoc (names path : List Value) :
    names.foldlM (fun path name => (.ok (path ++ [name]) : Except Error (List Value))) path =
      .ok (path ++ names) := by
  induction names generalizing path with
  | nil => simp [ok_eq_pure]
  | cons name names ih => rw [List.foldlM_cons, ok_bind, ih, List.append_assoc]; rfl

/-- A parameter with a path before its name. -/
def under (path : String) (p : Pair) : Pair := (path ++ p.1, p.2)

theorem dottedBelow_append (write : QueryText) (above path : String) (name : Value) :
    dottedBelow write (above ++ path) name = (above ++ ·) <$> dottedBelow write path name := by
  simp [dottedBelow, String.append_assoc]

/-- If every query writes its path before the names of its parameters, then so does a whole tree
with the path above it. -/
theorem collect_under (write : QueryText) {emit : String → Query → Except Error (List Pair)}
    (uniform : ∀ above path q, emit (above ++ path) q = List.map (under above) <$> emit path q)
    (above : String) (q : Query) :
    ∀ path, q.collect (dottedBelow write) emit (above ++ path) =
      List.map (under above) <$> q.collect (dottedBelow write) emit path := by
  induction q using Query.embedding_induction with
  | step q ih =>
    intro path
    have below : (q.embeddings.flatMapM fun e => do
          e.query.collect (dottedBelow write) emit
            (← dottedBelow write (above ++ path) e.aliasValue)) =
        List.map (under above) <$> (q.embeddings.flatMapM fun e => do
          e.query.collect (dottedBelow write) emit (← dottedBelow write path e.aliasValue)) := by
      rw [← flatMapM_map_result]
      apply flatMapM_congr
      intro e member
      simp only [dottedBelow_append, map_bind, bind_map_left, ih e member]
    rw [Query.collect_embeddings, Query.collect_embeddings, uniform, below]
    simp only [bind_map_left, map_bind, map_pure, List.map_append]

end RestQuery
