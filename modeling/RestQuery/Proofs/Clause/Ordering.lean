import Mathlib.Data.List.Perm.Basic
import RestQuery.Clause.Ordering
import RestQuery.Proofs.Embedding.Collect

/-!
# The ordering keys of a tree

Two recursions share out the ordering keys of a tree: one takes the top keys of embedded queries to
the root, the other leaves the rest where they are.  `Query.orderingPlan` says which keys each
parameter of the ordering holds, `PlacedKey.spelled` how a key stands in it, and
`Query.ordering_conserved` that the parameters are written as planned and that the plan takes every
stored key exactly once.
-/

namespace RestQuery

/-- An ordering key with the node whose query stores it. -/
structure PlacedKey where
  node : Node
  key : SortKey

/-- A parameter of the ordering: the node that it is written for, and the keys that it holds. -/
structure OrderingParameter where
  owner : Node
  keys : List PlacedKey

namespace Node

/-- The keys that the query of a node stores. -/
def storedKeys (n : Node) : List PlacedKey := n.query.ordering.map fun k => ⟨n, k⟩

/-- The keys of a node that move to the root. -/
def hoistedKeys (n : Node) : List PlacedKey := n.storedKeys.filter fun p => p.key.top.isGiven

/-- The keys of a node that stay with it. -/
def keptKeys (n : Node) : List PlacedKey := n.storedKeys.filter fun p => !p.key.top.isGiven

end Node

namespace Query

/-- The keys that are stored anywhere in the tree. -/
def storedKeys (q : Query) : List PlacedKey := q.nodes.flatMap Node.storedKeys

/-- The parameter of the root holds all keys of the root and the top keys of the other nodes; after
it comes a parameter for each of these, with the keys that stay. -/
def orderingPlan (q : Query) : List OrderingParameter :=
  ⟨⟨[], q⟩, Node.storedKeys ⟨[], q⟩ ++ q.nodes.tail.flatMap Node.hoistedKeys⟩ ::
    q.nodes.tail.map fun n => ⟨n, n.keptKeys⟩

end Query

/-- A key in the parameter of a node: its column is read in its own query, and wrapped in the
aliases that lead on from the node. -/
def PlacedKey.written (write : QueryText) (owner : Node) (p : PlacedKey) :
    Except Error String := do
  let column := p.node.query.orderColumn (← p.key.columnText).toList
  return p.key.written (← Query.wrapped write (p.node.path.drop owner.path.length) column)

/-- The text of a key in the parameter of a node: the column as its own query reads it, inside a
pair of parentheses behind each alias that leads on from the node, then the direction and the place
of missing values, as far as they are given.  The aliases are written from the innermost one
outwards. -/
def PlacedKey.spelled (write : QueryText) (owner : Node) (p : PlacedKey) :
    Except Error String := do
  let column := p.node.query.orderColumn (← p.key.columnText).toList
  let outwards ← (p.node.path.drop owner.path.length).reverse.mapM (Value.plain write)
  return outwards.foldl (fun inside name => name ++ "(" ++ inside ++ ")") column ++
    (p.key.direction.elim "" ("." ++ word ·) ++ p.key.nulls.elim "" (".nulls" ++ word ·))

/-- A parameter with keys is written under the dotted path of its node; one without is not. -/
def OrderingParameter.written (write : QueryText) (p : OrderingParameter) :
    Except Error (List Pair) := do
  let path ← p.owner.dotted write
  let keys ← p.keys.mapM (PlacedKey.spelled write p.owner)
  return if p.keys.isEmpty then [] else [(path ++ "order", ",".intercalate keys)]

/-! ## The text of a key -/

section Text

variable (write : QueryText)

/-- A column is wrapped alias by alias, from the last one to the first. -/
theorem Query.wrapped_eq (path : List Value) (column : String) :
    wrapped write path column = (do
      let outwards ← path.reverse.mapM (Value.plain write)
      return outwards.foldl (fun inside name => name ++ "(" ++ inside ++ ")") column) := by
  rw [wrapped]
  induction path with
  | nil => rfl
  | cons name path ih =>
    rw [List.foldrM_cons, ih, List.reverse_cons, List.mapM_append]
    simp only [List.mapM_cons, List.mapM_nil, bind_assoc, pure_bind, List.foldl_append,
      List.foldl_cons, List.foldl_nil, nested]

theorem SortKey.written_eq (k : SortKey) (column : String) :
    k.written column =
      column ++ (k.direction.elim "" ("." ++ word ·) ++ k.nulls.elim "" (".nulls" ++ word ·)) := by
  rw [written, ending]
  cases k.direction <;> cases k.nulls <;> rfl

theorem PlacedKey.spelled_eq (owner : Node) :
    PlacedKey.spelled write owner = PlacedKey.written write owner := by
  funext p
  simp only [spelled, written, Query.wrapped_eq, SortKey.written_eq, bind_assoc, pure_bind]

end Text

/-! ## The keys of each parameter -/

section Keys

variable (write : QueryText)

/-- In the parameter of its own node a key is not wrapped. -/
theorem PlacedKey.written_self (n : Node) (k : SortKey) :
    PlacedKey.written write n ⟨n, k⟩ = n.query.orderText k := by
  rw [written, Query.orderText]
  simp [Query.wrapped]

/-- In the parameter of the root a key is wrapped in the whole path of its node. -/
theorem PlacedKey.written_root (root : Query) (n : Node) (k : SortKey) :
    PlacedKey.written write ⟨[], root⟩ ⟨n, k⟩ = Query.hoistedText write n.path n.query k := by
  rw [written, Query.hoistedText]
  rfl

theorem Node.mapM_storedKeys (n : Node) :
    n.storedKeys.mapM (PlacedKey.written write n) = n.query.ordering.mapM n.query.orderText := by
  rw [storedKeys, List.mapM_map]
  exact mapM_congr fun k _ => PlacedKey.written_self write n k

theorem Node.mapM_hoistedKeys (root : Query) (n : Node) :
    n.hoistedKeys.mapM (PlacedKey.written write ⟨[], root⟩) = n.query.topKeys write n.path := by
  rw [hoistedKeys, storedKeys, List.filter_map, List.mapM_map, Query.topKeys]
  exact mapM_congr fun k _ => PlacedKey.written_root write root n k

theorem Node.mapM_keptKeys (n : Node) :
    n.keptKeys.mapM (PlacedKey.written write n) =
      (n.query.ordering.filter fun k => !k.isTop).mapM n.query.orderText := by
  rw [keptKeys, storedKeys, List.filter_map, List.mapM_map]
  exact mapM_congr fun k _ => PlacedKey.written_self write n k

/-- The keys of the root are those of its planned parameter. -/
theorem Query.rootKeys_eq (q : Query) :
    q.rootKeys write =
      (Node.storedKeys ⟨[], q⟩ ++ q.nodes.tail.flatMap Node.hoistedKeys).mapM
        (PlacedKey.written write ⟨[], q⟩) := by
  rw [rootKeys, collectAll_nodes, List.mapM_append, Node.mapM_storedKeys, mapM_flatMap]
  simp only [foldlM_snoc, ok_bind, List.nil_append, Node.mapM_hoistedKeys]

end Keys

/-! ## The parameters -/

/-- A parameter has keys to be written exactly when it is planned with keys. -/
theorem OrderingParameter.written_eq (write : QueryText) (p : OrderingParameter) :
    p.written write = (do
      let path ← p.owner.dotted write
      return Query.keyPairs path (← p.keys.mapM (PlacedKey.written write p.owner))) := by
  rcases p with ⟨owner, keys⟩
  rw [written, PlacedKey.spelled_eq]
  cases keys with
  | nil => simp [Query.keyPairs]
  | cons k ks => simp [Query.keyPairs]

theorem Query.orderingPairs_eq (write : QueryText) (q : Query) :
    q.orderingPairs write = q.orderingPlan.flatMapM (OrderingParameter.written write) := by
  have root : Node.dotted write ⟨[], q⟩ = pure "" := by simp [Node.dotted]
  have others : Selector.collectAll (dottedBelow write) ownOrdering "" q.selectors =
      q.nodes.tail.flatMapM fun n => OrderingParameter.written write ⟨n, n.keptKeys⟩ := by
    rw [collectAll_nodes]
    apply flatMapM_congr
    intro n _
    rw [Node.foldlM_dottedBelow, OrderingParameter.written_eq]
    simp only [ownOrdering, Node.mapM_keptKeys]
  rw [orderingPairs, rootKeys_eq, orderingPlan, List.flatMapM_cons, flatMapM_map, ← others,
    OrderingParameter.written_eq, root]
  simp only [pure_bind, bind_assoc]

/-- The hoisted keys and the kept keys of a node are its stored keys. -/
theorem Node.storedKeys_perm (n : Node) : (n.hoistedKeys ++ n.keptKeys).Perm n.storedKeys :=
  List.filter_append_perm _ _

/-- The plan takes every stored key once. -/
theorem Query.orderingPlan_perm (q : Query) :
    (q.orderingPlan.flatMap OrderingParameter.keys).Perm q.storedKeys := by
  have below : (q.nodes.tail.flatMap Node.hoistedKeys ++ q.nodes.tail.flatMap Node.keptKeys).Perm
      (q.nodes.tail.flatMap Node.storedKeys) :=
    (List.flatMap_append_perm _ _ _).trans
      (List.Perm.flatMap_left _ fun n _ => n.storedKeys_perm)
  rw [storedKeys, nodes_eq, orderingPlan, List.flatMap_cons, List.flatMap_cons, List.flatMap_map,
    List.append_assoc]
  exact below.append_left _

/-! ## Typed trees -/

/-- Whether the aliases on the way to a node and the columns of its keys are texts. -/
def Node.hasTextKeys (n : Node) : Bool :=
  n.hasTextPath && n.query.ordering.all fun k => k.column.asText?.isSome

theorem SortKey.columnText_succeeds {k : SortKey} (text : k.column.asText?.isSome) :
    Succeeds k.columnText := by
  obtain ⟨s, read⟩ := Option.isSome_iff_exists.1 text
  refine ⟨s, ?_⟩
  rw [columnText]
  cases column : k.column <;> simp_all [Value.asText?]

theorem Query.wrapped_succeeds (write : QueryText) {path : List Value}
    (free : ∀ name ∈ path, name.isQuery = false) (column : String) :
    Succeeds (wrapped write path column) := by
  rw [wrapped]
  induction path with
  | nil => exact .pure column
  | cons name path ih =>
    rw [List.foldrM_cons]
    have own := Value.plain_succeeds write (free name List.mem_cons_self)
    exact (ih fun name' member => free name' (List.mem_cons_of_mem name member)).bind fun inside =>
      own.bind fun _ => .pure _

/-- Whether no query stands for an alias on the way to a node, and the columns of its keys are
texts. -/
def Node.hasQueryFreeKeys (n : Node) : Bool :=
  n.hasQueryFreePath && n.query.ordering.all fun k => k.column.asText?.isSome

theorem Node.hasQueryFreeKeys_of_hasTextKeys {n : Node} (typed : n.hasTextKeys) :
    n.hasQueryFreeKeys := by
  obtain ⟨path, columns⟩ := Bool.and_eq_true_iff.1 typed
  exact Bool.and_eq_true_iff.2 ⟨hasQueryFreePath_of_hasTextPath path, columns⟩

theorem PlacedKey.written_succeeds (write : QueryText) (owner : Node) {n : Node} {k : SortKey}
    (free : n.hasQueryFreeKeys) (stored : k ∈ n.query.ordering) :
    Succeeds (PlacedKey.written write owner ⟨n, k⟩) := by
  obtain ⟨path, columns⟩ := Bool.and_eq_true_iff.1 free
  refine (SortKey.columnText_succeeds (List.all_eq_true.1 columns k stored)).bind fun s => ?_
  refine (Query.wrapped_succeeds write (fun name inside => ?_) _).bind fun _ => .pure _
  exact Node.isQuery_of_hasQueryFreePath path (List.mem_of_mem_drop inside)

/-- The ordering of a tree can be written if no query stands for an alias, and all columns are
texts. -/
theorem Query.queryFreeOrdering_succeeds (write : QueryText) {q : Query}
    (free : ∀ n ∈ q.nodes, n.hasQueryFreeKeys) : Succeeds (q.orderingPairs write) := by
  rw [orderingPairs_eq]
  refine Succeeds.flatMapM fun p planned => ?_
  have owner : p.owner ∈ q.nodes := by
    rw [nodes_eq]
    rcases List.mem_cons.1 planned with rfl | later
    · exact List.mem_cons_self
    · obtain ⟨n, member, rfl⟩ := List.mem_map.1 later
      exact List.mem_cons_of_mem _ member
  have path := Node.dotted_succeeds write (Bool.and_eq_true_iff.1 (free p.owner owner)).1
  refine path.bind fun _ => (Succeeds.mapM fun k member => ?_).bind fun _ => .pure _
  have stored := q.orderingPlan_perm.mem_iff.1 (List.mem_flatMap.2 ⟨p, planned, member⟩)
  obtain ⟨n, visited, inside⟩ := List.mem_flatMap.1 stored
  obtain ⟨key, listed, rfl⟩ := List.mem_map.1 inside
  rw [PlacedKey.spelled_eq]
  exact PlacedKey.written_succeeds write p.owner (free n visited) listed

theorem Query.orderingPairs_succeed (write : QueryText) {q : Query}
    (typed : ∀ n ∈ q.nodes, n.hasTextKeys) : Succeeds (q.orderingPairs write) :=
  queryFreeOrdering_succeeds write fun n member =>
    Node.hasQueryFreeKeys_of_hasTextKeys (typed n member)

/-- The ordering of a tree is written as planned, and the plan takes every key that is stored in the
tree exactly once.  If the aliases and the columns of the keys are texts, it can be written. -/
theorem Query.ordering_conserved (write : QueryText) (q : Query) :
    q.orderingPairs write = q.orderingPlan.flatMapM (OrderingParameter.written write) ∧
    (q.orderingPlan.flatMap OrderingParameter.keys).Perm q.storedKeys ∧
    ((∀ n ∈ q.nodes, n.hasTextKeys) → Succeeds (q.orderingPairs write)) :=
  ⟨q.orderingPairs_eq write, q.orderingPlan_perm, orderingPairs_succeed write⟩

/-- Films by year, and then by the names of their directors and by what their agents are rated. -/
def Query.filmsByYear : Query :=
  let agent : Query := { ofResource "agents" .one with
    ordering :=
      [⟨.text "since", none, none, .null⟩, ⟨.text "rating", some .desc, none, .bool true⟩] }
  let director : Query := { ofResource "people" .one with
    selectors := [.embedded agent (.text "agent")]
    ordering := [⟨.text "name", some .asc, none, .bool true⟩, ⟨.text "born", none, none, .null⟩] }
  { ofResource "films" .many with
    selectors := [.wildcard, .embedded director (.text "director")]
    ordering := [⟨.text "year", some .desc, some .last, .null⟩] }

/-- The keys of the directors and of their agents that are marked stand behind that of the films,
each in its path of aliases, and the others in parameters of their own. -/
theorem Query.ordering_conserved_filmsByYear :
    (∀ n ∈ filmsByYear.nodes, n.hasTextKeys) ∧
      Succeeds (filmsByYear.orderingPairs fun _ => .ok "") ∧
      filmsByYear.orderingPairs (fun _ => .ok "") = .ok
        [("order", "year.desc.nullslast,director(name).asc,director(agent(rating)).desc"),
          ("director.order", "born"), ("director.agent.order", "since")] := by
  have typed : ∀ n ∈ filmsByYear.nodes, n.hasTextKeys := by decide
  obtain ⟨planned, _, succeed⟩ := ordering_conserved (fun _ => .ok "") filmsByYear
  exact ⟨typed, succeed typed, planned.trans rfl⟩

end RestQuery
