import RestQuery.Value.Plain

/-!
# The tree of embedded queries

A query embeds other queries through its selectors, each under an alias: the name that it was given,
or its resource.  `Query.nodes` lists the queries of the tree in depth-first order, the root first,
each with the path of aliases that leads to it.  `Query.collect` runs through the tree and carries
along whatever stands for that path.
-/

namespace RestQuery

/-- A name with text in parentheses behind it, as all that stands inside an embedding is written. -/
def nested (name inside : String) : String := name ++ "(" ++ inside ++ ")"

/-- A query that another one embeds. -/
structure Embedding where
  query : Query
  name : Value

/-- The name under which the rows of an embedded query appear. -/
def Embedding.aliasValue (e : Embedding) : Value :=
  if e.name.isGiven then e.name else .text e.query.resource

/-- The embedding of a selector that has one. -/
def Selector.embedding? : Selector → Option Embedding
  | .embedded query name => some ⟨query, name⟩
  | _ => none

/-- The embedded queries, in the order in which they were selected. -/
def Query.embeddings (q : Query) : List Embedding := q.selectors.filterMap Selector.embedding?

/-- A query of an embedding tree, with the aliases on the way to it. -/
structure Node where
  path : List Value
  query : Query

mutual

/-- The nodes below a selector. -/
def Selector.nodesUnder (path : List Value) : Selector → List Node
  | .embedded query name => query.nodesFrom (path ++ [Embedding.aliasValue ⟨query, name⟩])
  | .wildcard => []
  | .column _ => []
  | .modified _ _ _ => []
  | .path _ => []
  | .misembedded _ _ => []
  | .invalid _ => []
  | .unwritable _ => []

/-- The nodes below some selectors, in order. -/
def Selector.allNodesUnder (path : List Value) : List Selector → List Node
  | [] => []
  | s :: ss => s.nodesUnder path ++ Selector.allNodesUnder path ss

/-- A query with the nodes below it, in depth-first order. -/
def Query.nodesFrom (path : List Value) : Query → List Node
  | q@{ selectors, .. } => ⟨path, q⟩ :: Selector.allNodesUnder path selectors

end

/-- The nodes of the embedding tree in depth-first order, the root first. -/
def Query.nodes (q : Query) : List Node := q.nodesFrom []

/-- The written path of aliases, with a dot after each. -/
def Node.dotted (write : QueryText) (n : Node) : Except Error String := do
  return String.join ((← n.path.mapM (Value.plain write)).map (· ++ "."))

section Collecting

variable {π α : Type} (extend : π → Value → Except Error π)
  (emit : π → Query → Except Error (List α))

mutual

/-- What is emitted below a selector: the path is extended by the alias of the embedded query. -/
def Selector.collect (path : π) : Selector → Except Error (List α)
  | .embedded query name => do
    query.collect (← extend path (Embedding.aliasValue ⟨query, name⟩))
  | .wildcard => .ok []
  | .column _ => .ok []
  | .modified _ _ _ => .ok []
  | .path _ => .ok []
  | .misembedded _ _ => .ok []
  | .invalid _ => .ok []
  | .unwritable _ => .ok []

/-- What is emitted below some selectors, in order. -/
def Selector.collectAll (path : π) : List Selector → Except Error (List α)
  | [] => .ok []
  | s :: ss => do return (← s.collect path) ++ (← Selector.collectAll path ss)

/-- What is emitted for a query at a path, and then for the queries below it. -/
def Query.collect (path : π) : Query → Except Error (List α)
  | q@{ selectors, .. } => do
    return (← emit path q) ++ (← Selector.collectAll path selectors)

end

end Collecting

/-- The written path of aliases, one alias further down. -/
def dottedBelow (write : QueryText) (path : String) (name : Value) : Except Error String := do
  return path ++ (← name.plain write) ++ "."

theorem Query.nodesFrom_eq (path : List Value) (q : Query) :
    q.nodesFrom path = ⟨path, q⟩ :: Selector.allNodesUnder path q.selectors := by
  cases q
  rfl

theorem Selector.allNodesUnder_eq (path : List Value) (ss : List Selector) :
    Selector.allNodesUnder path ss =
      (ss.filterMap Selector.embedding?).flatMap fun e =>
        e.query.nodesFrom (path ++ [e.aliasValue]) := by
  induction ss with
  | nil => simp [allNodesUnder]
  | cons s ss ih =>
    cases s <;> simp [allNodesUnder, nodesUnder, embedding?, List.filterMap_cons, ih]

/-- A query comes before the nodes of its embeddings, which come in the order of selection. -/
theorem Query.nodesFrom_embeddings (path : List Value) (q : Query) :
    q.nodesFrom path =
      ⟨path, q⟩ :: q.embeddings.flatMap fun e => e.query.nodesFrom (path ++ [e.aliasValue]) := by
  rw [nodesFrom_eq, Selector.allNodesUnder_eq, embeddings]

end RestQuery
