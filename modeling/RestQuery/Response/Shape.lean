import RestQuery.Query.Embedding
import RestQuery.Value.Equality

/-!
# The shape of a body

A query for many rows is answered by a list, a query for one row by anything else.  The same holds
of the embedded queries in every row: `Query.checkShape` looks for the alias of each embedding in
each row that is an object.
-/

namespace RestQuery

/-- Whether a value is a list. -/
def Value.isList : Value → Bool
  | .list _ => true
  | _ => false

/-- The rows of a body: the items of a list, or the body alone. -/
def Value.rows : Value → List Value
  | .list items => items
  | v => [v]

/-- The error for a body that does not have the shape of a cardinality. -/
def Cardinality.mismatch (c : Cardinality) : Error :=
  .incorrectCardinality (.text (word c)) (word c)

/-- Whether a value is a list exactly if many rows are expected. -/
def Cardinality.fits (c : Cardinality) (v : Value) : Bool := (c == .many) == v.isList

mutual

/-- Checks the body of a query, row after row. -/
def Query.checkShape (body : Value) : Query → Except Error Unit
  | { cardinality, selectors, .. } =>
    if cardinality.fits body then
      body.rows.forM fun row =>
        match row with
        | .dict entries => Selector.checkShapes entries selectors
        | _ => .ok ()
    else .error cardinality.mismatch

/-- Checks the values of the embeddings in a row. -/
def Selector.checkShapes (entries : List (Value × Value)) : List Selector → Except Error Unit
  | [] => .ok ()
  | s :: ss => do
    s.checkShape entries
    Selector.checkShapes entries ss

/-- Checks the value of one embedding, if the row has one. -/
def Selector.checkShape (entries : List (Value × Value)) : Selector → Except Error Unit
  | .embedded query name => do
    match ← Value.find entries (Embedding.mk query name).aliasValue with
    | none => .ok ()
    | some .null =>
      match query.cardinality with
      | .many => .error query.cardinality.mismatch
      | .one => .ok ()
    | some value => query.checkShape value
  | .misembedded _ name => do
    if !name.isGiven || (← Value.find entries name).isSome then throw .noOperation
  | .wildcard => .ok ()
  | .column _ => .ok ()
  | .modified _ _ _ => .ok ()
  | .path _ => .ok ()
  | .invalid _ => .ok ()
  | .unwritable _ => .ok ()

end

end RestQuery
