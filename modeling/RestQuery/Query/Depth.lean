import RestQuery.Query.Basic

/-!
# How deep queries stand inside each other

A query can hold further queries: in its embeddings, in its groups, and as values anywhere.
`Query.depth` counts how many stand inside each other, the query itself included, so whatever a
query holds has a smaller depth.
-/

namespace RestQuery

mutual

/-- The depth of the queries in a value. -/
def Value.depth : Value → Nat
  | .list items => Value.depthAll items
  | .tuple items => Value.depthAll items
  | .dict entries => Value.depthEntries entries
  | .query q => q.depth
  | .negation q _ => q.depth
  | .selector s => s.depth
  | .sortKey k => k.depth
  | .null => 0
  | .bool _ => 0
  | .int _ => 0
  | .float _ => 0
  | .decimal _ => 0
  | .text _ => 0
  | .bytes _ => 0
  | .token _ => 0

def Value.depthAll : List Value → Nat
  | [] => 0
  | v :: vs => max v.depth (Value.depthAll vs)

def Value.depthEntries : List (Value × Value) → Nat
  | [] => 0
  | (k, v) :: es => max (max k.depth v.depth) (Value.depthEntries es)

def Selector.depth : Selector → Nat
  | .wildcard => 0
  | .column name => name.depth
  | .modified column name cast => max column.depth (max name.depth cast.depth)
  | .path p => p.depth
  | .embedded q name => max q.depth name.depth
  | .misembedded content name => max content.depth name.depth
  | .invalid payload => payload.depth
  | .unwritable _ => 0

def Selector.depthAll : List Selector → Nat
  | [] => 0
  | s :: ss => max s.depth (Selector.depthAll ss)

def Filter.depth : Filter → Nat
  | { column, operand, .. } => max column.depth operand.depth

def Filter.depthAll : List Filter → Nat
  | [] => 0
  | f :: fs => max f.depth (Filter.depthAll fs)

def FilterGroup.depth : FilterGroup → Nat
  | { queries, .. } => Query.depthAll queries

def FilterGroup.depthAll : List FilterGroup → Nat
  | [] => 0
  | g :: gs => max g.depth (FilterGroup.depthAll gs)

def SortKey.depth : SortKey → Nat
  | { column, top, .. } => max column.depth top.depth

def SortKey.depthAll : List SortKey → Nat
  | [] => 0
  | k :: ks => max k.depth (SortKey.depthAll ks)

def Query.depthAll : List Query → Nat
  | [] => 0
  | q :: qs => max q.depth (Query.depthAll qs)

/-- The number of queries that stand inside each other, this one being the outermost. -/
def Query.depth : Query → Nat
  | { selectors, filters, conjunctions, disjunctions, ordering, schema, onConflict, columns, .. } =>
    1 + max (max (Selector.depthAll selectors) (Filter.depthAll filters))
      (max (max (FilterGroup.depthAll conjunctions) (FilterGroup.depthAll disjunctions))
        (max (SortKey.depthAll ordering)
          (max (max schema.depth onConflict.depth) (Value.depthAll columns))))

end

end RestQuery
