import RestQuery.Clause.Filters
import RestQuery.SortKey

/-!
# Snapshots

The snapshot of a query is a plain object of all its settings, with the filters of every operator
and the queries inside groups and embeddings.  Optional settings that are not given are left out.
Its JSON text has sorted keys, so it can be a key of a store.
-/

namespace RestQuery

/-- A list with the operand of every filter of one operator. -/
def Filter.snapshot (f : Filter) : Value :=
  .list
    [f.column,
     match f.operand with
      | .tuple items => .list items
      | v => v,
     .bool f.negated]

/-- The filters of every operator, in declared order of the operators. -/
def Filter.snapshots (fs : List Filter) : List (String × Value) :=
  (Vocabulary.members : List Operator).map fun op =>
    (word op, .list ((fs.filter fun f => f.operator = op).map Filter.snapshot))

/-- An optional member of a vocabulary as a field, left out where it is not given. -/
def optionalField {α : Type} [Vocabulary α] (name : String) : Option α → List (String × Value)
  | some a => [(name, .text (word a))]
  | none => []

/-- A value as a field, left out where it is `null`. -/
def valueField (name : String) : Value → List (String × Value)
  | .null => []
  | v => [(name, v)]

/-- The name and the cast of a modifier, as far as they are given. -/
def modifierFields (name cast : Value) : List (String × Value) :=
  (if name.isGiven then [("name", name)] else []) ++ (if cast.isGiven then [("cast", cast)] else [])

mutual

/-- A selector in a snapshot. -/
def Selector.snapshot : Selector → Except Error Value
  | .wildcard => .ok (.text "*")
  | .column name => .ok name
  | .modified base name cast =>
    .ok (Value.object [("column", base), ("modifier", Value.object (modifierFields name cast))])
  | .path p => .ok p
  | .embedded query name => do
    let inside ← query.snapshot
    if name.isGiven then
      return Value.object [("query", inside), ("modifier", Value.object [("name", name)])]
    else return inside
  | .misembedded _ _ => .error .noOperation
  | .invalid payload => .error (.invalidSelect payload)
  | .unwritable _ => .error .unwritable

def Selector.snapshots : List Selector → Except Error (List Value)
  | [] => .ok []
  | s :: ss => do return (← s.snapshot) :: (← Selector.snapshots ss)

/-- A group in a snapshot: its queries and whether it is negated. -/
def FilterGroup.snapshot : FilterGroup → Except Error Value
  | { queries, negated, .. } => do
    return .list [.list (← Query.snapshots queries), .bool negated]

def FilterGroup.snapshots : List FilterGroup → Except Error (List Value)
  | [] => .ok []
  | g :: gs => do return (← g.snapshot) :: (← FilterGroup.snapshots gs)

def Query.snapshots : List Query → Except Error (List Value)
  | [] => .ok []
  | q :: qs => do return (← q.snapshot) :: (← Query.snapshots qs)

/-- All settings of a query as a plain object. -/
def Query.snapshot : Query → Except Error Value
  | { resource, cardinality, selectors, filters, conjunctions, disjunctions, ordering, window,
      preferences, schema, onConflict, columns, inner } => do
    let select ← Selector.snapshots selectors
    let ands ← FilterGroup.snapshots conjunctions
    let ors ← FilterGroup.snapshots disjunctions
    return Value.object <|
      [("resource", .text resource), ("cardinality", .text (word cardinality)),
       ("select", .list select)] ++
      Filter.snapshots filters ++
      [("and", .list ands), ("or", .list ors), ("order", .list (ordering.map SortKey.snapshot)),
       ("offset", .int window.offset)] ++
      (match window.limit with
        | some limit => [("limit", .int limit)]
        | none => []) ++
      optionalField "count" preferences.count ++
      optionalField "returning" preferences.returning ++
      optionalField "resolution" preferences.resolution ++
      optionalField "missing" preferences.missing ++
      valueField "schema" schema ++
      valueField "on_conflict" onConflict ++
      [("columns", .list columns), ("inner", .bool inner)]

end

/-- The snapshot as JSON with sorted keys. -/
def Query.json (write : QueryText) (q : Query) : Except Error String := do
  match Json.write? (Json.Fallback.plain write) true (← q.snapshot) with
  | some text => return text
  | none => throw .wrongType

end RestQuery
