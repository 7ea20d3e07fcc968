import RestQuery.SortKey
import RestQuery.Selector
import RestQuery.Value.Equality

/-!
# Calls

A query is described step by step.  A `Call` is one step, `Call.apply` its effect on a query: every
call leaves the query as it was and gives a new one, or the cause why it cannot.  `Call.run` makes a
run of calls.  `Call.named` finds the call of a name, where `not_.` in front negates a filter or a
group.
-/

namespace RestQuery

/-- The queries of a group: given, or built from a fresh query of the same resource. -/
inductive Children where
  | given (value : Value)
  | built (build : Query → Except Error Value)

/-- One step in the description of a query. -/
inductive Call where
  | filter (operator : Operator) (column operand : Value) (negated : Bool)
  | group (connective : Connective) (children : Children) (negated : Bool)
  | select (given : Value)
  | selectJson (given : Value)
  | order (given : Value)
  | offset (given : Value)
  | limit (given : Value)
  | page (number size : Value)
  | columns (given : Value)
  | count (given : Value)
  | returning (given : Value)
  | onConflict (resolution column : Value)
  | missing (given : Value)
  | schema (name : Value)
  | single
  | inner

namespace Call

/-- The whole number of a value. -/
def index (v : Value) : Except Error Int :=
  match v.index? with
  | some i => .ok i
  | none => .error .wrongType

/-- The items of a value. -/
def items (v : Value) : Except Error (List Value) :=
  match v.items? with
  | some vs => .ok vs
  | none => .error .wrongType

/-- The operand that a filter keeps: of a list filter, the items as a tuple. -/
def operandOf (write : QueryText) (operator : Operator) (column v : Value) : Except Error Value :=
  match operator with
  | .isIn =>
    match v with
    | .text _ | .token _ | .bytes _ => do throw (.textInPlaceOfList (← column.plain write))
    | _ => do return .tuple (← items v)
  | _ => .ok v

/-- The query that a value is. -/
def queryOf (connective : Connective) (v : Value) : Except Error Query :=
  match v with
  | .query q => .ok q
  | _ => .error (.notAQuery connective v)

/-- The queries of a group. -/
def queriesOf (connective : Connective) (children : Children) (resource : String) :
    Except Error (List Query) := do
  let given ← match children with
    | .given v => Except.ok v
    | .built build => build (.ofResource resource .many)
  (← items given).mapM (queryOf connective)

/-- Selectors with further ones behind them, of which those that are equal to an earlier one are
left out; an error if one cannot be compared. -/
def addSelectors (present further : List Selector) : Except Error (List Selector) :=
  further.foldlM (fun kept s => do if ← s.among kept then return kept else return kept ++ [s])
    present

/-- The effect of a call.  A page without a size has the size `pageSize`, and `write` gives the text
of a query that an error names. -/
def apply (write : QueryText) (pageSize : Value) (q : Query) : Call → Except Error Query
  | .filter operator column operand negated => do
    let operand ← operandOf write operator column operand
    return { q with filters := q.filters ++ [⟨operator, column, operand, negated⟩] }
  | .group connective children negated => do
    let queries ← queriesOf connective children q.resource
    let group : FilterGroup := ⟨connective, queries, negated⟩
    return match connective with
      | .and => { q with conjunctions := q.conjunctions ++ [group] }
      | .or => { q with disjunctions := q.disjunctions ++ [group] }
  | .select given => do
    return { q with selectors := ← addSelectors q.selectors (Selector.readAll given) }
  | .selectJson given => do
    return { q with selectors := ← addSelectors q.selectors (← Selector.readAllJson given) }
  | .order given => do return { q with ordering := q.ordering ++ (← SortKey.readAll given) }
  | .offset given => do return { q with window := { q.window with offset := ← index given } }
  | .limit given => do return { q with window := { q.window with limit := some (← index given) } }
  | .page number size => do
    let number ← index number
    let size ← index (match size with
      | .null => pageSize
      | _ => size)
    return { q with window := ⟨number * size, some size⟩ }
  | .columns given => do
    let further ← match given.asText? with
      | some _ => Except.ok [given]
      | none => items given
    return { q with columns := q.columns ++ further }
  | .count given => do
    return { q with
      preferences := { q.preferences with count := some (← Vocabulary.read _ given) } }
  | .returning given => do
    return { q with
      preferences := { q.preferences with returning := some (← Vocabulary.read _ given) } }
  | .onConflict resolution column => do
    return { q with
      preferences := { q.preferences with resolution := some (← Vocabulary.read _ resolution) }
      onConflict := column }
  | .missing given => do
    return { q with
      preferences := { q.preferences with missing := some (← Vocabulary.read _ given) } }
  | .schema name => .ok { q with schema := name }
  | .single => .ok { q with cardinality := .one }
  | .inner => .ok { q with inner := true }

/-- The effect of a run of calls. -/
def run (write : QueryText) (pageSize : Value) (q : Query) (calls : List Call) :
    Except Error Query :=
  calls.foldlM (apply write pageSize) q

end Call

/-- The query for a resource, with a cardinality given as a value. -/
def Query.start (resource : String) (cardinality : Value) : Except Error Query := do
  return .ofResource resource (← Vocabulary.read _ cardinality)

end RestQuery
