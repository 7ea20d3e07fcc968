import RestQuery.Query.Embedding
import RestQuery.Text.Basic

/-!
# Filters and groups

A filter is written as `operator.operand`, after `not.` if it is negated.  In a list of operands and
inside a group, an operand with a reserved character stands between quotes.  A group is written as
the filters of its queries, those of each query before the groups of it, between parentheses.

`Query.filterPairs` and `Query.groupPairs` are the parameters of a query and of all queries below it
in its embedding tree.  Writing fails where a query that stands for a text cannot be written.
-/

namespace RestQuery

/-- Items between parentheses, with commas between them. -/
def enclosed (items : List String) : String := "(" ++ ",".intercalate items ++ ")"

namespace Value

/-- The characters that are part of the grammar of filters. -/
def reserved : List Char := [',', '.', ':', '(', ')', '"', ' ']

/-- An operand as it is written where nothing needs quotes. -/
def operandText (write : QueryText) : Value → Except Error String
  | .null => .ok "null"
  | .bool true => .ok "true"
  | .bool false => .ok "false"
  | v => v.plain write

/-- Text between quotes, with a backslash before every quote inside. -/
def quote (cs : List Char) : List Char :=
  '"' :: cs.flatMap (fun c => if c = '"' then ['\\', '"'] else [c]) ++ ['"']

/-- Text that stands between quotes if it has a reserved character. -/
def shielded (s : String) : String :=
  if s.toList.any reserved.contains then String.ofList (quote s.toList) else s

/-- An operand inside a list or a group. -/
def shieldedOperand (write : QueryText) (v : Value) : Except Error String := do
  return shielded (← v.operandText write)

/-- A list of operands. -/
def operandList (write : QueryText) (vs : List Value) : Except Error String := do
  return enclosed (← vs.mapM (shieldedOperand write))

end Value

namespace Filter

/-- Whether the operand is a list. -/
def isList (f : Filter) : Bool :=
  match f.operand with
  | .tuple _ => true
  | _ => false

/-- The written operand; `inGroup` tells whether it stands inside a group. -/
def operandText (write : QueryText) (f : Filter) (inGroup : Bool) : Except Error String :=
  match f.operand with
  | .tuple items => Value.operandList write items
  | v => if inGroup then v.shieldedOperand write else v.operandText write

/-- The filter as the value of a parameter. -/
def written (write : QueryText) (f : Filter) (inGroup : Bool) : Except Error String := do
  return (if f.negated then "not." else "") ++ word f.operator ++ "." ++
    (← f.operandText write inGroup)

/-- The filter as an item of a group. -/
def inline (write : QueryText) (f : Filter) (path : String) : Except Error String := do
  return path ++ (← f.column.plain write) ++ "." ++ (← f.written write true)

/-- The filter as a parameter. -/
def pair (write : QueryText) (f : Filter) (path : String) : Except Error Pair := do
  return (path ++ (← f.column.plain write), ← f.written write false)

end Filter

/-- The place of an operator in declared order. -/
def Operator.rank (o : Operator) : Nat :=
  (Vocabulary.members : List Operator).idxOf o

/-- Filters in the declared order of their operators, those of one operator in their own order. -/
def Filter.arranged (fs : List Filter) : List Filter :=
  fs.mergeSort fun f g => decide (f.operator.rank ≤ g.operator.rank)

/-- The name under which a group is written. -/
def FilterGroup.key (g : FilterGroup) : String :=
  (if g.negated then "not." else "") ++ word g.connective

section Flattening

variable {α : Type} (condition : Filter → Except Error α) (group : FilterGroup → List α → α)

mutual

/-- The items of a group in the order in which they are written: one for each filter of its queries,
and one for each group in them, made from the items inside it. -/
def FilterGroup.flattened : FilterGroup → Except Error (List α)
  | { queries, .. } => Query.allFlattened queries

/-- The items for some groups. -/
def FilterGroup.allFlattened : List FilterGroup → Except Error (List α)
  | [] => .ok []
  | g :: gs => do return group g (← g.flattened) :: (← FilterGroup.allFlattened gs)

/-- The items for the filters and groups of a query. -/
def Query.flattened : Query → Except Error (List α)
  | { filters, conjunctions, disjunctions, .. } => do
    return (← (Filter.arranged filters).mapM condition) ++
      (← FilterGroup.allFlattened conjunctions) ++ (← FilterGroup.allFlattened disjunctions)

/-- The items for some queries, in order. -/
def Query.allFlattened : List Query → Except Error (List α)
  | [] => .ok []
  | q :: qs => do return (← q.flattened) ++ (← Query.allFlattened qs)

end

end Flattening

/-- The written content of a group: a group in it stands behind its name. -/
def FilterGroup.content (write : QueryText) (g : FilterGroup) : Except Error String := do
  let items ← g.flattened (fun f => f.inline write "") fun h items => h.key ++ enclosed items
  return enclosed items

namespace Query

/-- The parameters for the filters of a query at a path. -/
def ownFilterPairs (write : QueryText) (path : String) (q : Query) : Except Error (List Pair) :=
  (Filter.arranged q.filters).mapM fun f => f.pair write path

/-- The parameters for the groups of a query at a path. -/
def ownGroupPairs (write : QueryText) (path : String) (q : Query) : Except Error (List Pair) :=
  q.groups.mapM fun g => do return (path ++ g.key, ← g.content write)

/-- The parameters for the filters of the whole tree. -/
def filterPairs (write : QueryText) (q : Query) : Except Error (List Pair) :=
  q.collect (dottedBelow write) (ownFilterPairs write) ""

/-- The parameters for the groups of the whole tree. -/
def groupPairs (write : QueryText) (q : Query) : Except Error (List Pair) :=
  q.collect (dottedBelow write) (ownGroupPairs write) ""

end Query

end RestQuery
