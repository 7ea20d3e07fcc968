import RestQuery.Clause.Filters
import RestQuery.SortKey

/-!
# The ordering parameters

The ordering of the root holds the keys of the root and, after them, the keys of embedded queries
that are marked as top keys, each wrapped in its path of aliases.  The other keys of an embedded
query stand in a parameter of its own.  A dotted column names a column of an embedded query.
-/

namespace RestQuery

mutual

/-- A column of the ordering: the first name of a dotted path is looked for among the embeddings,
and the rest of the path is a column of the query found. -/
def Query.orderColumn (column : List Char) : Query → String
  | { selectors, .. } =>
    match Text.splitFirst '.' column with
    | (name, some rest) =>
      (Selector.orderColumn (String.ofList name) rest selectors).getD (String.ofList column)
    | (_, none) => String.ofList column

/-- The path `name.rest` resolved through the first selector that embeds a query of this name. -/
def Selector.orderColumn (name : String) (rest : List Char) : List Selector → Option String
  | [] => none
  | s :: ss =>
    match s.orderColumnOf name rest with
    | some found => some found
    | none => Selector.orderColumn name rest ss

/-- The path `name.rest` resolved through one selector, if it embeds a query of this name. -/
def Selector.orderColumnOf (name : String) (rest : List Char) : Selector → Option String
  | .embedded query given =>
    if (Embedding.mk query given).aliasValue.asText? = some name ∨ query.resource = name then
      some (nested name (query.orderColumn rest))
    else none
  | .wildcard => none
  | .column _ => none
  | .modified _ _ _ => none
  | .path _ => none
  | .misembedded _ _ => none
  | .invalid _ => none
  | .unwritable _ => none

end

namespace Query

/-- An ordering key of a query, as the query itself writes it. -/
def orderText (q : Query) (k : SortKey) : Except Error String := do
  return k.written (q.orderColumn (← k.columnText).toList)

/-- A column inside all the embeddings of a path. -/
def wrapped (write : QueryText) (path : List Value) (column : String) : Except Error String :=
  path.foldrM (fun name inside => do return nested (← name.plain write) inside) column

/-- A key of the query at a path of aliases, as the root writes it. -/
def hoistedText (write : QueryText) (path : List Value) (q : Query) (k : SortKey) :
    Except Error String := do
  return k.written (← wrapped write path (q.orderColumn (← k.columnText).toList))

/-- The top keys of the query at a path of aliases. -/
def topKeys (write : QueryText) (path : List Value) (q : Query) : Except Error (List String) :=
  (q.ordering.filter (·.isTop)).mapM (hoistedText write path q)

/-- The keys of the ordering of the root. -/
def rootKeys (write : QueryText) (q : Query) : Except Error (List String) := do
  let own ← q.ordering.mapM q.orderText
  let hoisted ← Selector.collectAll (fun path name => .ok (path ++ [name])) (topKeys write) []
    q.selectors
  return own ++ hoisted

/-- An ordering parameter, if there are keys for it. -/
def keyPairs (path : String) (keys : List String) : List Pair :=
  if keys.isEmpty then [] else [(path ++ "order", ",".intercalate keys)]

/-- The ordering parameter of an embedded query, if it has keys of its own. -/
def ownOrdering (path : String) (q : Query) : Except Error (List Pair) := do
  return keyPairs path (← (q.ordering.filter fun k => !k.isTop).mapM q.orderText)

/-- The ordering parameters of the whole tree. -/
def orderingPairs (write : QueryText) (q : Query) : Except Error (List Pair) := do
  let root := keyPairs "" (← q.rootKeys write)
  return root ++ (← Selector.collectAll (dottedBelow write) ownOrdering "" q.selectors)

end Query

end RestQuery
