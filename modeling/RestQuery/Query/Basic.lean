import RestQuery.Number.Binary64
import RestQuery.Number.Decimal
import RestQuery.Vocabulary

/-!
# Queries and the values in them

A `Query` describes one request against a resource.  It is built from values that the caller hands
in as they are: the column and the operand of a filter, a name in a modifier, the column of an
ordering key or the payload of an unreadable selector can be any `Value`, and a value can again be a
query.  So values, selectors, filters, ordering keys, groups and queries are one mutual family.

Some values have no content by which they could be compared, and are equal to themselves alone.  A
serial number tells them apart.
-/

namespace RestQuery

/-- The part of the rows that is asked for. -/
structure Window where
  offset : Int
  limit : Option Int
deriving DecidableEq

/-- What a request asks of the server besides the rows. -/
structure Preferences where
  count : Option Count
  returning : Option Returning
  resolution : Option Resolution
  missing : Option Missing
deriving DecidableEq

mutual

/-- A value that a caller can hand in, or that a reply can hold.  A `negation` is a query that is to
take one negated filter or group. -/
inductive Value where
  | null
  | bool (b : Bool)
  | int (i : Int)
  | float (x : Binary64)
  | decimal (d : Decimal)
  | text (s : String)
  | bytes (bytes : List UInt8)
  | token (t : Token)
  | list (items : List Value)
  | tuple (items : List Value)
  | dict (entries : List (Value × Value))
  | query (q : Query)
  | negation (q : Query) (serial : Nat)
  | selector (s : Selector)
  | sortKey (k : SortKey)

/-- An item of the select clause.  A column and a path are kept as they were given, and so are the
names in a modifier, where `null` stands for none.  `misembedded` stands for the embedding of
something that is not a query, `invalid` keeps an unreadable item until the clause is written, and
`unwritable` is a selector without any written form. -/
inductive Selector where
  | wildcard
  | column (name : Value)
  | modified (column name cast : Value)
  | path (path : Value)
  | embedded (query : Query) (name : Value)
  | misembedded (content name : Value)
  | invalid (payload : Value)
  | unwritable (serial : Nat)

/-- A condition on one column. -/
structure Filter where
  operator : Operator
  column : Value
  operand : Value
  negated : Bool

/-- The filters and groups of some queries, joined by a connective. -/
structure FilterGroup where
  connective : Connective
  queries : List Query
  negated : Bool

/-- A key of the ordering.  If `top` counts as given, the key of an embedded query moves to the
ordering of the root. -/
structure SortKey where
  column : Value
  direction : Option Direction
  nulls : Option NullsPlace
  top : Value

/-- A request against one resource.  The schema and the column for conflicts are `null` where there
is none. -/
structure Query where
  resource : String
  cardinality : Cardinality
  selectors : List Selector
  filters : List Filter
  conjunctions : List FilterGroup
  disjunctions : List FilterGroup
  ordering : List SortKey
  window : Window
  preferences : Preferences
  schema : Value
  onConflict : Value
  columns : List Value
  inner : Bool

end

instance : Inhabited Value := ⟨.null⟩

instance : Inhabited Selector := ⟨.wildcard⟩

namespace Preferences

/-- Nothing is asked for. -/
def none : Preferences := ⟨Option.none, Option.none, Option.none, Option.none⟩

end Preferences

namespace Query

/-- The query for all rows of a resource. -/
def ofResource (resource : String) (cardinality : Cardinality) : Query where
  resource := resource
  cardinality := cardinality
  selectors := []
  filters := []
  conjunctions := []
  disjunctions := []
  ordering := []
  window := ⟨0, none⟩
  preferences := .none
  schema := .null
  onConflict := .null
  columns := []
  inner := false

instance : Inhabited Query := ⟨ofResource "" .many⟩

/-- The groups of a query, conjunctions first. -/
def groups (q : Query) : List FilterGroup := q.conjunctions ++ q.disjunctions

end Query

end RestQuery
