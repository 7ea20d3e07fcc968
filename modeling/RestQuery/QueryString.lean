import RestQuery.Clause.Ordering
import RestQuery.Clause.Select
import RestQuery.Clause.Window
import RestQuery.Query.Depth
import RestQuery.Text.Form

/-!
# Query strings

The parameters of a query come in a fixed order: the select clause, filters, groups, ordering,
limits, offsets, and what only writing requests need.  `Query.encoded` writes them in form encoding
and `Query.readable` spells the same string with its percent sequences read.

A value inside a query can be a query again, whose query string stands for it.  `Query.text` writes
a query and all the queries in it in one of the two forms.  The depth of a query bounds how often it
has to be asked for the text of another one.
-/

namespace RestQuery

/-- A parameter of a query string: its name, and the value that is written for it. -/
abbrev Parameter := String × Value

namespace QueryString

/-- Pairs of texts as parameters. -/
def parameters (pairs : List Pair) : List Parameter :=
  pairs.map fun (name, value) => (name, .text value)

/-- The parameter of the select clause, where anything is selected. -/
def selectPairs (select : String) : List Pair :=
  if select.isEmpty then [] else [("select", select)]

/-- The column that tells existing rows from new ones. -/
def conflictParameters (q : Query) : List Parameter :=
  if q.onConflict.isGiven then [("on_conflict", q.onConflict)] else []

/-- The columns that are written, where they are limited. -/
def columnPairs (q : Query) : Except Error (List Pair) :=
  if q.columns.isEmpty then .ok []
  else do return [("columns", ← joinTexts q.columns)]

/-- The value of a parameter in form encoding: bytes as they are, all else as its plain text. -/
def encodeValue (write : QueryText) : Value → Except Error String
  | .bytes bytes => .ok (Text.formEncodeBytes bytes)
  | v => do return Text.formEncode (← v.plain write)

/-- A parameter in form encoding. -/
def encodeParameter (write : QueryText) (p : Parameter) : Except Error String := do
  return Text.formEncode p.1 ++ "=" ++ (← encodeValue write p.2)

/-- Parameters in form encoding. -/
def encode (write : QueryText) (ps : List Parameter) : Except Error String := do
  return "&".intercalate (← ps.mapM (encodeParameter write))

end QueryString

namespace Query

open QueryString

/-- The parameters that only writing requests need. -/
def writingParameters (q : Query) : Except Error (List Parameter) := do
  return conflictParameters q ++ QueryString.parameters (← columnPairs q)

/-- The parameters of a query.  A query that is marked as inner is no root. -/
def parameters (write : QueryText) (q : Query) : Except Error (List Parameter) := do
  if q.inner then throw (.invalidInner none)
  let select ← q.select write
  let filters ← q.filterPairs write
  let groups ← q.groupPairs write
  let ordering ← q.orderingPairs write
  let limits ← q.limitPairs write
  let offsets ← q.offsetPairs write
  return QueryString.parameters
    (selectPairs select ++ filters ++ groups ++ ordering ++ limits ++ offsets) ++
    (← q.writingParameters)

/-- The query string in form encoding. -/
def encoded (write : QueryText) (q : Query) : Except Error String := do
  encode write (← q.parameters write)

/-- The query string with its percent sequences read. -/
def readable (write : QueryText) (q : Query) : Except Error String := do
  return Text.unescape (← q.encoded write)

/-- The query string in either form. -/
def toText (write : QueryText) (q : Query) (encode : Bool) : Except Error String :=
  if encode then q.encoded write else q.readable write

/-- The query string in either form, queries inside it being written in the same form down to a
depth. -/
def textWithin (encode : Bool) : Nat → QueryText
  | 0 => fun q => .ok q.literal
  | depth + 1 => fun q => q.toText (textWithin encode depth) encode

/-- The query string in either form, queries inside it being written in the same form. -/
def text (encode : Bool) : QueryText := fun q => textWithin encode q.depth q

end Query

end RestQuery
