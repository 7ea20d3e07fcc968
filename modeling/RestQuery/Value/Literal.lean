import RestQuery.Number.Shortest
import RestQuery.Text.Quoted
import RestQuery.Value.Basic

/-!
# Literals

The literal of a value shows its kind as well as its content: a text stands between quotes, a
decimal number is marked as one, and a query is shown with all its parts.
-/

namespace RestQuery

/-- Texts with commas between them. -/
def commaSeparated (items : List String) : String := ", ".intercalate items

/-- A tuple; the single item of a tuple is followed by a comma. -/
def tupleText : List String → String
  | [item] => "(" ++ item ++ ",)"
  | items => "(" ++ commaSeparated items ++ ")"

/-- A record with named fields. -/
def recordText (title : String) (fields : List (String × String)) : String :=
  title ++ "(" ++ commaSeparated (fields.map fun (name, value) => name ++ "=" ++ value) ++ ")"

def truthText (b : Bool) : String := if b then "True" else "False"

def tokenText {α : Type} [Vocabulary α] (a : α) : String :=
  Vocabulary.title α ++ "." ++ Vocabulary.label a

def optionText {α : Type} (write : α → String) : Option α → String
  | some a => write a
  | none => "None"

mutual

def Value.literal : Value → String
  | .null => "None"
  | .bool b => truthText b
  | .int i => toString i
  | .float x => x.text
  | .decimal d => "Decimal(" ++ Text.quoted d.text ++ ")"
  | .text s => Text.quoted s
  | .bytes bs => Text.quotedBytes bs
  | .token t => t.name
  | .list items => "[" ++ commaSeparated (Value.literals items) ++ "]"
  | .tuple items => tupleText (Value.literals items)
  | .dict entries => "\x7b" ++ commaSeparated (Value.entryLiterals entries) ++ "\x7d"
  | .query q => q.literal
  | .negation q _ => "<NegatedQuery: " ++ q.literal ++ ">"
  | .selector s => s.literal
  | .sortKey k => k.literal

def Value.literals : List Value → List String
  | [] => []
  | v :: vs => v.literal :: Value.literals vs

def Value.entryLiterals : List (Value × Value) → List String
  | [] => []
  | (k, v) :: es => (k.literal ++ ": " ++ v.literal) :: Value.entryLiterals es

def Selector.literal : Selector → String
  | .wildcard => "Wildcard()"
  | .column name => recordText "Column" [("column", name.literal)]
  | .modified column name cast =>
    recordText "ModifiedColumn"
      [("column", column.literal), ("name", name.literal), ("cast", cast.literal)]
  | .path p => recordText "JsonPath" [("path", p.literal)]
  | .embedded q name => recordText "Embedded" [("query", q.literal), ("name", name.literal)]
  | .misembedded content name =>
    recordText "Embedded" [("query", content.literal), ("name", name.literal)]
  | .invalid payload => recordText "InvalidSelector" [("payload", payload.literal)]
  | .unwritable _ => "<Selector>"

def Selector.literals : List Selector → List String
  | [] => []
  | s :: ss => s.literal :: Selector.literals ss

def Filter.literal : Filter → String
  | { operator, column, operand, negated } =>
    recordText "Filter"
      [("operator", tokenText operator), ("column", column.literal),
       ("value", operand.literal), ("negated", truthText negated)]

def Filter.literals : List Filter → List String
  | [] => []
  | f :: fs => f.literal :: Filter.literals fs

def FilterGroup.literal : FilterGroup → String
  | { connective, queries, negated } =>
    recordText "LogicalGroup"
      [("operator", tokenText connective), ("queries", tupleText (Query.literals queries)),
       ("negated", truthText negated)]

def FilterGroup.literals : List FilterGroup → List String
  | [] => []
  | g :: gs => g.literal :: FilterGroup.literals gs

def SortKey.literal : SortKey → String
  | { column, direction, nulls, top } =>
    recordText "Order"
      [("column", column.literal), ("direction", optionText tokenText direction),
       ("nulls", optionText tokenText nulls), ("top", top.literal)]

def SortKey.literals : List SortKey → List String
  | [] => []
  | k :: ks => k.literal :: SortKey.literals ks

def Query.literals : List Query → List String
  | [] => []
  | q :: qs => q.literal :: Query.literals qs

def Query.literal : Query → String
  | { resource, cardinality, selectors, filters, conjunctions, disjunctions, ordering, window,
      preferences, schema, onConflict, columns, inner } =>
    "<Query: " ++
      recordText "QueryData"
        [("resource", Text.quoted resource),
         ("cardinality", tokenText cardinality),
         ("selectors", tupleText (Selector.literals selectors)),
         ("filters", tupleText (Filter.literals filters)),
         ("and_groups", tupleText (FilterGroup.literals conjunctions)),
         ("or_groups", tupleText (FilterGroup.literals disjunctions)),
         ("ordering", tupleText (SortKey.literals ordering)),
         ("offset", toString window.offset),
         ("limit", optionText toString window.limit),
         ("count", optionText tokenText preferences.count),
         ("returning", optionText tokenText preferences.returning),
         ("resolution", optionText tokenText preferences.resolution),
         ("missing", optionText tokenText preferences.missing),
         ("schema", schema.literal),
         ("on_conflict", onConflict.literal),
         ("columns", tupleText (Value.literals columns)),
         ("inner", truthText inner)] ++
      ">"

end

end RestQuery
