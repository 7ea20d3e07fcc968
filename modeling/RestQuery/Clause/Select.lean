import RestQuery.Query.Embedding

/-!
# The select clause

A selector is written as it was read; an embedded query is written as its resource with its own
selectors between parentheses.  A selector of unreadable shape is reported here, the first one in
depth-first order.

A list in the place of a column takes a cast as further items.  It is the list of the selector
itself that grows, each time the selector is written: `Query.afterSelect` is the query after its
select clause has been written.
-/

namespace RestQuery

/-- A column with a name and a cast.  A column that is not a text can have a name, but no cast
without one. -/
def modifiedText (write : QueryText) (column name cast : Value) : Except Error Value := do
  let named ← if name.isGiven then do
      pure (Value.text ((← name.plain write) ++ ":" ++ (← column.plain write)))
    else pure column
  if cast.isGiven then named.append ("::" ++ (← cast.plain write)) else return named

/-- What stands before the parenthesis of an embedded query. -/
def embeddedHead (write : QueryText) (name : Value) (resource : String) (inner : Bool) :
    Except Error String := do
  let rename ← if name.isGiven then do pure ((← name.plain write) ++ ":") else pure ""
  return rename ++ resource ++ (if inner then "!inner" else "")

mutual

/-- What is written for a selector.  A column or a path alone is written as the value that it is. -/
def Selector.written (write : QueryText) : Selector → Except Error Value
  | .wildcard => .ok (.text "*")
  | .column name => .ok name
  | .modified base name cast => modifiedText write base name cast
  | .path p => .ok p
  | .embedded { resource, selectors, inner, .. } name => do
    let head ← embeddedHead write name resource inner
    return .text (nested head (← joinTexts (← Selector.allWritten write selectors)))
  | .misembedded _ _ => .error .noOperation
  | .invalid payload => .error (.invalidSelect payload)
  | .unwritable _ => .error .unwritable

/-- What is written for some selectors, or the error of the first that cannot be written. -/
def Selector.allWritten (write : QueryText) : List Selector → Except Error (List Value)
  | [] => .ok []
  | s :: ss => do return (← s.written write) :: (← Selector.allWritten write ss)

end

/-- The select clause. -/
def Query.select (write : QueryText) (q : Query) : Except Error String := do
  joinTexts (← Selector.allWritten write q.selectors)

/-- A modified column after it has been written. -/
def grownColumn (write : QueryText) (column name cast : Value) : Value :=
  match column, name.isGiven, modifiedText write column name cast with
  | .list _, false, .ok grown => grown
  | _, _, _ => column

mutual

/-- A selector after it has been written. -/
def Selector.afterWriting (write : QueryText) : Selector → Selector
  | .modified base name cast => .modified (grownColumn write base name cast) name cast
  | .embedded q@{ resource, selectors, inner, .. } name =>
    match embeddedHead write name resource inner with
    | .ok _ => .embedded { q with selectors := Selector.allAfterWriting write selectors } name
    | .error _ => .embedded q name
  | s => s

/-- Selectors after they have been written, up to the first that cannot be. -/
def Selector.allAfterWriting (write : QueryText) : List Selector → List Selector
  | [] => []
  | s :: ss =>
    s.afterWriting write ::
      match s.written write with
      | .ok _ => Selector.allAfterWriting write ss
      | .error _ => ss

end

/-- A query after its select clause has been written. -/
def Query.afterSelect (write : QueryText) (q : Query) : Query :=
  { q with selectors := Selector.allAfterWriting write q.selectors }

end RestQuery
