import RestQuery.Error
import RestQuery.Text.Basic

/-!
# Reading selectors

`Selector.readAll` reads what a caller selects.  A list is read item by item, unless it is a pair of
one item and its modifier.  What has no readable shape becomes `Selector.invalid` and is reported
when the clause is written, so reading does not fail.  In the restricted mode only columns and paths
to a JSON value are let through, and a path that holds nothing to look into is an error.
-/

namespace RestQuery

/-- Whether a value is a mapping that gives a name or a cast. -/
def Value.isModifier : Value → Bool
  | .dict entries => (Value.member entries "name").isGiven || (Value.member entries "cast").isGiven
  | _ => false

/-- The item and the entries of the modifier, where a value is such a pair. -/
def Value.modifierPair? (v : Value) : Option (Value × List (Value × Value)) :=
  match v.sequence? with
  | some [target, .dict entries] =>
    if (Value.dict entries).isModifier then some (target, entries) else none
  | _ => none

/-- A value, or `null` where it does not count as given. -/
def Value.givenOrNull (v : Value) : Value := if v.isGiven then v else .null

namespace Selector

/-- The arrow of a JSON path. -/
def jsonArrow : String := "->"

/-- The arrow that extracts a value as text. -/
def textArrow : String := "->>"

/-- The payload that is kept of an unreadable item: a list as a tuple. -/
def payloadOf : Value → Value
  | .list items => .tuple items
  | v => v

/-- The column that holds the data of a path, which must be a text. -/
def pathColumn (path : Value) : Except Error String :=
  let rec before : List Char → List Char
    | '-' :: '>' :: _ => []
    | c :: cs => c :: before cs
    | [] => []
  match path with
  | .bytes _ => .error .wrongType
  | v =>
    match v.asText? with
    | some s => .ok (String.ofList (before s.toList))
    | none => .error .noOperation

/-- Whether the last value of a path is extracted as text.  A path that is not a text is looked into
for the arrow as an item or a key. -/
def extractsText (path : Value) : Except Error Bool :=
  match path with
  | .list items | .tuple items => .ok (items.any (·.isKey textArrow))
  | .dict entries => .ok (entries.any (·.1.isKey textArrow))
  | v =>
    match v.asText? with
    | some s => .ok (Text.contains s textArrow)
    | none => .error .wrongType

/-- Reads a text; `given` is the value that it came as. -/
def readText (given : Value) (s : String) : Selector :=
  if s = "*" then .wildcard
  else if Text.contains s jsonArrow then .path given
  else .column given

/-- Reads a text where neither all columns nor the extraction of a text may be asked for. -/
def readJsonText (given : Value) (s : String) : Selector :=
  if s = "*" || Text.contains s textArrow then .invalid given else readText given s

/-- Reads an item and its modifier.  A query can be renamed but not cast. -/
def readModified (given target : Value) (entries : List (Value × Value)) : Selector :=
  let name := (Value.member entries "name").givenOrNull
  let cast := (Value.member entries "cast").givenOrNull
  match target with
  | .query q =>
    if name.isGiven && !cast.isGiven then .embedded q name else .invalid (payloadOf given)
  | _ =>
    match target.asText? with
    | some s => if s = "*" then .invalid (payloadOf given) else .modified target name cast
    | none => .invalid (payloadOf given)

/-- Reads one item. -/
def read (given : Value) : Selector :=
  match given with
  | .selector s => s
  | .query q => .embedded q .null
  | _ =>
    match given.asText?, given.modifierPair? with
    | some s, _ => readText given s
    | none, some (target, entries) => readModified given target entries
    | none, none => .invalid (payloadOf given)

/-- Reads one item where only columns and paths to a JSON value are let through. -/
def readJson (given : Value) : Except Error Selector :=
  match given with
  | .selector (.column name) => .ok (.column name)
  | .selector (.path p) => do return if ← extractsText p then .invalid given else .path p
  | .selector _ => .ok (.invalid given)
  | _ =>
    match given.asText? with
    | some s => .ok (readJsonText given s)
    | none => .ok (.invalid (payloadOf given))

/-- The values that are read one by one: the items of a list that is not a modified item. -/
def itemsOf (given : Value) : List Value :=
  match given.sequence?, given.modifierPair? with
  | some items, none => items
  | _, _ => [given]

/-- Reads a selection. -/
def readAll (given : Value) : List Selector := (itemsOf given).map read

/-- Reads a selection where only columns and paths to a JSON value are let through. -/
def readAllJson (given : Value) : Except Error (List Selector) := (itemsOf given).mapM readJson

end Selector

end RestQuery
