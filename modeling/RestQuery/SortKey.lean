import RestQuery.Value.Plain

/-!
# Reading ordering keys

An ordering key is given as a text, as a mapping or as a key.  `SortKey.written` writes the key for
a column text, which for a key of an embedded query is not its own column, and `SortKey.shown`
writes it for a column of any kind.
-/

namespace RestQuery.SortKey

/-- The entries of a mapping for an ordering key; `order` is another name of `direction`. -/
def keys : List String := ["column", "direction", "order", "nulls", "top"]

/-- The key of a column alone. -/
def ofColumn (column : Value) : SortKey := ⟨column, none, none, .bool false⟩

/-- The member that a value stands for, if there is a value. -/
def readOptional (α : Type) [Vocabulary α] : Value → Except Error (Option α)
  | .null => .ok none
  | v => do return some (← Vocabulary.read α v)

/-- The names of the entries that no ordering key has, in order; an error if one is not a text. -/
def unknownKeys (entries : List (Value × Value)) : Except Error (List String) := do
  let unknown := entries.filter fun e => !keys.any fun k => e.1.isKey k
  let names ← unknown.mapM fun e => e.1.requireText
  return names.mergeSort Text.atMost

/-- The key of a column with a direction, a place of missing values and a mark as values. -/
def ofParts (column direction nulls top : Value) : Except Error SortKey := do
  let direction ← readOptional Direction direction
  let nulls ← readOptional NullsPlace nulls
  return ⟨column, direction, nulls, top⟩

/-- Reads the entries of a mapping, where the mark becomes a truth value. -/
def ofEntries (entries : List (Value × Value)) : Except Error SortKey := do
  let unknown ← unknownKeys entries
  if unknown.isEmpty then
    match Value.member? entries "column" with
    | some column =>
      ofParts column
        ((Value.member? entries "direction").getD (Value.member entries "order"))
        (Value.member entries "nulls") (.bool (Value.member entries "top").isGiven)
    | none => throw .missingKey
  else .error (.unknownOrderingKeys unknown)

/-- Reads an ordering key. -/
def read : Value → Except Error SortKey
  | .sortKey k => .ok k
  | .dict entries => ofEntries entries
  | v =>
    match v.asText? with
    | some _ => .ok (ofColumn v)
    | none => .error (.invalidOrdering v)

/-- Whether a value is one ordering key and not a run of them. -/
def isSingle : Value → Bool
  | .sortKey _ | .dict _ | .text _ | .token _ => true
  | _ => false

/-- Reads ordering keys: one, or all items of a run. -/
def readAll (given : Value) : Except Error (List SortKey) :=
  if isSingle given then return [← read given]
  else
    match given.items? with
    | some items => items.mapM read
    | none => .error .wrongType

/-- Whether a key moves to the ordering of the root. -/
def isTop (k : SortKey) : Bool := k.top.isGiven

/-- What is written behind the column. -/
def ending (k : SortKey) : String :=
  (match k.direction with
    | some d => "." ++ word d
    | none => "") ++
  (match k.nulls with
    | some n => ".nulls" ++ word n
    | none => "")

/-- The written key, the column being written as `column`. -/
def written (k : SortKey) (column : String) : String := column ++ k.ending

/-- The column as a text, which can be cut at its dots. -/
def columnText (k : SortKey) : Except Error String :=
  match k.column with
  | .bytes _ => .error .wrongType
  | v =>
    match v.asText? with
    | some s => .ok s
    | none => .error .noOperation

/-- What is written for a key where nothing asks for a text.  Its own column stands where no other
one is given; a column with nothing behind it is kept as it is. -/
def shown (k : SortKey) (column : Value) : Except Error Value :=
  let base := if column.isGiven then column else k.column
  if k.ending.isEmpty then .ok base else base.append k.ending

/-- A key after `shown`: a list as its own column has grown by what was written behind it. -/
def afterShown (k : SortKey) (column : Value) : SortKey :=
  match k.column, column.isGiven, k.shown column with
  | .list _, false, .ok grown => { k with column := grown }
  | _, _, _ => k

/-- The entries that describe an ordering key. -/
def snapshot (k : SortKey) : Value :=
  Value.object <|
    [("column", k.column)] ++
    (match k.direction with
      | some d => [("direction", .text (word d))]
      | none => []) ++
    (match k.nulls with
      | some n => [("nulls", .text (word n))]
      | none => []) ++
    (if k.isTop then [("top", .bool true)] else [])

end RestQuery.SortKey
