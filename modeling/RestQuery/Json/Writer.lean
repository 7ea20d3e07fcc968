import RestQuery.Text.Basic
import RestQuery.Value.Literal

/-!
# JSON text of values

`Json.write?` gives the JSON text of a value without spaces.  Values that JSON does not know are
written as the text that a `Fallback` gives; a whole number beyond 64 bits, a key that is not a text
and too deep nesting leave the value without a JSON text.  Sorting concerns the keys of mappings; a
selector and an ordering key are objects whose members have a fixed order.

The depth of nesting is counted in one byte, which starts again at zero after 255.  A list or a
mapping at the depth 255 is refused, and so is a selector or an ordering key inside anything at that
depth.  A tuple is never refused.
-/

namespace RestQuery.Json

/-- The text that stands for a value that JSON does not know, if there is any. -/
abbrev Fallback := Value → Option String

/-- Nothing stands for what JSON does not know. -/
def Fallback.refused : Fallback := fun _ => none

/-- The literal stands for what JSON does not know. -/
def Fallback.literal : Fallback := fun v => some v.literal

/-- A character between the quotes of a JSON text. -/
def escapeChar (c : Char) : List Char :=
  if c = '"' ∨ c = '\\' then ['\\', c]
  else if c = '\x08' then ['\\', 'b']
  else if c = '\t' then ['\\', 't']
  else if c = '\n' then ['\\', 'n']
  else if c = '\x0c' then ['\\', 'f']
  else if c = '\r' then ['\\', 'r']
  else if c.toNat < 0x20 then '\\' :: 'u' :: Text.hexDigits 4 c.toNat
  else [c]

/-- A text between quotes. -/
def quoted (s : String) : String :=
  String.ofList ('"' :: s.toList.flatMap escapeChar ++ ['"'])

/-- Whether a whole number has 64 bits, with a sign or without. -/
def inRange (i : Int) : Bool := decide (-9223372036854775808 ≤ i ∧ i < 18446744073709551616)

def numberText : Binary64 → String
  | .finite negative mantissa exponent =>
    Binary64.finiteText Binary64.jsonLayout negative mantissa exponent
  | _ => "null"

def arrayText (items : List String) : String := "[" ++ ",".intercalate items ++ "]"

/-- An object of written members in their order. -/
def objectText (members : List (String × String)) : String :=
  "\x7b" ++ ",".intercalate (members.map fun (key, value) => quoted key ++ ":" ++ value) ++ "\x7d"

/-- The text of a mapping, its members in their order or sorted by key. -/
def mappingText (sorted : Bool) (members : List (String × String)) : String :=
  objectText (if sorted then members.mergeSort fun m n => Text.atMost m.1 n.1 else members)

/-- An optional word of a vocabulary. -/
def wordText {α : Type} [Vocabulary α] : Option α → String
  | some a => quoted (word a)
  | none => "null"

/-- The depth at which lists and mappings are refused. -/
def fullDepth : UInt8 := 255

mutual

/-- The JSON text of a value inside something of a depth, if it has one. -/
def writeAt? (fallback : Fallback) (sorted : Bool) : Value → UInt8 → Option String
  | .null, _ => some "null"
  | .bool b, _ => some (if b then "true" else "false")
  | .int i, _ => if inRange i then some (toString i) else none
  | .float x, _ => some (numberText x)
  | .text s, _ => some (quoted s)
  | .token t, _ => some (quoted t.word)
  | .list items, depth =>
    if depth + 1 = fullDepth then none
    else do return arrayText (← writeItems? fallback sorted items (depth + 1))
  | .tuple items, depth => do
    return arrayText (← writeItems? fallback sorted items (depth + 1))
  | .dict entries, depth =>
    if depth + 1 = fullDepth then none
    else do return mappingText sorted (← writeEntries? fallback sorted entries (depth + 1))
  | .selector (.unwritable serial), _ =>
    (fallback (.selector (.unwritable serial))).map quoted
  | .selector s, depth =>
    if depth = fullDepth then none
    else do return objectText (← writeFields? fallback sorted s (depth + 1))
  | .sortKey { column, direction, nulls, top }, depth =>
    if depth = fullDepth then none
    else do
      return objectText
        [("column", ← writeAt? fallback sorted column (depth + 1)),
         ("direction", wordText direction),
         ("nulls", wordText nulls),
         ("top", ← writeAt? fallback sorted top (depth + 1))]
  | .decimal d, _ => (fallback (.decimal d)).map quoted
  | .bytes bs, _ => (fallback (.bytes bs)).map quoted
  | .query q, _ => (fallback (.query q)).map quoted
  | .negation q serial, _ => (fallback (.negation q serial)).map quoted

/-- The members of a selector. -/
def writeFields? (fallback : Fallback) (sorted : Bool) :
    Selector → UInt8 → Option (List (String × String))
  | .wildcard, _ => some []
  | .column name, depth => do return [("column", ← writeAt? fallback sorted name depth)]
  | .modified column name cast, depth => do
    return [("column", ← writeAt? fallback sorted column depth),
      ("name", ← writeAt? fallback sorted name depth),
      ("cast", ← writeAt? fallback sorted cast depth)]
  | .path p, depth => do return [("path", ← writeAt? fallback sorted p depth)]
  | .embedded q name, depth => do
    return [("query", ← (fallback (.query q)).map quoted),
      ("name", ← writeAt? fallback sorted name depth)]
  | .misembedded content name, depth => do
    return [("query", ← writeAt? fallback sorted content depth),
      ("name", ← writeAt? fallback sorted name depth)]
  | .invalid payload, depth => do
    return [("payload", ← writeAt? fallback sorted payload depth)]
  | .unwritable _, _ => none

def writeItems? (fallback : Fallback) (sorted : Bool) :
    List Value → UInt8 → Option (List String)
  | [], _ => some []
  | v :: vs, depth => do
    return (← writeAt? fallback sorted v depth) :: (← writeItems? fallback sorted vs depth)

def writeEntries? (fallback : Fallback) (sorted : Bool) :
    List (Value × Value) → UInt8 → Option (List (String × String))
  | [], _ => some []
  | (.text key, v) :: es, depth => do
    return (key, ← writeAt? fallback sorted v depth) ::
      (← writeEntries? fallback sorted es depth)
  | _ :: _, _ => none

end

/-- The JSON text of a value, if it has one. -/
def write? (fallback : Fallback) (sorted : Bool) (v : Value) : Option String :=
  writeAt? fallback sorted v 0

end RestQuery.Json
