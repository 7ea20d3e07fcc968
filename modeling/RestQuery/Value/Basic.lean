import RestQuery.Query.Basic

/-!
# Reading a value

What a value can be taken for: a text, a whole number, a run of items, a mapping, and whether it
counts as given at all.
-/

namespace RestQuery.Value

/-- The text of a text or a token; no other value is one. -/
def asText? : Value → Option String
  | .text s => some s
  | .token t => some t.word
  | _ => none

/-- Whether a value counts as given: nothing, zero, `false` and whatever is empty do not. -/
def isGiven : Value → Bool
  | .null => false
  | .bool b => b
  | .int i => i != 0
  | .float x => !x.isZero
  | .decimal (.finite _ coefficient _) => coefficient != 0
  | .text s => !s.isEmpty
  | .bytes bs => !bs.isEmpty
  | .list items | .tuple items => !items.isEmpty
  | .dict entries => !entries.isEmpty
  | _ => true

/-- The whole number of a value; a truth value counts as one or zero. -/
def index? : Value → Option Int
  | .int i => some i
  | .bool b => some (if b then 1 else 0)
  | _ => none

/-- The items of a value that can be run through: the characters of a text, the numbers of the
bytes, the keys of a mapping. -/
def items? : Value → Option (List Value)
  | .list items | .tuple items => some items
  | .dict entries => some (entries.map (·.1))
  | .text s => some (s.toList.map fun c => .text c.toString)
  | .token t => some (t.word.toList.map fun c => .text c.toString)
  | .bytes bs => some (bs.map fun b => .int b.toNat)
  | _ => none

/-- The items of a list or a tuple. -/
def sequence? : Value → Option (List Value)
  | .list items | .tuple items => some items
  | _ => none

/-- Whether a value is the text `name`. -/
def isKey (name : String) (v : Value) : Bool := v.asText? == some name

/-- The value under a text key. -/
def member? (entries : List (Value × Value)) (name : String) : Option Value :=
  (entries.find? fun e => e.1.isKey name).map (·.2)

/-- The value under a text key, `null` where there is none. -/
def member (entries : List (Value × Value)) (name : String) : Value :=
  (member? entries name).getD .null

/-- A mapping with texts as keys. -/
def object (fields : List (String × Value)) : Value :=
  .dict (fields.map fun (name, value) => (.text name, value))

end RestQuery.Value
