import RestQuery.Error

/-!
# Plain texts

The plain text of a value is its literal, except that texts and tokens stand for themselves, a
decimal number is not marked, and a query is written as its query string.  How a query is written is
said by a `QueryText`, which can fail.  Only the value itself is treated so: inside a list or a
mapping all values stand as literals.
-/

namespace RestQuery

/-- How a query is written where its text is asked for. -/
abbrev QueryText := Query → Except Error String

namespace Value

/-- The plain text of a value. -/
def plain (write : QueryText) : Value → Except Error String
  | .text s => .ok s
  | .token t => .ok t.word
  | .decimal d => .ok d.text
  | .query q => write q
  | v => .ok v.literal

/-- A value that is a text stands for itself. -/
theorem plain_of_asText? {v : Value} {s : String} (read : v.asText? = some s)
    (write : QueryText) : v.plain write = .ok s := by
  cases v <;> simp_all [asText?, plain]

/-- The text of a value that is one. -/
def requireText (v : Value) : Except Error String :=
  match v.asText? with
  | some s => .ok s
  | none => .error .wrongType

/-- A value with a text behind it: a text grows by it, and a list by the characters of it. -/
def append (v : Value) (s : String) : Except Error Value :=
  match v with
  | .list items => .ok (.list (items ++ s.toList.map fun c => .text c.toString))
  | v => do return .text ((← v.requireText) ++ s)

end Value

/-- Texts with commas between them; another value among them is an error. -/
def joinTexts (vs : List Value) : Except Error String := do
  return ",".intercalate (← vs.mapM Value.requireText)

/-- The plain texts of what JSON does not know; there is none for a query that cannot be written. -/
def Json.Fallback.plain (write : QueryText) : Json.Fallback := fun v => (v.plain write).toOption

end RestQuery
