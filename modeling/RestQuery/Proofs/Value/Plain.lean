import RestQuery.Proofs.Sequencing
import RestQuery.Value.Plain

/-!
# Values that stand for a text

A value has a plain text of its own unless it is a query, for which another query string has to be
written (`Value.plain_succeeds`).  Texts can be joined and can grow.
-/

namespace RestQuery

namespace Value

/-- Whether the value is a query. -/
def isQuery : Value → Bool
  | .query _ => true
  | _ => false

theorem isQuery_of_asText? {v : Value} (text : v.asText?.isSome) : v.isQuery = false := by
  cases v <;> first | rfl | cases text

theorem plain_succeeds (write : QueryText) {v : Value} (other : v.isQuery = false) :
    Succeeds (v.plain write) := by
  cases v <;> first | exact ⟨_, rfl⟩ | cases other

theorem requireText_of_asText? {v : Value} {s : String} (text : v.asText? = some s) :
    v.requireText = .ok s := by
  rw [requireText, text]

theorem append_of_asText? {v : Value} {t : String} (text : v.asText? = some t) (s : String) :
    v.append s = .ok (.text (t ++ s)) := by
  cases v with
  | text u | token u =>
    cases text
    rfl
  | _ => cases text

end Value

theorem joinTexts_succeeds {vs : List Value} (texts : ∀ v ∈ vs, v.asText?.isSome) :
    Succeeds (joinTexts vs) := by
  refine (Succeeds.mapM fun v member => ?_).bind fun _ => .pure _
  obtain ⟨s, text⟩ := Option.isSome_iff_exists.1 (texts v member)
  exact ⟨s, Value.requireText_of_asText? text⟩

end RestQuery
