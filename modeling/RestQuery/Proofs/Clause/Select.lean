import RestQuery.Clause.Select
import RestQuery.Proofs.Snapshot.Typed

/-!
# What the select clause is written from

A select clause is written selector by selector, and an embedded query as the select clause that it
has itself, between parentheses (`Selector.written_embedded`).  A column with texts as modifiers is
written as `name:column::cast` (`modifiedText_eq`), and what stands before the parentheses as
`name:resource!inner` (`embeddedHead_eq`), both without the parts that are not given.
-/

namespace RestQuery

variable {write : QueryText}

theorem Selector.allWritten_eq (ss : List Selector) :
    allWritten write ss = ss.mapM (written write) := by
  induction ss with
  | nil => rfl
  | cons s ss ih => rw [allWritten, ih, List.mapM_cons]

theorem Selector.written_embedded (q : Query) (name : Value) :
    (embedded q name).written write = (do
      let head ← embeddedHead write name q.resource q.inner
      return .text (nested head (← q.select write))) := by
  rcases q with ⟨⟩
  rw [written, Query.select]
  simp only [bind_assoc]

/-- What is written for a modified column of texts. -/
theorem modifiedText_eq {base name cast : Value} {s : String} (text : base.asText? = some s)
    (typedName : name.isOptionalText) (typedCast : cast.isOptionalText) :
    ∃ v, modifiedText write base name cast = .ok v ∧
      v.asText? = some ((name.givenText?.elim "" (· ++ ":")) ++ s ++
        (cast.givenText?.elim "" ("::" ++ ·))) := by
  have casted {v : Value} {t : String} (read : v.asText? = some t) :
      ∃ w, (if cast.isGiven then do v.append ("::" ++ (← cast.plain write)) else return v) =
          (.ok w : Except Error Value) ∧
        w.asText? = some (t ++ (cast.givenText?.elim "" ("::" ++ ·))) := by
    rcases Value.givenText?_of_isOptionalText typedCast with ⟨absent, none⟩ | ⟨given, c, own, some⟩
    · refine ⟨v, by rw [if_neg (by simp [absent])]; rfl, ?_⟩
      rw [none, read, Option.elim_none, String.append_empty]
    · refine ⟨.text (t ++ ("::" ++ c)), ?_, by rw [some]; rfl⟩
      rw [if_pos given, Value.plain_of_asText? own]
      exact Value.append_of_asText? read _
  rw [modifiedText]
  rcases Value.givenText?_of_isOptionalText typedName with ⟨absent, none⟩ | ⟨given, n, own, some⟩
  · rw [if_neg (by simp [absent]), none, Option.elim_none, String.empty_append]
    exact casted text
  · rw [if_pos given, some, Value.plain_of_asText? own, Value.plain_of_asText? text]
    exact casted rfl

/-- What stands before an embedded query. -/
theorem embeddedHead_eq (write : QueryText) {name : Value} (typed : name.isOptionalText)
    (resource : String) (inner : Bool) : embeddedHead write name resource inner =
      .ok ((name.givenText?.elim "" (· ++ ":")) ++ resource ++
        (if inner then "!inner" else "")) := by
  rcases Value.givenText?_of_isOptionalText typed with ⟨absent, none⟩ | ⟨given, s, text, some⟩
  · simp [embeddedHead, absent, none, ok_eq_pure]
  · simp [embeddedHead, given, some, Value.plain_of_asText? text, ok_eq_pure]

end RestQuery
