import RestQuery.Header.Merge
import RestQuery.Proofs.QueryString.Reading
import RestQuery.Proofs.Snapshot.Clauses

/-!
# Requests of alike queries

For every likeness that is kept, alike queries have one query string, or both cannot be written
(`Likeness.Kept.encoded`), and they have the same header fields (`Query.Agree.requestHeaders`).
-/

namespace RestQuery

/-! ## The query string -/

namespace QueryString

/-- Columns of the same texts are one parameter. -/
theorem columnPairs_agree {L : Likeness} {q r : Query} (agree : q.Agree L r) :
    ∃ pairs, columnPairs q = .ok pairs ∧ columnPairs r = .ok pairs := by
  obtain ⟨t, joined, joined'⟩ := joinTexts_sameText agree.columns
  have limited : q.columns.isEmpty = r.columns.isEmpty := by
    rw [Bool.eq_iff_iff, List.isEmpty_iff_length_eq_zero, List.isEmpty_iff_length_eq_zero,
      agree.columns.length_eq]
  rw [columnPairs, columnPairs, limited, joined, joined']
  cases r.columns.isEmpty with
  | true => exact ⟨[], rfl, rfl⟩
  | false => exact ⟨[("columns", t)], rfl, rfl⟩

theorem conflictParameters_agree {L : Likeness} {q r : Query} (agree : q.Agree L r) :
    ∃ pairs, (conflictParameters q).mapM textPair? = some pairs ∧
      (conflictParameters r).mapM textPair? = some pairs := by
  rw [conflictParameters, conflictParameters]
  rcases agree.onConflict.given_or_not with ⟨absent, absent'⟩ | ⟨given, given', s, text, text'⟩
  · refine ⟨[], ?_, ?_⟩
    · rw [if_neg (by simp [absent]), List.mapM_nil]
      rfl
    · rw [if_neg (by simp [absent']), List.mapM_nil]
      rfl
  · refine ⟨[("on_conflict", s)], ?_, ?_⟩
    · simp [if_pos given, textPair?, text]
    · simp [if_pos given', textPair?, text']

end QueryString

namespace Query

open QueryString

/-- The parameters that every request needs. -/
def clausePairs (write : QueryText) (q : Query) : Except Error (List Pair) := do
  let select ← q.select write
  let filters ← q.filterPairs write
  let groups ← q.groupPairs write
  let ordering ← q.orderingPairs write
  let limits ← q.limitPairs write
  let offsets ← q.offsetPairs write
  return selectPairs select ++ filters ++ groups ++ ordering ++ limits ++ offsets

theorem parameters_of_clausePairs {write : QueryText} {q : Query} (root : q.inner = false) :
    q.parameters write = (do
      return QueryString.parameters (← q.clausePairs write) ++ (← q.writingParameters)) := by
  rw [parameters_root write root, clausePairs]
  simp only [bind_assoc, pure_bind]

theorem encoded_of_clausePairs {write : QueryText} {q : Query} (root : q.inner = false)
    {pairs texts : List Pair} {writing : List Parameter} (clauses : q.clausePairs write = .ok pairs)
    (written : q.writingParameters = .ok writing) (read : writing.mapM textPair? = some texts) :
    q.encoded write = .ok ("&".intercalate ((pairs ++ texts).map piece)) := by
  rw [encoded, parameters_of_clausePairs root, clauses, written, ok_bind, ok_bind]
  refine encode_of_textPairs write ?_
  rw [List.mapM_append, mapM_textPair?_parameters, read]
  rfl

/-- A query whose clauses cannot be written has no query string. -/
theorem encoded_of_clausePairs_error {write : QueryText} {q : Query} (root : q.inner = false)
    {cause : Error} (clauses : q.clausePairs write = .error cause) :
    q.encoded write = .error cause := by
  rw [encoded, parameters_of_clausePairs root, clauses]
  rfl

/-- The parameters that only writing requests need are the same texts. -/
theorem Agree.writingParameters {L : Likeness} {q r : Query} (agree : q.Agree L r) :
    ∃ ps ps' texts, q.writingParameters = .ok ps ∧ r.writingParameters = .ok ps' ∧
      ps.mapM textPair? = some texts ∧ ps'.mapM textPair? = some texts := by
  obtain ⟨columns, made, made'⟩ := columnPairs_agree agree
  obtain ⟨conflict, texts, texts'⟩ := conflictParameters_agree agree
  refine ⟨_, _, conflict ++ columns, by rw [Query.writingParameters, made]; rfl,
    by rw [Query.writingParameters, made']; rfl, ?_, ?_⟩
  · rw [List.mapM_append, texts, mapM_textPair?_parameters]
    rfl
  · rw [List.mapM_append, texts', mapM_textPair?_parameters]
    rfl

end Query

namespace Likeness

/-- The causes for which two queries cannot be written: one cause, or two that are alike. -/
def Causes (L : Likeness) (e e' : Error) : Prop := e = e' ∨ L.causes e e'

variable {L : Likeness} {q r : Query}

/-- The clauses of alike queries are the same, unless none of the two can be written. -/
theorem Kept.clausePairs (kept : L.Kept) (alike : L.queries q r) (write write' : QueryText) :
    Matched (· = ·) L.Causes (q.clausePairs write) (r.clausePairs write') := by
  rw [Query.clausePairs, Query.clausePairs]
  refine ((kept.select alike).mono fun _ _ => .inr).bind ?_
  rintro select _ rfl
  have filters : q.filterPairs write = r.filterPairs write' := kept.filterPairs alike
  have groups : q.groupPairs write = r.groupPairs write' := kept.groupPairs alike
  have ordering : q.orderingPairs write = r.orderingPairs write' := kept.orderingPairs alike
  have limits : q.limitPairs write = r.limitPairs write' := kept.limitPairs alike
  have offsets : q.offsetPairs write = r.offsetPairs write' := kept.offsetPairs alike
  rw [filters, groups, ordering, limits, offsets]
  exact .same fun _ => .inl rfl

/-- Alike queries have one query string, unless none of the two can be written. -/
theorem Kept.encoded (kept : L.Kept) (alike : L.queries q r) (write write' : QueryText) :
    Matched (· = ·) L.Causes (q.encoded write) (r.encoded write') := by
  have agree := kept.agree alike
  have same := agree.inner
  cases inner : q.inner with
  | true =>
    rw [Query.encoded, Query.encoded, Query.parameters_inner write inner,
      Query.parameters_inner write' (same ▸ inner)]
    exact .error (.inl rfl)
  | false =>
    have clauses := kept.clausePairs alike write write'
    cases made : q.clausePairs write with
    | error cause =>
      obtain ⟨cause', made', causes⟩ := clauses.of_error made
      rw [Query.encoded_of_clausePairs_error inner made,
        Query.encoded_of_clausePairs_error (same ▸ inner) made']
      exact .error causes
    | ok pairs =>
      obtain ⟨_, made', rfl⟩ := clauses.of_ok made
      obtain ⟨ps, ps', texts, written, written', read, read'⟩ := agree.writingParameters
      rw [Query.encoded_of_clausePairs inner made written read,
        Query.encoded_of_clausePairs (same ▸ inner) made' written' read']
      exact .ok rfl

end Likeness

/-! ## Header fields -/

/-- The same texts make the same field. -/
theorem Value.SameText.readField {v w : Value} (same : v.SameText w) (name : Value) :
    Headers.readField name v = Headers.readField name w := by
  obtain ⟨s, text, text'⟩ := same
  rw [Headers.readField, Headers.readField, Headers.valueBytes_of_asText? text,
    Headers.valueBytes_of_asText? text']

namespace HeaderDraft

/-- The fields under one name, each as it is read. -/
def readFields (fields : List (String × Value)) : List (Except Error (List UInt8 × List UInt8)) :=
  fields.map fun field => Headers.readField (.text field.1) field.2

/-- The fields of a draft, each as it is read. -/
def read (draft : HeaderDraft) : List (String × List (Except Error (List UInt8 × List UInt8))) :=
  draft.map fun entry => (entry.1, readFields entry.2)

/-- Drafts that read the same become the same header fields. -/
theorem headers_of_read {draft draft' : HeaderDraft} (same : draft.read = draft'.read) :
    draft.headers = draft'.headers := by
  have fields (d : HeaderDraft) :
      d.headers = (do return ⟨← (d.read.flatMap (·.2)).mapM id⟩) := by
    have read : d.read.flatMap (·.2) = readFields (d.flatMap (·.2)) := by
      rw [HeaderDraft.read, List.flatMap_map, readFields, List.map_flatMap]
      rfl
    rw [headers, read, readFields, List.mapM_map]
    rfl
  rw [fields, fields, same]

/-- Drafts that read the same do so after fields that read the same are set. -/
theorem read_set {draft draft' : HeaderDraft} (same : draft.read = draft'.read) (name : String)
    {fields fields' : List (String × Value)} (alike : readFields fields = readFields fields') :
    (draft.set name fields).read = (draft'.set name fields').read := by
  have named (d : HeaderDraft) :
      (d.any fun entry => entry.1 = name) = d.read.any fun entry => entry.1 = name := by
    rw [read, List.any_map]
    rfl
  have replaced (d : HeaderDraft) (fs : List (String × Value)) :
      read (d.map fun entry => if entry.1 = name then (name, fs) else entry) =
        d.read.map fun entry => if entry.1 = name then (name, readFields fs) else entry := by
    rw [read, read, List.map_map, List.map_map]
    refine List.map_congr_left fun entry _ => ?_
    simp only [Function.comp_apply]
    split <;> rfl
  have added (d : HeaderDraft) (fs : List (String × Value)) :
      read (d ++ [(name, fs)]) = d.read ++ [(name, readFields fs)] := by
    rw [read, read, List.map_append]
    rfl
  rw [set, set, named, named, same]
  split
  · rw [replaced, replaced, same, alike]
  · rw [added, added, same, alike]

end HeaderDraft

namespace Query.Agree

variable {L : Likeness} {q r : Query}

theorem withSchema (agree : q.Agree L r) (method : String) (draft : HeaderDraft) :
    (q.withSchema method draft).read = (r.withSchema method draft).read := by
  rw [Query.withSchema, Query.withSchema]
  rcases agree.schema.given_or_not with ⟨absent, absent'⟩ | ⟨given, given', text⟩
  · rw [absent, absent']
    rfl
  · have field (name : String) : ([(name, q.schema)].map fun field =>
        Headers.readField (.text field.1) field.2) =
        [(name, r.schema)].map fun field => Headers.readField (.text field.1) field.2 := by
      rw [List.map_singleton, List.map_singleton, text.readField]
    rw [given, given']
    cases isReading method with
    | true => exact HeaderDraft.read_set rfl _ (field _)
    | false => exact HeaderDraft.read_set rfl _ (field _)

/-- Agreeing queries have the same header fields, whatever the method is and the caller gives. -/
theorem requestHeaders (agree : q.Agree L r) (method : String) (caller : Headers) :
    q.requestHeaders method caller = r.requestHeaders method caller := by
  have mediaType (draft : HeaderDraft) : q.withMediaType draft = r.withMediaType draft := by
    rw [withMediaType, withMediaType, agree.cardinality]
  have preferred : q.preferred caller = r.preferred caller := by
    rw [Query.preferred, Query.preferred, agree.preferences]
  refine HeaderDraft.headers_of_read ?_
  rw [withPreferences, withPreferences, preferred, mediaType]
  cases r.preferred caller with
  | nil => exact agree.withSchema method _
  | cons v vs => exact HeaderDraft.read_set (agree.withSchema method _) _ rfl

end Query.Agree

end RestQuery
