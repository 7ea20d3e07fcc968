import RestQuery.Proofs.Sequencing
import RestQuery.Proofs.Text.Form
import RestQuery.QueryString

/-!
# Reading a query string

`QueryString.decode?` cuts a query string at every ampersand and each piece at its first equals
sign, and reads both halves as form encoding.  `Query.encoded_reads_back` says that this gives the
parameters from which the string was written, whatever characters stand in them: the marks that
separate parameters do not occur in encoded texts, so no value can add or change a parameter.
-/

namespace RestQuery

namespace QueryString

/-- The name and the value in a piece of a query string. -/
def decodePiece? (piece : List Char) : Option Pair :=
  match Text.splitFirst '=' piece with
  | (name, some value) => do return (← Text.formDecode? name, ← Text.formDecode? value)
  | (_, none) => none

/-- The parameters of a query string; the empty one has none. -/
def decode? (s : String) : Option (List Pair) :=
  if s.isEmpty then some [] else (Text.pieces '&' s.toList).mapM decodePiece?

/-- A parameter whose value is a text. -/
def textPair? (p : Parameter) : Option Pair := p.2.asText?.map fun value => (p.1, value)

/-- The piece of a query string for a name and a value. -/
def piece (p : Pair) : String := Text.formEncode p.1 ++ "=" ++ Text.formEncode p.2

/-! ## One piece -/

theorem decodePiece?_piece (p : Pair) : decodePiece? (piece p).toList = some p := by
  have cut : Text.splitFirst '=' (piece p).toList =
      ((Text.formEncode p.1).toList, some (Text.formEncode p.2).toList) := by
    rw [piece, String.toList_append, String.toList_append, List.append_assoc]
    exact Text.splitFirst_append (Text.not_mem_formEncode (.inr rfl) p.1) _
  rw [decodePiece?, cut]
  simp only [Text.formDecode?_formEncode]
  rfl

theorem not_mem_piece (p : Pair) : '&' ∉ (piece p).toList := by
  rw [piece, String.toList_append, String.toList_append]
  have name := Text.not_mem_formEncode (.inl rfl) p.1
  have value := Text.not_mem_formEncode (.inl rfl) p.2
  simp [name, value]

/-- A piece is never empty: it holds at least its equals sign. -/
theorem piece_ne_nil (p : Pair) : (piece p).toList ≠ [] := by
  rw [piece, String.toList_append, String.toList_append]
  simp

theorem encodeParameter_of_textPair? (write : QueryText) {p : Parameter} {pair : Pair}
    (text : textPair? p = some pair) : encodeParameter write p = .ok (piece pair) := by
  obtain ⟨value, read, rfl⟩ := Option.map_eq_some_iff.1 text
  have encoded : encodeValue write p.2 = .ok (Text.formEncode value) := by
    rw [encodeValue]
    · rw [Value.plain_of_asText? read write]
      rfl
    · intro bytes isBytes
      rw [isBytes] at read
      cases read
  rw [encodeParameter, encoded]
  rfl

/-! ## All pieces -/

/-- A query string cut at the ampersands gives back its pieces. -/
theorem decode?_pieces (pairs : List Pair) :
    decode? ("&".intercalate (pairs.map piece)) = some pairs := by
  cases pairs with
  | nil => rfl
  | cons pair pairs =>
    have chars : ("&".intercalate ((pair :: pairs).map piece)).toList =
        ['&'].intercalate ((pair :: pairs).map fun p => (piece p).toList) := by
      rw [String.toList_intercalate, List.map_map]
      rfl
    have cut : Text.pieces '&' ("&".intercalate ((pair :: pairs).map piece)).toList =
        (pair :: pairs).map fun p => (piece p).toList := by
      have free : ∀ cs ∈ (pair :: pairs).map fun p => (piece p).toList, '&' ∉ cs := by
        intro cs member
        obtain ⟨p, _, rfl⟩ := List.mem_map.1 member
        exact not_mem_piece p
      rw [chars]
      exact Text.pieces_intercalate free
    have filled : ¬("&".intercalate ((pair :: pairs).map piece)).isEmpty := by
      intro empty
      rw [String.isEmpty_iff.1 empty, String.toList_empty, Text.pieces, List.map_cons] at cut
      exact piece_ne_nil pair (List.cons.inj cut).1.symm
    have each : ∀ p ∈ pair :: pairs, (decodePiece? ∘ fun p => (piece p).toList) p = some p := by
      intro p _
      rw [Function.comp_apply, decodePiece?_piece]
    rw [decode?, if_neg filled, cut, List.mapM_map, mapM_eq_some each]

/-- Parameters are written as pieces if each of them is. -/
theorem encode_of_pieces (write : QueryText) {read : Parameter → Option Pair}
    (written : ∀ p pair, read p = some pair → encodeParameter write p = .ok (piece pair))
    {ps : List Parameter} {pairs : List Pair} (reads : ps.mapM read = some pairs) :
    encode write ps = .ok ("&".intercalate (pairs.map piece)) := by
  have each : ps.mapM (encodeParameter write) = .ok (pairs.map piece) := by
    induction ps generalizing pairs with
    | nil =>
      cases reads
      rfl
    | cons p ps ih =>
      rw [List.mapM_cons] at reads
      obtain ⟨pair, first, rest⟩ := Option.bind_eq_some_iff.1 reads
      obtain ⟨others, behind, whole⟩ := Option.bind_eq_some_iff.1 rest
      cases whole
      rw [List.mapM_cons, written p pair first, ih behind]
      rfl
  rw [encode, each]
  rfl

theorem encode_of_textPairs (write : QueryText) {ps : List Parameter} {pairs : List Pair}
    (texts : ps.mapM textPair? = some pairs) :
    encode write ps = .ok ("&".intercalate (pairs.map piece)) :=
  encode_of_pieces write (fun _ _ => encodeParameter_of_textPair? write) texts

/-- Texts written as parameters are read as they are. -/
theorem mapM_textPair?_parameters (pairs : List Pair) :
    (parameters pairs).mapM textPair? = some pairs := by
  rw [parameters, List.mapM_map]
  exact mapM_eq_some fun _ _ => rfl

end QueryString

namespace Query

open QueryString

/-- A query that is no root has no parameters. -/
theorem parameters_inner (write : QueryText) {q : Query} (inner : q.inner = true) :
    q.parameters write = .error (.invalidInner none) := by
  rw [parameters, if_pos inner]
  rfl

/-- The parameters of a root, clause by clause. -/
theorem parameters_root (write : QueryText) {q : Query} (root : q.inner = false) :
    q.parameters write = (do
      let select ← q.select write
      let filters ← q.filterPairs write
      let groups ← q.groupPairs write
      let ordering ← q.orderingPairs write
      let limits ← q.limitPairs write
      let offsets ← q.offsetPairs write
      return QueryString.parameters
        (selectPairs select ++ filters ++ groups ++ ordering ++ limits ++ offsets) ++
        (← q.writingParameters)) := by
  rw [parameters, if_neg (by simp [root])]

/-- The parameters of a root begin with its select clause.  All of them are texts, but for the
column for conflicts, which is kept as it was given. -/
theorem parameters_select {write : QueryText} {q : Query} {ps : List Parameter}
    (compiled : q.parameters write = .ok ps) :
    ∃ clause others after, q.select write = .ok clause ∧ ps =
      QueryString.parameters (selectPairs clause ++ others) ++
        (conflictParameters q ++ QueryString.parameters after) := by
  cases inner : q.inner with
  | true =>
    rw [parameters_inner write inner] at compiled
    cases compiled
  | false =>
    rw [parameters_root write inner] at compiled
    obtain ⟨select, selected, compiled⟩ := bind_eq_ok.1 compiled
    obtain ⟨filters, _, compiled⟩ := bind_eq_ok.1 compiled
    obtain ⟨groups, _, compiled⟩ := bind_eq_ok.1 compiled
    obtain ⟨ordering, _, compiled⟩ := bind_eq_ok.1 compiled
    obtain ⟨limits, _, compiled⟩ := bind_eq_ok.1 compiled
    obtain ⟨offsets, _, compiled⟩ := bind_eq_ok.1 compiled
    obtain ⟨writing, written, compiled⟩ := bind_eq_ok.1 compiled
    cases compiled
    obtain ⟨columns, _, written⟩ := bind_eq_ok.1 written
    cases written
    simp only [List.append_assoc]
    exact ⟨select, _, columns, selected, rfl⟩

theorem parameters_shape {write : QueryText} {q : Query} {ps : List Parameter}
    (compiled : q.parameters write = .ok ps) :
    ∃ before after, ps =
      QueryString.parameters before ++ (conflictParameters q ++ QueryString.parameters after) := by
  obtain ⟨clause, others, after, _, shape⟩ := parameters_select compiled
  exact ⟨_, after, shape⟩

theorem mapM_textPair?_conflict {q : Query}
    (conflict : q.onConflict.isGiven → q.onConflict.asText?.isSome) :
    ∃ pairs, (conflictParameters q).mapM textPair? = some pairs := by
  rw [conflictParameters]
  split
  next given =>
    obtain ⟨column, read⟩ := Option.isSome_iff_exists.1 (conflict given)
    exact ⟨[("on_conflict", column)], by simp [textPair?, read]⟩
  next => exact ⟨[], rfl⟩

/-- If a query can be written, and the column for conflicts is a text if there is one, then its
query string is read as its parameters. -/
theorem encoded_reads_back (write : QueryText) {q : Query} {ps : List Parameter}
    (compiled : q.parameters write = .ok ps)
    (conflict : q.onConflict.isGiven → q.onConflict.asText?.isSome) :
    ∃ s pairs, q.encoded write = .ok s ∧ ps.mapM textPair? = some pairs ∧
      QueryString.decode? s = some pairs := by
  obtain ⟨before, after, shape⟩ := parameters_shape compiled
  obtain ⟨middle, conflicts⟩ := mapM_textPair?_conflict conflict
  have texts : ps.mapM textPair? = some (before ++ (middle ++ after)) := by
    rw [shape, List.mapM_append, List.mapM_append, mapM_textPair?_parameters,
      mapM_textPair?_parameters, conflicts]
    rfl
  refine ⟨_, _, ?_, texts, decode?_pieces _⟩
  rw [encoded, compiled, ok_bind, encode_of_textPairs write texts]

/-- A query for a title that looks like parameters. -/
def filmsTitled : Query :=
  { ofResource "films" .many with
    filters := [⟨.eq, .text "title", .text "a&limit=1+é", false⟩]
    onConflict := .text "id" }

theorem encoded_reads_back_filmsTitled :
    filmsTitled.parameters (fun _ => .ok "") =
      .ok [("title", .text "eq.a&limit=1+é"), ("on_conflict", .text "id")] ∧
    ∃ s pairs, filmsTitled.encoded (fun _ => .ok "") = .ok s ∧
      [("title", Value.text "eq.a&limit=1+é"), ("on_conflict", .text "id")].mapM textPair? =
        some pairs ∧
      QueryString.decode? s = some pairs := by
  have compiled : filmsTitled.parameters (fun _ => .ok "") =
      .ok [("title", .text "eq.a&limit=1+é"), ("on_conflict", .text "id")] := by
    rw [parameters_root _ rfl]
    simp only [filterPairs, filmsTitled, collect, ownFilterPairs, Filter.arranged,
      List.mergeSort_singleton]
    rfl
  exact ⟨compiled, encoded_reads_back _ compiled fun _ => rfl⟩

end Query

end RestQuery
