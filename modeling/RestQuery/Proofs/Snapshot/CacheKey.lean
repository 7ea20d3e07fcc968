import RestQuery.Proofs.Snapshot.Requests

/-!
# Snapshots as keys

The JSON text of the snapshot of a query can stand for the query in a store of requests.
`Query.json_determines_request` says that typed queries with one JSON text have one query string
and the same header fields: equal texts spell equal trees, so the queries are alike, and whatever is
sent for alike queries is the same.
-/

namespace RestQuery

/-! ## One text, alike queries -/

/-- The JSON text of a typed query spells the tree of its snapshot. -/
theorem Query.Typed.spells_json {write : QueryText} {q : Query} (typed : q.Typed) {s : String}
    (made : q.json write = .ok s) :
    ∃ v, q.snapshot = .ok v ∧ Json.Spells s.toList v.tree := by
  rw [json] at made
  obtain ⟨v, shown, made⟩ := bind_eq_ok.1 made
  split at made
  next text written =>
    cases made
    exact ⟨v, shown, Value.spells_tree (typed.isExact_snapshot v shown) written⟩
  next => cases made

/-- Typed queries with one JSON text are alike. -/
theorem Query.Alike.of_json {write write' : QueryText} {q r : Query} (typed : q.Typed)
    (typed' : r.Typed) {s : String} (key : q.json write = .ok s) (key' : r.json write' = .ok s) :
    q.Alike r := by
  obtain ⟨v, shown, spelled⟩ := typed.spells_json key
  obtain ⟨w, shown', spelled'⟩ := typed'.spells_json key'
  exact ⟨typed, typed', v, w, shown, shown', spelled.unique spelled'⟩

/-! ## One query string -/

namespace Query.Alike

variable {q r : Query}

/-- The clauses of a query that is alike to another one can be written. -/
theorem clausePairs_succeed (alike : q.Alike r) (write : QueryText) :
    Succeeds (q.clausePairs write) := by
  have select : Succeeds (q.select write) := by
    have texts : Likeness.shown.Texts (q.select write) (r.select write) :=
      Likeness.shown_kept.select alike
    cases made : q.select write with
    | ok select => exact ⟨select, rfl⟩
    | error cause =>
      obtain ⟨_, _, none⟩ := texts.of_error made
      exact none.elim
  obtain ⟨filters, groups, limits, offsets⟩ := clauses_succeed write alike.left.isTyped_of_node
  have ordering := orderingPairs_succeed write alike.left.hasTextKeys_of_node
  exact select.bind fun _ => filters.bind fun _ => groups.bind fun _ => ordering.bind fun _ =>
    limits.bind fun _ => offsets.bind fun _ => .pure _

/-- Queries that are shown alike have one query string, unless they are marked as inner. -/
theorem encoded (alike : q.Alike r) (write write' : QueryText) :
    (∃ t, q.encoded write = .ok t ∧ r.encoded write' = .ok t) ∨
      (q.encoded write = .error (.invalidInner none) ∧
        r.encoded write' = .error (.invalidInner none)) := by
  have agree := alike.agree
  cases inner : q.inner with
  | true =>
    right
    rw [Query.encoded, Query.encoded, parameters_inner write inner,
      parameters_inner write' (agree.inner ▸ inner)]
    exact ⟨rfl, rfl⟩
  | false =>
    left
    obtain ⟨pairs, clauses⟩ := alike.clausePairs_succeed write
    obtain ⟨ps, _, texts, written, _, read, _⟩ := agree.writingParameters
    have made := encoded_of_clausePairs inner clauses written read
    obtain ⟨t, made', same⟩ := (Likeness.shown_kept.encoded alike write write').of_ok made
    exact ⟨_, made, same ▸ made'⟩

end Query.Alike

/-! ## Keys -/

/-- The JSON text of a typed query determines what is sent for it: its query string, or that it
cannot be a root as it is marked as inner, and its header fields for every method and caller.  No
value of a typed query is a query, so it does not matter how one would be written in its place. -/
theorem Query.json_determines_request {write write' : QueryText} {q r : Query} (typed : q.Typed)
    (typed' : r.Typed) {s : String} (key : q.json write = .ok s) (key' : r.json write' = .ok s) :
    (∀ form form' : QueryText, (∃ t, q.encoded form = .ok t ∧ r.encoded form' = .ok t) ∨
      (q.encoded form = .error (.invalidInner none) ∧
        r.encoded form' = .error (.invalidInner none))) ∧
    ∀ method caller, q.requestHeaders method caller = r.requestHeaders method caller :=
  have alike := Query.Alike.of_json typed typed' key key'
  ⟨alike.encoded, alike.agree.requestHeaders⟩

/-- Films of a cinema and their actors, with a selector for all columns and some filters. -/
def Query.filmsShown (all : Selector) (filters : List Filter) : Query :=
  let actors : Query := { ofResource "actors" .many with selectors := [all] }
  { ofResource "films" .many with
    selectors := [all, .embedded actors (.text "cast")]
    filters := filters
    schema := .text "cinema" }

/-- Old films whose rating is compared with a text. -/
def Query.filmsRatedText : Query :=
  filmsShown .wildcard
    [⟨.eq, .text "rating", .text "7.5", false⟩, ⟨.lt, .text "year", .int 1990, false⟩]

/-- The same films, selected by name and with the filters the other way round, of which one has a
decimal number. -/
def Query.filmsRatedDecimal : Query :=
  filmsShown (.column (.text "*"))
    [⟨.lt, .text "year", .int 1990, false⟩,
      ⟨.eq, .text "rating", .decimal (.finite false 75 (-1)), false⟩]

theorem Query.json_determines_request_filmsRated :
    filmsRatedText.Typed ∧ filmsRatedDecimal.Typed ∧
      ∃ s, filmsRatedText.json (fun _ => .ok "") = .ok s ∧
        filmsRatedDecimal.json (fun _ => .ok "") = .ok s ∧
        ((∃ t, filmsRatedText.encoded (fun _ => .ok "") = .ok t ∧
            filmsRatedDecimal.encoded (fun _ => .ok "") = .ok t) ∨
          (filmsRatedText.encoded (fun _ => .ok "") = .error (.invalidInner none) ∧
            filmsRatedDecimal.encoded (fun _ => .ok "") = .error (.invalidInner none))) ∧
        filmsRatedText.requestHeaders "GET" ⟨[]⟩ = filmsRatedDecimal.requestHeaders "GET" ⟨[]⟩ := by
  have alone (q : Query) (own : q.OwnTyped) (none : q.parts = []) : q.Typed :=
    .intro own fun p member => absurd (none ▸ member) List.not_mem_nil
  have single (q p : Query) (own : q.OwnTyped) (one : q.parts = [p]) (typed : p.Typed) : q.Typed :=
    .intro own fun p' member => List.mem_singleton.1 (one ▸ member) ▸ typed
  have left : filmsRatedText.Typed :=
    single _ _ (by decide) rfl (alone _ (by decide) rfl)
  have right : filmsRatedDecimal.Typed :=
    single _ _ (by decide) rfl (alone _ (by decide) rfl)
  have key : ∃ s, filmsRatedText.json (fun _ => .ok "") = .ok s ∧
      filmsRatedDecimal.json (fun _ => .ok "") = .ok s := ⟨_, rfl, rfl⟩
  obtain ⟨s, made, made'⟩ := key
  obtain ⟨texts, headers⟩ := json_determines_request left right made made'
  exact ⟨left, right, s, made, made', texts _ _, headers _ _⟩

end RestQuery
