import RestQuery.Header.Merge
import RestQuery.Proofs.Call.Channels
import RestQuery.Proofs.Embedding.Collect
import RestQuery.Proofs.Value.TextKey
import RestQuery.QueryString
import RestQuery.Snapshot

/-!
# Calls that do not depend on each other

Filters stand in one list, whatever their operators, so calls for two operators do not commute as
operations on queries.  But all that is made of a query takes its filters operator by operator:
the snapshot, the parameters and the header fields are the same for `Query.refiltered` queries, and
by `Call.independent_calls` for the results of all arrangements of the calls.
-/

namespace RestQuery

/-- A query with other filters. -/
def Query.refiltered (q : Query) (fs : List Filter) : Query := { q with filters := fs }

section Refiltered

variable {q : Query} {fs : List Filter}

theorem Filter.arranged_congr {fs gs : List Filter}
    (same : ∀ o, ofOperator o fs = ofOperator o gs) : arranged fs = arranged gs := by
  rw [arranged_eq, arranged_eq, byOperator, byOperator]
  simp only [same]

theorem Filter.snapshots_congr {fs gs : List Filter}
    (same : ∀ o, ofOperator o fs = ofOperator o gs) : snapshots fs = snapshots gs := by
  have each : ∀ o, (fs.filter fun f => f.operator = o) = gs.filter fun f => f.operator = o := same
  simp only [snapshots, each]

theorem Query.snapshot_refiltered (same : ∀ o, Filter.ofOperator o q.filters =
    Filter.ofOperator o fs) : (q.refiltered fs).snapshot = q.snapshot := by
  rcases q with ⟨⟩
  simp only [refiltered, snapshot, Filter.snapshots_congr same]

/-- The parameters are those of the same query with its filters in another order. -/
theorem Query.parameters_refiltered (write : QueryText) (same : ∀ o,
    Filter.ofOperator o q.filters = Filter.ofOperator o fs) :
    (q.refiltered fs).parameters write = q.parameters write := by
  have filters : (q.refiltered fs).filterPairs write = q.filterPairs write := by
    have own : (q.refiltered fs).ownFilterPairs write "" = q.ownFilterPairs write "" := by
      rw [ownFilterPairs, ownFilterPairs, refiltered, Filter.arranged_congr same]
    rw [filterPairs, filterPairs, collect_embeddings, collect_embeddings, own]
    rfl
  rw [parameters, parameters, filters]
  rcases q with ⟨⟩
  rfl

end Refiltered

/-- A run of calls and any rearrangement of it that keeps the calls of each channel in their order
give queries with the same snapshot, the same parameters and the same header fields, failures
included.  The queries differ at most in the places of filters of different operators. -/
theorem Call.independent_calls (write : QueryText) (pageSize : Value) {q q₁ : Query}
    {calls calls' : List Call} (same : Rearranged calls calls')
    (made : run write pageSize q calls = .ok q₁) :
    ∃ q₂, run write pageSize q calls' = .ok q₂ ∧ q₂.snapshot = q₁.snapshot ∧
      (∀ write', q₂.parameters write' = q₁.parameters write') ∧
      (∀ method caller, q₂.requestHeaders method caller = q₁.requestHeaders method caller) ∧
      q₂ = { q₁ with filters := q₂.filters } ∧ q₂.filters.Perm q₁.filters := by
  obtain ⟨q₂, made', parts⟩ := same.run made
  obtain ⟨refiltered, operators⟩ := Query.eq_of_only parts
  have perm : q₂.filters.Perm q₁.filters := by
    have arranged := Filter.arranged_perm q₁.filters
    rw [Filter.arranged_congr operators] at arranged
    exact (Filter.arranged_perm q₂.filters).symm.trans arranged
  refine ⟨q₂, made', ?_, fun write' => ?_, fun method caller => ?_, refiltered, perm⟩
  · rw [refiltered]
    exact Query.snapshot_refiltered operators
  · rw [refiltered]
    exact Query.parameters_refiltered write' operators
  · rw [refiltered]
    rfl

/-- Films before 1990 with another title, a few of them. -/
def Call.oldFilms : List Call :=
  [.filter .lt (.text "year") (.int 1990) false, .select (.list [.text "title"]),
    .filter .neq (.text "title") (.text "Up") false, .filter .lt (.text "id") (.int 7) true,
    .limit (.int 5), .schema (.text "archive"), .offset (.int 2)]

/-- The same calls in another order. -/
def Call.oldFilmsRearranged : List Call :=
  [.limit (.int 5), .filter .neq (.text "title") (.text "Up") false, .schema (.text "archive"),
    .filter .lt (.text "year") (.int 1990) false, .offset (.int 2),
    .filter .lt (.text "id") (.int 7) true, .select (.list [.text "title"])]

/-- Films of the archive with some filters. -/
def Query.archiveFilms (fs : List Filter) : Query :=
  { ofResource "films" .many with
    selectors := [.column (.text "title")]
    filters := fs
    window := ⟨2, some 5⟩
    schema := .text "archive" }

/-- Filters of different operators make them unequal. -/
theorem Query.archiveFilms_equal {f g : Filter} (fs gs : List Filter)
    (different : f.operator ≠ g.operator) :
    (archiveFilms (f :: fs)).equal (archiveFilms (g :: gs)) = .ok false := by
  have title : (Value.text "title").equal (.text "title") = .ok true := by
    rw [Value.equal_of_asText? rfl rfl, beq_self_eq_true]
  have operators : (f.operator == g.operator) = false := by simpa using different
  have filters : Filter.equalAll (f :: fs) (g :: gs) = .ok false := by
    rcases f with ⟨operator, column, operand, negated⟩
    simp only [Filter.equalAll, Filter.equal, operators]
    rfl
  simp only [archiveFilms, ofResource, equal, Selector.equalAll, Selector.equal, title, filters]
  simp [Verdict.both]

/-- The two runs make queries that are not equal, and of which the same is made. -/
theorem Call.independent_calls_oldFilms :
    Rearranged oldFilms oldFilmsRearranged ∧
    ∃ q₁ q₂, run (fun _ => .ok "") .null (.ofResource "films" .many) oldFilms = .ok q₁ ∧
      run (fun _ => .ok "") .null (.ofResource "films" .many) oldFilmsRearranged = .ok q₂ ∧
      q₁.equal q₂ = .ok false ∧ q₂.snapshot = q₁.snapshot ∧
      ∀ write', q₂.parameters write' = q₁.parameters write' := by
  have same : Rearranged oldFilms oldFilmsRearranged := by
    intro ch
    cases ch with
    | filters o => cases o <;> rfl
    | _ => rfl
  have made : run (fun _ => .ok "") .null (.ofResource "films" .many) oldFilms =
      .ok (.archiveFilms [⟨.lt, .text "year", .int 1990, false⟩,
        ⟨.neq, .text "title", .text "Up", false⟩, ⟨.lt, .text "id", .int 7, true⟩]) := rfl
  have made' : run (fun _ => .ok "") .null (.ofResource "films" .many) oldFilmsRearranged =
      .ok (.archiveFilms [⟨.neq, .text "title", .text "Up", false⟩,
        ⟨.lt, .text "year", .int 1990, false⟩, ⟨.lt, .text "id", .int 7, true⟩]) := rfl
  obtain ⟨q₂, run₂, snapshot, parameters, _⟩ := independent_calls _ _ same made
  cases made'.symm.trans run₂
  exact ⟨same, _, _, made, made', Query.archiveFilms_equal _ _ (by decide), snapshot, parameters⟩

end RestQuery
