import RestQuery.Proofs.Snapshot.Agreement

/-!
# The two groupings of filters

Filters stand in a query in the order of the calls that gave them (`Call.filters_of_run`).  Where
they are written they are sorted by operator, and a snapshot has them in one list an operator.
`Filter.Grouped` is what both keep to: no filter is lost or repeated, the operators come in declared
order, and the filters of one operator in the order of the calls.  There is only one such order
(`Filter.Grouped.eq_arranged`), so by `Call.groupings_agree` the lists of a snapshot are one after
the other the sorted filters.
-/

namespace RestQuery

/-! ## Grouped filters -/

namespace Filter

/-- The filters `gs` are the filters `fs` operator by operator. -/
structure Grouped (fs gs : List Filter) : Prop where
  perm : gs.Perm fs
  ranked : Ranked gs
  stable : ∀ o, ofOperator o gs = ofOperator o fs

variable {fs gs : List Filter}

theorem grouped_arranged (fs : List Filter) : Grouped fs (arranged fs) :=
  ⟨arranged_perm fs, ranked_arranged fs, fun o => arranged_filter o fs⟩

theorem Grouped.eq_arranged (grouped : Grouped fs gs) : gs = arranged fs := by
  have own := grouped.ranked.eq_flatMap Operator.pairwise_rank_members
    fun f _ => LawfulVocabulary.mem_members f.operator
  rw [own, arranged_eq, byOperator]
  simp only [grouped.stable]

theorem grouped_iff : Grouped fs gs ↔ gs = arranged fs := by
  refine ⟨Grouped.eq_arranged, ?_⟩
  rintro rfl
  exact grouped_arranged fs

end Filter

/-! ## The filters of calls -/

namespace Call

variable {write : QueryText} {pageSize : Value} {q r : Query}

/-- The filters that a call gives; only one kind of call gives any. -/
def filtering (write : QueryText) : Call → Except Error (List Filter)
  | .filter operator column operand negated => do
    return [⟨operator, column, ← operandOf write operator column operand, negated⟩]
  | _ => .ok []

theorem filters_map_apply (q : Query) {c : Call} (other : ∀ o, c.channel ≠ .filters o) :
    Query.filters <$> apply write pageSize q c =
      (fun _ => q.filters) <$> apply write pageSize q c := by
  cases c with
  | filter operator column operand negated => exact absurd rfl (other operator)
  | group connective children negated =>
    simp only [apply, map_bind, map_pure]
    cases connective <;> rfl
  | columns given =>
    simp only [apply]
    cases given.asText? <;> simp only [map_bind, map_pure]
  | _ => simp only [apply, map_bind, map_pure] <;> rfl

theorem filters_of_apply {c : Call} (step : apply write pageSize q c = .ok r) :
    ∃ own, c.filtering write = .ok own ∧ r.filters = q.filters ++ own := by
  have unfiltered (other : ∀ o, c.channel ≠ .filters o) : r.filters = q.filters ++ [] := by
    have kept : Query.filters <$> apply write pageSize q c =
        (fun _ => q.filters) <$> apply write pageSize q c := filters_map_apply q other
    rw [step] at kept
    rw [List.append_nil]
    exact Except.ok.inj kept
  cases c with
  | filter operator column operand negated =>
    obtain ⟨kept, made, step⟩ := bind_eq_ok.1 step
    cases step
    refine ⟨_, ?_, rfl⟩
    rw [filtering, made]
    rfl
  | group connective children negated =>
    exact ⟨[], rfl, unfiltered (by cases connective <;> exact nofun)⟩
  | _ => exact ⟨[], rfl, unfiltered nofun⟩

/-- A run of calls puts the filters that its calls give behind those of the query. -/
theorem filters_of_run {calls : List Call} (made : run write pageSize q calls = .ok r) :
    ∃ own, calls.flatMapM (filtering write) = .ok own ∧ r.filters = q.filters ++ own := by
  induction calls generalizing q with
  | nil =>
    cases made
    exact ⟨[], rfl, (List.append_nil _).symm⟩
  | cons c cs ih =>
    rw [run_cons] at made
    obtain ⟨p, step, rest⟩ := bind_eq_ok.1 made
    obtain ⟨own, first, front⟩ := filters_of_apply step
    obtain ⟨others, later, behind⟩ := ih rest
    refine ⟨own ++ others, ?_, ?_⟩
    · rw [List.flatMapM_cons, first, later]
      rfl
    · rw [behind, front, List.append_assoc]

end Call

/-! ## The lists of a snapshot -/

theorem Value.member?_fields (fields : List (String × Value)) (name : String) :
    member? (fields.map fun (key, v) => (.text key, v)) name = fields.lookup name := by
  induction fields with
  | nil => rfl
  | cons field fields ih =>
    obtain ⟨key, v⟩ := field
    rw [lookup_field, ← ih, List.map_cons, member?, List.find?_cons, isKey]
    by_cases same : name = key
    · simp [asText?, same]
    · have other : (key == name) = false := by simpa using Ne.symm same
      simp [asText?, same, other, member?]

/-- The entries of a snapshot have the filters of every operator under its word. -/
theorem Query.member?_of_snapshot {q : Query} {v : Value} (shown : q.snapshot = .ok v) :
    ∃ entries, v = .dict entries ∧ ∀ o : Operator, Value.member? entries (word o) =
      some (.list ((Filter.ofOperator o q.filters).map Filter.snapshot)) := by
  obtain ⟨select, ands, ors, _, _, _, rfl⟩ := snapshot_eq_ok.1 shown
  refine ⟨_, rfl, fun o => ?_⟩
  rw [Value.member?_fields, lookup_operator]

/-- A query that was given nothing but filters has a snapshot. -/
theorem Query.snapshot_succeeds {q : Query} (selectors : q.selectors = [])
    (conjunctions : q.conjunctions = []) (disjunctions : q.disjunctions = []) :
    Succeeds q.snapshot := by
  refine ⟨_, snapshot_eq_ok.2 ⟨[], [], [], ?_, ?_, ?_, rfl⟩⟩
  · rw [selectors]; rfl
  · rw [conjunctions]; rfl
  · rw [disjunctions]; rfl

/-- The filters of a query are those that its calls give, in the order of the calls.  The sorted
filters, and no others, are these operator by operator.  The lists that a snapshot has for the
operators are one after the other the sorted filters as they are shown, and there is a snapshot if
all calls are for filters. -/
theorem Call.groupings_agree {write : QueryText} {pageSize : Value} {resource : String}
    {cardinality : Cardinality} {calls : List Call} {q : Query}
    (made : run write pageSize (.ofResource resource cardinality) calls = .ok q) :
    calls.flatMapM (filtering write) = .ok q.filters ∧
    (∀ gs, Filter.Grouped q.filters gs ↔ gs = Filter.arranged q.filters) ∧
    (∀ v, q.snapshot = .ok v → ∃ entries rows, v = .dict entries ∧
      (∀ o : Operator, Value.member? entries (word o) = some (.list (rows o))) ∧
      (Vocabulary.members : List Operator).flatMap rows =
        (Filter.arranged q.filters).map Filter.snapshot) ∧
    ((∀ c ∈ calls, ∃ o, c.channel = .filters o) → Succeeds q.snapshot) := by
  refine ⟨?_, fun gs => Filter.grouped_iff, fun v shown => ?_, fun filtering => ?_⟩
  · obtain ⟨own, given, behind⟩ := filters_of_run made
    rw [given, behind]
    rfl
  · obtain ⟨entries, rfl, rows⟩ := Query.member?_of_snapshot shown
    refine ⟨entries, _, rfl, rows, ?_⟩
    rw [Filter.arranged_eq, Filter.byOperator, List.map_flatMap]
  · have untouched (ch : Channel) (other : ∀ o, ch ≠ .filters o) :
        q.only ch = (Query.ofResource resource cardinality).only ch := by
      refine only_of_run (fun c member same => ?_) made
      obtain ⟨o, own⟩ := filtering c member
      exact other o (same.symm.trans own)
    exact Query.snapshot_succeeds
      (congrArg Query.selectors (untouched .selection (by simp)))
      (congrArg Query.conjunctions (untouched .conjunctions (by simp)))
      (congrArg Query.disjunctions (untouched .disjunctions (by simp)))

/-- Calls for two operators in turn, of which the last repeats the first. -/
def Call.shortFilms : List Call :=
  [.filter .lt (.text "length") (.int 90) false, .filter .eq (.text "id") (.int 5) true,
    .filter .lt (.text "year") (.int 2000) false, .filter .lt (.text "length") (.int 90) false]

/-- The repeated filter stands twice, and behind what was asked for in between. -/
theorem Call.groupings_agree_shortFilms :
    ∃ q entries rows, run (fun _ => .ok "") .null (.ofResource "films" .many) shortFilms = .ok q ∧
      q.snapshot = .ok (.dict entries) ∧
      (∀ o : Operator, Value.member? entries (word o) = some (.list (rows o))) ∧
      (Vocabulary.members : List Operator).flatMap rows =
        [.list [.text "id", .int 5, .bool true], .list [.text "length", .int 90, .bool false],
          .list [.text "year", .int 2000, .bool false],
          .list [.text "length", .int 90, .bool false]] := by
  have made : run (fun _ => .ok "") .null (.ofResource "films" .many) shortFilms =
      .ok { Query.ofResource "films" .many with
        filters := [⟨.lt, .text "length", .int 90, false⟩, ⟨.eq, .text "id", .int 5, true⟩,
          ⟨.lt, .text "year", .int 2000, false⟩, ⟨.lt, .text "length", .int 90, false⟩] } := rfl
  obtain ⟨_, _, shown, succeeds⟩ := groupings_agree made
  have filtering : ∀ c ∈ shortFilms, ∃ o, c.channel = .filters o := by
    simp [shortFilms, channel]
  obtain ⟨v, snapshot⟩ := succeeds filtering
  obtain ⟨entries, rows, rfl, members, same⟩ := shown v snapshot
  refine ⟨_, entries, rows, made, snapshot, members, ?_⟩
  rw [same, Filter.arranged_eq]
  rfl

end RestQuery
