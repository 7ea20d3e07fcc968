import RestQuery.Call
import RestQuery.Proofs.Filter.Arrangement
import RestQuery.Proofs.Sequencing

/-!
# The parts of a query that calls write

A `Channel` is a part of a query that some calls write and no others: the filters of one operator,
the conjunctions, the window and so on.  What a call makes of its part depends on that part alone
(`Call.apply_only`), and it leaves the others as they are (`Call.only_of_apply`).  So a run of calls
makes of each part what the calls of its channel make of it, and two runs with the same calls in
every channel agree in every part: `Call.Rearranged.run`.
-/

namespace RestQuery

/-- The parts of a query that calls write: one for the filters of each operator. -/
inductive Channel where
  | selection | filters (o : Operator) | conjunctions | disjunctions | ordering | window | columns
  | count | returning | conflict | missing | schema | cardinality | inner
deriving DecidableEq

/-- The part that a call writes. -/
def Call.channel : Call → Channel
  | .filter operator _ _ _ => .filters operator
  | .group .and _ _ => .conjunctions
  | .group .or _ _ => .disjunctions
  | .select _ | .selectJson _ => .selection
  | .order _ => .ordering
  | .offset _ | .limit _ | .page _ _ => .window
  | .columns _ => .columns
  | .count _ => .count
  | .returning _ => .returning
  | .onConflict _ _ => .conflict
  | .missing _ => .missing
  | .schema _ => .schema
  | .single => .cardinality
  | .inner => .inner

/-- A query reduced to its resource and one of its parts. -/
def Query.only (ch : Channel) (q : Query) : Query :=
  let blank := ofResource q.resource .many
  match ch with
  | .selection => { blank with selectors := q.selectors }
  | .filters o => { blank with filters := Filter.ofOperator o q.filters }
  | .conjunctions => { blank with conjunctions := q.conjunctions }
  | .disjunctions => { blank with disjunctions := q.disjunctions }
  | .ordering => { blank with ordering := q.ordering }
  | .window => { blank with window := q.window }
  | .columns => { blank with columns := q.columns }
  | .count => { blank with preferences := { Preferences.none with count := q.preferences.count } }
  | .returning =>
    { blank with preferences := { Preferences.none with returning := q.preferences.returning } }
  | .conflict =>
    { blank with
      preferences := { Preferences.none with resolution := q.preferences.resolution }
      onConflict := q.onConflict }
  | .missing =>
    { blank with preferences := { Preferences.none with missing := q.preferences.missing } }
  | .schema => { blank with schema := q.schema }
  | .cardinality => { blank with cardinality := q.cardinality }
  | .inner => { blank with inner := q.inner }

namespace Call

variable {write : QueryText} {pageSize : Value}

/-- A call does to its own part what it does to the whole query, and it fails on both alike. -/
theorem apply_only (q : Query) (c : Call) :
    apply write pageSize (q.only c.channel) c =
      Query.only c.channel <$> apply write pageSize q c := by
  cases c with
  | filter operator column operand negated =>
    simp only [apply, channel, map_bind, map_pure]
    congr 1
    funext operand
    simp [Query.only, Filter.ofOperator]
  | group connective children negated =>
    cases connective <;> simp only [apply, channel, map_bind, map_pure] <;> rfl
  | columns given =>
    simp only [apply, channel]
    cases given.asText? with
    | some text => rfl
    | none =>
      simp only [map_bind, map_pure]
      rfl
  | _ =>
    simp only [apply, channel, map_bind, map_pure]
    rfl

/-- A call leaves the other parts as they are. -/
theorem only_map_apply (q : Query) {c : Call} {ch : Channel} (other : c.channel ≠ ch) :
    Query.only ch <$> apply write pageSize q c =
      (fun _ => q.only ch) <$> apply write pageSize q c := by
  cases c with
  | filter operator column operand negated =>
    simp only [apply, map_bind, map_pure]
    congr 1
    funext operand
    cases ch with
    | filters o =>
      have different : operator ≠ o := fun same => other (congrArg Channel.filters same)
      simp [Query.only, Filter.ofOperator, different]
    | _ => rfl
  | group connective children negated =>
    simp only [apply, map_bind, map_pure]
    cases connective <;> cases ch <;> first | rfl | exact absurd rfl other
  | columns given =>
    simp only [apply]
    cases given.asText? <;> simp only [map_bind, map_pure] <;> cases ch <;>
      first | rfl | exact absurd rfl other
  | _ =>
    simp only [apply, map_bind, map_pure]
    cases ch <;> first | rfl | exact absurd rfl other

theorem only_of_apply {q q' : Query} {c : Call} {ch : Channel} (other : c.channel ≠ ch)
    (step : apply write pageSize q c = .ok q') : q'.only ch = q.only ch := by
  have kept : Query.only ch <$> apply write pageSize q c =
      (fun _ => q.only ch) <$> apply write pageSize q c := only_map_apply q other
  rw [step] at kept
  exact Except.ok.inj kept

theorem run_cons (q : Query) (c : Call) (cs : List Call) :
    run write pageSize q (c :: cs) = (do run write pageSize (← apply write pageSize q c) cs) := by
  rw [run, List.foldlM_cons]
  rfl

/-- The calls of one channel make of its part what the whole run makes of it. -/
theorem run_only (ch : Channel) {q q' : Query} {calls : List Call}
    (made : run write pageSize q calls = .ok q') :
    run write pageSize (q.only ch) (calls.filter (·.channel = ch)) = .ok (q'.only ch) := by
  induction calls generalizing q with
  | nil =>
    cases made
    rfl
  | cons c cs ih =>
    rw [run_cons] at made
    obtain ⟨q₁, step, rest⟩ := bind_eq_ok.1 made
    by_cases own : c.channel = ch
    · subst own
      rw [List.filter_cons_of_pos (by simp), run_cons, apply_only, step]
      exact ih rest
    · rw [List.filter_cons_of_neg (by simpa using own), ← only_of_apply own step]
      exact ih rest

/-- A run leaves the parts as they are that none of its calls writes. -/
theorem only_of_run {ch : Channel} {q q' : Query} {calls : List Call}
    (other : ∀ c ∈ calls, c.channel ≠ ch) (made : run write pageSize q calls = .ok q') :
    q'.only ch = q.only ch := by
  have part := run_only ch made
  rw [List.filter_eq_nil_iff.2 fun c member => by simpa using other c member] at part
  exact (Except.ok.inj part).symm

/-- A run succeeds if the calls of every channel do on their part. -/
theorem run_succeeds {calls : List Call} :
    ∀ {q : Query}, (∀ ch, Succeeds (run write pageSize (q.only ch)
      (calls.filter (·.channel = ch)))) → Succeeds (run write pageSize q calls) := by
  induction calls with
  | nil => exact fun _ => .pure _
  | cons c cs ih =>
    intro q each
    obtain ⟨part, made⟩ := each c.channel
    rw [List.filter_cons_of_pos (by simp), run_cons] at made
    obtain ⟨p, first, made⟩ := bind_eq_ok.1 made
    rw [apply_only] at first
    obtain ⟨q₁, step, rfl⟩ := map_eq_ok.1 first
    have rest : ∀ ch, Succeeds (run write pageSize (q₁.only ch)
        (cs.filter (·.channel = ch))) := by
      intro ch
      by_cases own : c.channel = ch
      · subst own
        exact ⟨part, made⟩
      · have others := each ch
        rw [List.filter_cons_of_neg (by simpa using own), ← only_of_apply own step] at others
        exact others
    rw [run_cons, step]
    exact ih rest

/-! ## Rearranged calls -/

/-- The same calls, those of each channel in the same order. -/
def Rearranged (calls calls' : List Call) : Prop :=
  ∀ ch, calls.filter (·.channel = ch) = calls'.filter (·.channel = ch)

/-- Rearranged calls are a permutation. -/
theorem Rearranged.perm {calls calls' : List Call} (same : Rearranged calls calls') :
    calls.Perm calls' := by
  induction calls generalizing calls' with
  | nil =>
    cases calls' with
    | nil => exact .nil
    | cons c cs =>
      have none := same c.channel
      rw [List.filter_cons_of_pos (by simp)] at none
      cases none
  | cons c cs ih =>
    have first := same c.channel
    rw [List.filter_cons_of_pos (by simp)] at first
    obtain ⟨before, after, rfl, skipped, _, rest⟩ := List.filter_eq_cons_iff.1 first.symm
    have removed : Rearranged cs (before ++ after) := by
      intro ch
      by_cases own : c.channel = ch
      · subst own
        rw [List.filter_append, List.filter_eq_nil_iff.2 skipped, List.nil_append]
        exact rest.symm
      · have others := same ch
        rw [List.filter_cons_of_neg (by simpa using own), List.filter_append,
          List.filter_cons_of_neg (by simpa using own), ← List.filter_append] at others
        exact others
    exact (ih removed |>.cons c).trans List.perm_middle.symm

/-- Rearranged calls succeed together and agree in every part. -/
theorem Rearranged.run {calls calls' : List Call} (same : Rearranged calls calls') {q q₁ : Query}
    (made : Call.run write pageSize q calls = .ok q₁) :
    ∃ q₂, Call.run write pageSize q calls' = .ok q₂ ∧ ∀ ch, q₁.only ch = q₂.only ch := by
  have parts : ∀ ch, Call.run write pageSize (q.only ch) (calls'.filter (·.channel = ch)) =
      .ok (q₁.only ch) := by
    intro ch
    rw [← same ch]
    exact run_only ch made
  obtain ⟨q₂, made'⟩ := run_succeeds fun ch => ⟨_, parts ch⟩
  refine ⟨q₂, made', fun ch => ?_⟩
  have again := run_only ch made'
  rw [parts ch] at again
  exact Except.ok.inj again

end Call

/-- Queries that agree in every part differ at most in the places of filters of different
operators. -/
theorem Query.eq_of_only {q r : Query} (same : ∀ ch, q.only ch = r.only ch) :
    r = { q with filters := r.filters } ∧
      ∀ o, Filter.ofOperator o q.filters = Filter.ofOperator o r.filters := by
  refine ⟨?_, fun o => congrArg filters (same (.filters o))⟩
  have selection := congrArg selectors (same .selection)
  have resource := congrArg resource (same .selection)
  have conjunctions := congrArg conjunctions (same .conjunctions)
  have disjunctions := congrArg disjunctions (same .disjunctions)
  have ordering := congrArg ordering (same .ordering)
  have window := congrArg window (same .window)
  have columns := congrArg columns (same .columns)
  have count := congrArg (·.preferences.count) (same .count)
  have returning := congrArg (·.preferences.returning) (same .returning)
  have resolution := congrArg (·.preferences.resolution) (same .conflict)
  have missing := congrArg (·.preferences.missing) (same .missing)
  have conflict := congrArg onConflict (same .conflict)
  have schema := congrArg schema (same .schema)
  have cardinality := congrArg cardinality (same .cardinality)
  have inner := congrArg inner (same .inner)
  obtain ⟨_, _, _, _, _, _, _, _, ⟨_, _, _, _⟩, _, _, _, _⟩ := q
  obtain ⟨_, _, _, _, _, _, _, _, ⟨_, _, _, _⟩, _, _, _, _⟩ := r
  simp only [only, ofResource, Preferences.none] at *
  simp_all

end RestQuery
