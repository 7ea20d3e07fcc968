import RestQuery.Proofs.Call.Channels

/-!
# What calls select

Selectors reach a query through `select` and `selectJson` alone.  `Call.selection` is what a call
reads to be selected, and by `Call.selectors_of_run` the selectors after a run of calls are those
before it with all that the calls read, one call after the other, added to them.
-/

namespace RestQuery.Call

variable {write : QueryText} {pageSize : Value} {q r : Query}

/-- The selectors that a call reads; only two calls read any. -/
def selection : Call → Except Error (List Selector)
  | .select given => .ok (Selector.readAll given)
  | .selectJson given => Selector.readAllJson given
  | _ => .ok []

/-- The values that a call selects, one by one. -/
def selects : Call → List Value
  | .select given | .selectJson given => Selector.itemsOf given
  | _ => []

/-! ## Adding selectors -/

theorem addSelectors_nil (present : List Selector) : addSelectors present [] = .ok present := rfl

theorem addSelectors_cons (present : List Selector) (s : Selector) (further : List Selector) :
    addSelectors present (s :: further) = (do
      let kept := if ← s.among present then present else present ++ [s]
      addSelectors kept further) := by
  rw [addSelectors, List.foldlM_cons, bind_assoc]
  congr 1
  funext repeated
  cases repeated <;> rfl

theorem addSelectors_append (present first second : List Selector) :
    addSelectors present (first ++ second) = (do
      addSelectors (← addSelectors present first) second) := by
  rw [addSelectors, List.foldlM_append]
  rfl

/-- No selectors are added but the given ones. -/
theorem mem_of_addSelectors {present further kept : List Selector}
    (added : addSelectors present further = .ok kept) {s : Selector} (member : s ∈ kept) :
    s ∈ present ∨ s ∈ further := by
  induction further generalizing present with
  | nil =>
    cases added
    exact .inl member
  | cons s' further ih =>
    rw [addSelectors_cons] at added
    obtain ⟨repeated, _, rest⟩ := bind_eq_ok.1 added
    rcases ih rest with before | later
    · cases repeated with
      | true => exact .inl before
      | false =>
        rcases List.mem_append.1 before with earlier | new
        · exact .inl earlier
        · exact .inr (List.mem_singleton.1 new ▸ List.mem_cons_self)
    · exact .inr (List.mem_cons_of_mem s' later)

/-! ## Calls -/

theorem selectors_of_apply {c : Call} (step : apply write pageSize q c = .ok r) :
    ∃ read, c.selection = .ok read ∧ addSelectors q.selectors read = .ok r.selectors := by
  have unread (other : c.channel ≠ .selection) :
      addSelectors q.selectors [] = .ok r.selectors := by
    have kept := congrArg Query.selectors (only_of_apply other step)
    simp only [Query.only] at kept
    rw [addSelectors_nil, kept]
  cases c with
  | select given =>
    obtain ⟨selectors, added, made⟩ := bind_eq_ok.1 step
    cases made
    exact ⟨_, rfl, added⟩
  | selectJson given =>
    obtain ⟨read, parsed, step⟩ := bind_eq_ok.1 step
    obtain ⟨selectors, added, made⟩ := bind_eq_ok.1 step
    cases made
    exact ⟨read, parsed, added⟩
  | group connective children negated =>
    cases connective <;> exact ⟨[], rfl, unread (by simp [channel])⟩
  | _ => exact ⟨[], rfl, unread (by simp [channel])⟩

/-- A run of calls adds what its calls read to the selectors. -/
theorem selectors_of_run {calls : List Call} (made : run write pageSize q calls = .ok r) :
    ∃ read, calls.flatMapM selection = .ok read ∧
      addSelectors q.selectors read = .ok r.selectors := by
  induction calls generalizing q with
  | nil =>
    cases made
    exact ⟨[], rfl, rfl⟩
  | cons c cs ih =>
    rw [run_cons] at made
    obtain ⟨p, step, rest⟩ := bind_eq_ok.1 made
    obtain ⟨own, first, added⟩ := selectors_of_apply step
    obtain ⟨others, later, behind⟩ := ih rest
    refine ⟨own ++ others, ?_, ?_⟩
    · rw [List.flatMapM_cons, first, later]
      rfl
    · rw [addSelectors_append, added, ok_bind, behind]

/-- What holds of the selectors of a query, and of all that some calls read, holds of the selectors
after these calls. -/
theorem selectors_forall {motive : Selector → Prop} {calls : List Call}
    (present : ∀ s ∈ q.selectors, motive s)
    (each : ∀ c ∈ calls, ∀ read, c.selection = .ok read → ∀ s ∈ read, motive s)
    (made : run write pageSize q calls = .ok r) : ∀ s ∈ r.selectors, motive s := by
  obtain ⟨read, parsed, added⟩ := selectors_of_run made
  intro s member
  rcases mem_of_addSelectors added member with before | new
  · exact present s before
  · exact forall_of_flatMapM_eq_ok each parsed s new

end RestQuery.Call
