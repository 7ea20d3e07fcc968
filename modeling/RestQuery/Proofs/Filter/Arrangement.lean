import Mathlib.Data.List.Basic
import RestQuery.Clause.Filters
import RestQuery.Proofs.Sorting

/-!
# Filters in the order of their operators

`Filter.arranged` sorts by the rank of the operator.  The sort is stable, so the filters of one
operator keep their order (`Filter.arranged_filter`), and the whole is the filters of the first
operator, then those of the second and so on: `Filter.arranged_eq`.
-/

namespace RestQuery

namespace Operator

theorem rank_injective {o o' : Operator} (same : o.rank = o'.rank) : o = o' := by
  cases o <;> cases o' <;> first | rfl | exact absurd same (by decide)

/-- The declared order is the order of ranks. -/
theorem pairwise_rank_members :
    (Vocabulary.members : List Operator).Pairwise fun o o' => o.rank < o'.rank := by
  decide

end Operator

namespace Filter

/-- Filters in which no operator comes before one of lower rank. -/
def Ranked (fs : List Filter) : Prop :=
  fs.Pairwise fun f g => f.operator.rank ≤ g.operator.rank

/-- The filters of one operator. -/
def ofOperator (o : Operator) (fs : List Filter) : List Filter :=
  fs.filter fun f => f.operator = o

/-- The filters of the first operator in declared order, then those of the second and so on. -/
def byOperator (fs : List Filter) : List Filter :=
  (Vocabulary.members : List Operator).flatMap fun o => ofOperator o fs

/-! ## The sort -/

theorem arranged_perm (fs : List Filter) : (arranged fs).Perm fs :=
  List.mergeSort_perm fs _

theorem ranked_arranged (fs : List Filter) : Ranked (arranged fs) := by
  have sorted : (arranged fs).Pairwise fun f g =>
      decide (f.operator.rank ≤ g.operator.rank) = true :=
    List.pairwise_mergeSort (by simpa using fun _ _ _ => Nat.le_trans)
      (by simpa using fun _ _ => Nat.le_total _ _) fs
  simpa only [Ranked, decide_eq_true_eq] using sorted

/-- The sort keeps the filters of one operator in their order. -/
theorem arranged_filter (o : Operator) (fs : List Filter) :
    ofOperator o (arranged fs) = ofOperator o fs := by
  refine filter_mergeSort ?_ ?_ ?_ fs
  · simpa using fun _ _ _ => Nat.le_trans
  · simpa using fun _ _ => Nat.le_total _ _
  · intro f g first second
    rw [of_decide_eq_true first, of_decide_eq_true second]
    simp

/-! ## Sorted filters operator by operator -/

/-- Sorted filters, none of which ranks below `o`, start with those of `o`. -/
theorem Ranked.split {o : Operator} {fs : List Filter} (sorted : Ranked fs)
    (least : ∀ f ∈ fs, o.rank ≤ f.operator.rank) :
    fs = ofOperator o fs ++ fs.filter (fun f => f.operator ≠ o) := by
  induction fs with
  | nil => rfl
  | cons f fs ih =>
    obtain ⟨first, rest⟩ := List.pairwise_cons.1 sorted
    by_cases same : f.operator = o
    · have later := ih rest fun g member => least g (List.mem_cons_of_mem f member)
      have own : ofOperator o (f :: fs) = f :: ofOperator o fs :=
        List.filter_cons_of_pos (decide_eq_true same)
      have other : (f :: fs).filter (fun g => g.operator ≠ o) =
          fs.filter (fun g => g.operator ≠ o) :=
        List.filter_cons_of_neg (by simpa using same)
      rw [own, other, List.cons_append, ← later]
    · -- An operator above `o` stands first, so `o` does not occur at all.
      have above : o.rank < f.operator.rank := by
        have atLeast := least f List.mem_cons_self
        have apart : o.rank ≠ f.operator.rank := fun equal =>
          same (Operator.rank_injective equal).symm
        omega
      have different : ∀ g ∈ f :: fs, g.operator ≠ o := by
        intro g member equal
        rcases List.mem_cons.1 member with rfl | member
        · exact same equal
        · have := first g member
          rw [equal] at this
          omega
      have none : ofOperator o (f :: fs) = [] := by
        simpa [ofOperator] using different
      have all : (f :: fs).filter (fun g => g.operator ≠ o) = f :: fs :=
        List.filter_eq_self.2 fun g member => decide_eq_true (different g member)
      rw [none, all, List.nil_append]

/-- Sorted filters are their own arrangement operator by operator. -/
theorem Ranked.eq_flatMap {os : List Operator}
    (ordered : os.Pairwise fun o o' => o.rank < o'.rank) :
    ∀ {fs : List Filter}, Ranked fs → (∀ f ∈ fs, f.operator ∈ os) →
      fs = os.flatMap fun o => ofOperator o fs := by
  induction os with
  | nil =>
    intro fs _ within
    exact List.eq_nil_iff_forall_not_mem.2 fun f member => by simpa using within f member
  | cons o os ih =>
    intro fs sorted within
    obtain ⟨first, rest⟩ := List.pairwise_cons.1 ordered
    have least : ∀ f ∈ fs, o.rank ≤ f.operator.rank := by
      intro f member
      rcases List.mem_cons.1 (within f member) with equal | later
      · exact Nat.le_of_eq (congrArg Operator.rank equal.symm)
      · exact Nat.le_of_lt (first _ later)
    have remaining : ∀ f ∈ fs.filter (fun f => f.operator ≠ o), f.operator ∈ os := by
      intro f member
      obtain ⟨member, different⟩ := List.mem_filter.1 member
      rcases List.mem_cons.1 (within f member) with equal | later
      · exact absurd equal (of_decide_eq_true different)
      · exact later
    have others := ih rest (List.Pairwise.filter _ sorted) remaining
    have same : ∀ o' ∈ os,
        ofOperator o' (fs.filter fun f => f.operator ≠ o) = ofOperator o' fs := by
      intro o' member
      have apart : o' ≠ o := by
        rintro rfl
        exact Nat.lt_irrefl _ (first _ member)
      rw [ofOperator, ofOperator, List.filter_filter]
      apply List.filter_congr
      intro f _
      by_cases equal : f.operator = o'
      · simp [equal, apart]
      · simp [equal]
    calc fs = ofOperator o fs ++ fs.filter (fun f => f.operator ≠ o) := sorted.split least
      _ = ofOperator o fs ++ os.flatMap (fun o' => ofOperator o' fs) := by
        rw [others]
        congr 1
        exact List.flatMap_congr same

theorem arranged_eq (fs : List Filter) : arranged fs = byOperator fs := by
  have sorted := (ranked_arranged fs).eq_flatMap Operator.pairwise_rank_members
    fun f _ => LawfulVocabulary.mem_members f.operator
  rw [sorted, byOperator]
  simp only [arranged_filter]

end Filter

end RestQuery
