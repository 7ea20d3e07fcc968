import Mathlib.Data.List.Forall2
import RestQuery.Text.Basic

/-!
# Stable sorting

Merge sort keeps the elements of one rank in their order (`filter_mergeSort`).  So members that are
sorted by their names have under every name what they had before (`lookup_mergeSort`), and lists
that agree position by position still agree when both are sorted (`forall₂_mergeSort`).
-/

namespace RestQuery

section Ranks

variable {α β : Type} {le : α → α → Bool}

/-- The sort keeps the elements of one rank in their order. -/
theorem filter_mergeSort (trans : ∀ a b c, le a b → le b c → le a c)
    (total : ∀ a b, le a b || le b a) {p : α → Bool}
    (level : ∀ a b, p a → p b → le a b) (xs : List α) :
    (xs.mergeSort le).filter p = xs.filter p := by
  have sorted : (xs.filter p).Pairwise fun a b => le a b = true := by
    rw [List.pairwise_iff_forall_sublist]
    intro a b pair
    have ha : a ∈ xs.filter p := pair.subset (by simp)
    have hb : b ∈ xs.filter p := pair.subset (by simp)
    exact level a b (List.mem_filter.1 ha).2 (List.mem_filter.1 hb).2
  have kept : (xs.filter p).Sublist (xs.mergeSort le) :=
    List.sublist_mergeSort trans total sorted List.filter_sublist
  have inside : (xs.filter p).Sublist ((xs.mergeSort le).filter p) := by
    have restricted := kept.filter p
    simpa only [List.filter_filter, Bool.and_self] using restricted
  exact (inside.eq_of_length ((List.mergeSort_perm xs le).filter p).length_eq.symm).symm

/-- Lists that agree position by position do so after sorting, if what agrees has one rank. -/
theorem forall₂_mergeSort {le' : β → β → Bool} {R : α → β → Prop} {xs : List α} {ys : List β}
    (ranks : ∀ a b c d, R a b → R c d → le a c = le' b d) (agree : List.Forall₂ R xs ys) :
    List.Forall₂ R (xs.mergeSort le) (ys.mergeSort le') := by
  obtain ⟨length, pairs⟩ := List.forall₂_iff_zip.1 agree
  have first : (xs.zip ys).map Prod.fst = xs := List.map_fst_zip (Nat.le_of_eq length)
  have second : (xs.zip ys).map Prod.snd = ys := List.map_snd_zip (Nat.le_of_eq length.symm)
  -- Both lists are read off one sorted list of pairs.
  let sorted := (xs.zip ys).mergeSort fun p q => le p.1 q.1
  have left : xs.mergeSort le = sorted.map Prod.fst := by
    rw [List.map_mergeSort (s := le) fun _ _ _ _ => rfl, first]
  have right : ys.mergeSort le' = sorted.map Prod.snd := by
    rw [List.map_mergeSort (s := le') fun p hp q hq => ranks _ _ _ _ (pairs hp) (pairs hq), second]
  rw [left, right, List.forall₂_map_left_iff, List.forall₂_map_right_iff, List.forall₂_same]
  exact fun p member => pairs (List.mem_mergeSort.1 member)

end Ranks

/-! ## Members under their names -/

section Members

variable {β : Type}

theorem Text.atMost_trans (r s t : String) (first : Text.atMost r s) (second : Text.atMost s t) :
    Text.atMost r t := by
  simp only [Text.atMost, Bool.not_eq_true', decide_eq_false_iff_not, String.not_lt]
    at first second ⊢
  exact String.le_trans first second

theorem Text.atMost_total (s t : String) : Text.atMost s t || Text.atMost t s := by
  simp only [Text.atMost, Bool.or_eq_true, Bool.not_eq_true', decide_eq_false_iff_not,
    String.not_lt]
  exact String.le_total s t

/-- Only the members of the name itself matter. -/
theorem lookup_filter (name : String) (members : List (String × β)) :
    (members.filter fun m => name == m.1).lookup name = members.lookup name := by
  induction members with
  | nil => rfl
  | cons m ms ih =>
    obtain ⟨key, value⟩ := m
    cases same : name == key with
    | true => simp [List.lookup_cons, same]
    | false => simpa [List.filter_cons, List.lookup_cons, same] using ih

/-- Sorting by names changes nothing under a name. -/
theorem lookup_mergeSort (name : String) (members : List (String × β)) :
    (members.mergeSort fun m n => Text.atMost m.1 n.1).lookup name = members.lookup name := by
  rw [← lookup_filter, filter_mergeSort, lookup_filter]
  · exact fun l m n => Text.atMost_trans l.1 m.1 n.1
  · exact fun m n => Text.atMost_total m.1 n.1
  · intro m n here there
    rw [← eq_of_beq here, ← eq_of_beq there]
    simp [Text.atMost]

end Members

end RestQuery
