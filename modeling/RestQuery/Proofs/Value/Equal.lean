import Mathlib.Data.List.Forall2
import RestQuery.Proofs.Value.TextKey

/-!
# Equal parts

A comparison of compound values says yes exactly if the comparisons of all their parts do.  There is
one such fact for every sort of compound value, down to `Query.equal_iff`; lists are compared
position by position.  Equal values are both given or both not (`Value.isGiven_of_equal`).
-/

namespace RestQuery

open Verdict (both)

namespace Verdict

theorem both_eq_ok_true {v w : Verdict} : both v w = .ok true ↔ v = .ok true ∧ w = .ok true := by
  rcases v with cause | _ | _ <;> simp [both]

theorem ok_beq_eq_ok_true {α : Type} [BEq α] [LawfulBEq α] {a b : α} :
    (.ok (a == b) : Verdict) = .ok true ↔ a = b := by
  rw [Except.ok.injEq, beq_iff_eq]

/-- A run through two lists that compares them item by item. -/
structure RunsThrough {α : Type} (compare : α → α → Verdict) (run : List α → List α → Verdict) :
    Prop where
  nil : ∀ ys, run [] ys = .ok ys.isEmpty
  more : ∀ x xs, run (x :: xs) [] = .ok false
  cons : ∀ x xs y ys, run (x :: xs) (y :: ys) = both (compare x y) (run xs ys)

theorem RunsThrough.eq_ok_true {α : Type} {compare : α → α → Verdict}
    {run : List α → List α → Verdict} (runs : RunsThrough compare run) {xs ys : List α} :
    run xs ys = .ok true ↔ List.Forall₂ (fun x y => compare x y = .ok true) xs ys := by
  induction xs generalizing ys with
  | nil => rw [runs.nil, List.forall₂_nil_left_iff, Except.ok.injEq, List.isEmpty_iff]
  | cons x xs ih =>
    cases ys with
    | nil => simp [runs.more]
    | cons y ys => rw [runs.cons, both_eq_ok_true, ih, List.forall₂_cons]

end Verdict

open Verdict (both_eq_ok_true ok_beq_eq_ok_true)

section Lists

theorem Value.equalAll_runs : Verdict.RunsThrough Value.equal Value.equalAll where
  nil _ := by unfold equalAll; rfl
  more _ _ := by unfold equalAll; rfl
  cons _ _ _ _ := by rw [equalAll]

theorem Value.equalAll_iff {vs ws : List Value} :
    Value.equalAll vs ws = .ok true ↔ List.Forall₂ (fun v w => v.equal w = .ok true) vs ws :=
  equalAll_runs.eq_ok_true

theorem Selector.equalAll_runs : Verdict.RunsThrough Selector.equal Selector.equalAll where
  nil _ := by unfold equalAll; rfl
  more _ _ := by unfold equalAll; rfl
  cons _ _ _ _ := by rw [equalAll]

theorem Selector.equalAll_iff {ss ts : List Selector} :
    Selector.equalAll ss ts = .ok true ↔ List.Forall₂ (fun s t => s.equal t = .ok true) ss ts :=
  equalAll_runs.eq_ok_true

theorem Filter.equalAll_runs : Verdict.RunsThrough Filter.equal Filter.equalAll where
  nil _ := by unfold equalAll; rfl
  more _ _ := by unfold equalAll; rfl
  cons _ _ _ _ := by rw [equalAll]

theorem Filter.equalAll_iff {fs gs : List Filter} :
    Filter.equalAll fs gs = .ok true ↔ List.Forall₂ (fun f g => f.equal g = .ok true) fs gs :=
  equalAll_runs.eq_ok_true

theorem FilterGroup.equalAll_runs : Verdict.RunsThrough FilterGroup.equal FilterGroup.equalAll where
  nil _ := by unfold equalAll; rfl
  more _ _ := by unfold equalAll; rfl
  cons _ _ _ _ := by rw [equalAll]

theorem FilterGroup.equalAll_iff {gs hs : List FilterGroup} :
    FilterGroup.equalAll gs hs = .ok true ↔ List.Forall₂ (fun g h => g.equal h = .ok true) gs hs :=
  equalAll_runs.eq_ok_true

theorem SortKey.equalAll_runs : Verdict.RunsThrough SortKey.equal SortKey.equalAll where
  nil _ := by unfold equalAll; rfl
  more _ _ := by unfold equalAll; rfl
  cons _ _ _ _ := by rw [equalAll]

theorem SortKey.equalAll_iff {ks ls : List SortKey} :
    SortKey.equalAll ks ls = .ok true ↔ List.Forall₂ (fun k l => k.equal l = .ok true) ks ls :=
  equalAll_runs.eq_ok_true

theorem Query.equalAll_runs : Verdict.RunsThrough Query.equal Query.equalAll where
  nil _ := by unfold equalAll; rfl
  more _ _ := by unfold equalAll; rfl
  cons _ _ _ _ := by rw [equalAll]

theorem Query.equalAll_iff {qs rs : List Query} :
    Query.equalAll qs rs = .ok true ↔ List.Forall₂ (fun q r => q.equal r = .ok true) qs rs :=
  equalAll_runs.eq_ok_true

end Lists

section Records

theorem Filter.equal_iff {f g : Filter} :
    f.equal g = .ok true ↔ f.operator = g.operator ∧ f.column.equal g.column = .ok true ∧
      f.operand.equal g.operand = .ok true ∧ f.negated = g.negated := by
  rcases f with ⟨operator, column, operand, negated⟩
  simp only [equal, both_eq_ok_true, ok_beq_eq_ok_true]

theorem FilterGroup.equal_iff {g h : FilterGroup} :
    g.equal h = .ok true ↔ g.connective = h.connective ∧
      List.Forall₂ (fun q r => q.equal r = .ok true) g.queries h.queries ∧
      g.negated = h.negated := by
  rcases g with ⟨connective, queries, negated⟩
  simp only [equal, both_eq_ok_true, ok_beq_eq_ok_true, Query.equalAll_iff]

theorem SortKey.equal_iff {k l : SortKey} :
    k.equal l = .ok true ↔ k.column.equal l.column = .ok true ∧
      (k.direction = l.direction ∧ k.nulls = l.nulls) ∧ k.top.equal l.top = .ok true := by
  rcases k with ⟨column, direction, nulls, top⟩
  simp only [equal, both_eq_ok_true, Except.ok.injEq, Bool.and_eq_true, beq_iff_eq]

/-- Two queries that are equal in all their parts. -/
structure Query.EqualParts (q r : Query) : Prop where
  resource : q.resource = r.resource
  cardinality : q.cardinality = r.cardinality
  selectors : List.Forall₂ (fun s t => s.equal t = .ok true) q.selectors r.selectors
  filters : List.Forall₂ (fun f g => f.equal g = .ok true) q.filters r.filters
  conjunctions : List.Forall₂ (fun g h => g.equal h = .ok true) q.conjunctions r.conjunctions
  disjunctions : List.Forall₂ (fun g h => g.equal h = .ok true) q.disjunctions r.disjunctions
  ordering : List.Forall₂ (fun k l => k.equal l = .ok true) q.ordering r.ordering
  window : q.window = r.window
  preferences : q.preferences = r.preferences
  schema : q.schema.equal r.schema = .ok true
  onConflict : q.onConflict.equal r.onConflict = .ok true
  columns : List.Forall₂ (fun v w => v.equal w = .ok true) q.columns r.columns
  inner : q.inner = r.inner

theorem Query.equal_iff {q r : Query} : q.equal r = .ok true ↔ q.EqualParts r := by
  rcases q with ⟨resource, cardinality, selectors, filters, conjunctions, disjunctions, ordering,
    window, preferences, schema, onConflict, columns, inner⟩
  simp only [equal, both_eq_ok_true, Except.ok.injEq, Bool.and_eq_true, beq_iff_eq,
    Selector.equalAll_iff, Filter.equalAll_iff, FilterGroup.equalAll_iff, SortKey.equalAll_iff,
    Value.equalAll_iff]
  constructor
  · rintro ⟨⟨same, count⟩, selected, filtered, conjoined, disjoined, ordered, ⟨within, preferred⟩,
      schemas, conflicts, written, inners⟩
    exact ⟨same, count, selected, filtered, conjoined, disjoined, ordered, within, preferred,
      schemas, conflicts, written, inners⟩
  · intro parts
    exact ⟨⟨parts.resource, parts.cardinality⟩, parts.selectors, parts.filters,
      parts.conjunctions, parts.disjunctions, parts.ordering, ⟨parts.window, parts.preferences⟩,
      parts.schema, parts.onConflict, parts.columns, parts.inner⟩

end Records

section Numbers

/-- Whether a number is zero. -/
def Quantity.isZero : Quantity → Bool
  | .finite value => value.mantissa == 0
  | _ => false

/-- The natural number of a value without a fraction, apart from its sign. -/
def Exact.natural (x : Exact) : Nat := x.mantissa * Nat.pow 5 x.fives.toNat * Nat.pow 2 x.twos.toNat

theorem Exact.mantissa_of (negative : Bool) (n : Nat) (twos fives : Int) :
    ((Exact.of negative n twos fives).mantissa == 0) = (n == 0) := by
  by_cases zero : n = 0
  · simp [Exact.of, zero]
  · have halves := divideOut_mul 2 n.log2 n
    have fifths := divideOut_mul 5 (divideOut 2 n.log2 n).1.log2 (divideOut 2 n.log2 n).1
    simp only [Exact.of, if_neg zero]
    rw [beq_eq_false_iff_ne.2 zero, beq_eq_false_iff_ne]
    intro none
    rw [none, Nat.zero_mul] at fifths
    rw [← fifths, Nat.zero_mul] at halves
    exact zero halves.symm

theorem Exact.natural_of (negative : Bool) (n : Nat) : (Exact.of negative n 0 0).natural = n := by
  by_cases zero : n = 0
  · simp [Exact.of, natural, zero]
  · have halves := divideOut_mul 2 n.log2 n
    have fifths := divideOut_mul 5 (divideOut 2 n.log2 n).1.log2 (divideOut 2 n.log2 n).1
    simp only [Exact.of, if_neg zero, natural, Int.zero_add, Int.toNat_natCast, fifths, halves]

/-- Whole numbers of one value are the same. -/
theorem Exact.ofInt_injective {i j : Int} (same : Exact.ofInt i = Exact.ofInt j) : i = j := by
  have size : i.natAbs = j.natAbs := by
    rw [← natural_of (decide (i < 0)) i.natAbs, ← natural_of (decide (j < 0)) j.natAbs]
    exact congrArg natural same
  by_cases zero : i.natAbs = 0
  · omega
  · have left : (Exact.ofInt i).negative = decide (i < 0) := by
      simp only [ofInt, Exact.of, if_neg zero]
    have right : (Exact.ofInt j).negative = decide (j < 0) := by
      simp only [ofInt, Exact.of, if_neg (size ▸ zero)]
    have sign : decide (i < 0) = decide (j < 0) := by rw [← left, ← right, same]
    have signs := decide_eq_decide.1 sign
    omega

end Numbers

section Given

/-- What is equal without parts is one number or one text. -/
theorem Value.same_of_equalPlain {v w : Value} (same : v.equalPlain w = .ok true) :
    (∃ x, v.quantity? = some x ∧ w.quantity? = some x) ∨
      ∃ s, v.asText? = some s ∧ w.asText? = some s := by
  rw [equalPlain] at same
  split at same
  next x y number number' =>
    split at same
    next value => exact .inl ⟨x, number, value ▸ number'⟩
    next => split at same <;> cases same
  next =>
    split at same
    next s t text text' => exact .inr ⟨s, text, ok_beq_eq_ok_true.1 same ▸ text'⟩
    next => cases same

/-- A number counts as given unless it is zero. -/
theorem Value.isGiven_of_quantity? {v : Value} {x : Quantity} (number : v.quantity? = some x) :
    v.isGiven = !x.isZero := by
  cases v with
  | bool b =>
    cases number
    cases b <;> rfl
  | int i =>
    cases number
    have zero : (i == 0) = (i.natAbs == 0) := by
      rw [Bool.eq_iff_iff, beq_iff_eq, beq_iff_eq, Int.natAbs_eq_zero]
    rw [Quantity.isZero, Exact.ofInt, Exact.mantissa_of, isGiven, bne, zero]
  | float y =>
    cases number
    cases y with
    | finite negative mantissa exponent =>
      rw [Binary64.quantity, Quantity.isZero, Exact.mantissa_of]
      rfl
    | _ => rfl
  | decimal y =>
    cases number
    cases y with
    | finite negative coefficient exponent =>
      rw [Decimal.quantity, Quantity.isZero, Exact.mantissa_of]
      rfl
    | _ => rfl
  | _ => cases number

/-- Equal values are both given, or both not. -/
theorem Value.isGiven_of_equal {v w : Value} (same : v.equal w = .ok true) :
    v.isGiven = w.isGiven := by
  have empty {α : Type} {xs ys : List α} (length : xs.length = ys.length) :
      (!xs.isEmpty) = !ys.isEmpty := by
    cases xs <;> cases ys <;> first | rfl | cases length
  cases v with
  | null | query q | negation q serial | selector s | sortKey k =>
    unfold equal at same
    split at same
    next => rfl
    next => cases same
  | bytes bs =>
    unfold equal at same
    split at same
    next => rw [eq_of_beq (Except.ok.inj same)]
    next => cases same
  | list vs =>
    unfold equal at same
    split at same
    next ws => exact empty (equalAll_iff.1 (both_eq_ok_true.1 same).2).length_eq
    next => cases same
  | tuple vs =>
    unfold equal at same
    split at same
    next ws => exact empty (equalAll_iff.1 same).length_eq
    next => cases same
  | dict es =>
    unfold equal at same
    split at same
    next fs => exact empty (ok_beq_eq_ok_true.1 (both_eq_ok_true.1 same).1)
    next => cases same
  | bool b | int i | float x | decimal d | text s | token t =>
    unfold equal at same
    rcases same_of_equalPlain same with ⟨x, number, number'⟩ | ⟨t, text, text'⟩
    · rw [isGiven_of_quantity? number, isGiven_of_quantity? number']
    · rw [isGiven_of_asText? text, isGiven_of_asText? text']

end Given

/-! ## Equal numbers of two kinds -/

theorem Value.equal_null : Value.null.equal .null = .ok true := by
  rw [equal]

theorem Value.equal_one_true : (Value.int 1).equal (.bool true) = .ok true := by
  rw [equal]
  rfl

/-- Films of some filters. -/
def Query.filmsFiltered (filters : List Filter) : Query :=
  { ofResource "films" .many with filters := filters }

theorem Query.filmsFiltered_equal {fs gs : List Filter}
    (filters : List.Forall₂ (fun f g : Filter => f.equal g = .ok true) fs gs) :
    (filmsFiltered fs).equal (filmsFiltered gs) = .ok true :=
  equal_iff.2 ⟨rfl, rfl, .nil, filters, .nil, .nil, .nil, rfl, rfl, Value.equal_null,
    Value.equal_null, .nil, rfl⟩

/-- Films of one number. -/
def Query.filmsNumbered (number : Value) : Query :=
  filmsFiltered [⟨.eq, .text "id", number, false⟩]

theorem Query.filmsNumbered_equal {v w : Value} (equal : v.equal w = .ok true) :
    (filmsNumbered v).equal (filmsNumbered w) = .ok true := by
  have id : (Value.text "id").equal (.text "id") = .ok true := by
    rw [Value.equal_of_asText? rfl rfl, beq_self_eq_true]
  exact filmsFiltered_equal (.cons (Filter.equal_iff.2 ⟨rfl, id, equal, rfl⟩) .nil)

end RestQuery
