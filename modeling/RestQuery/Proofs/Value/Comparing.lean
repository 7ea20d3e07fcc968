import RestQuery.Proofs.Sequencing
import RestQuery.Value.Equality

/-!
# What comparing can fail for

A digest is refused for one cause alone, a list or a mapping or a signaling number somewhere in the
value, and a comparison for one cause alone, a number beside a signaling value.  So a look-up in a
mapping has these two causes of failure and no other: `Value.find_failsOnly`.
-/

namespace RestQuery

open Verdict (both)

/-! ## Digests -/

section Digests

/-- A value without a digest is of a kind that has none. -/
abbrev Digested {α : Type} (step : Except Error α) : Prop := FailsOnly (· = .wrongType) step

mutual

theorem Value.digest_failsOnly (v : Value) : Digested v.digest := by
  cases v with
  | null | bool b | int i | float x | text s | bytes bs | token t | negation q serial =>
    exact .ok _
  | decimal d =>
    rw [Value.digest]
    split
    · exact .error rfl
    · exact .ok _
  | list items | dict entries => exact .error rfl
  | tuple items => exact (Value.digests_failsOnly items).bind fun _ => .ok _
  | query q => exact q.digest_failsOnly
  | selector s => exact s.digest_failsOnly
  | sortKey k => exact k.digest_failsOnly

theorem Value.digests_failsOnly (vs : List Value) : Digested (Value.digests vs) := by
  cases vs with
  | nil => exact .ok _
  | cons v vs =>
    exact v.digest_failsOnly.bind fun _ => (Value.digests_failsOnly vs).bind fun _ => .ok _

theorem Selector.digest_failsOnly (s : Selector) : Digested s.digest := by
  cases s with
  | wildcard | invalid payload | unwritable serial => exact .ok _
  | column v | path v => exact v.digest_failsOnly.bind fun _ => .ok _
  | modified column name cast =>
    exact column.digest_failsOnly.bind fun _ => name.digest_failsOnly.bind fun _ =>
      cast.digest_failsOnly.bind fun _ => .ok _
  | embedded q name =>
    exact q.digest_failsOnly.bind fun _ => name.digest_failsOnly.bind fun _ => .ok _
  | misembedded content name =>
    exact content.digest_failsOnly.bind fun _ => name.digest_failsOnly.bind fun _ => .ok _

theorem Selector.digests_failsOnly (ss : List Selector) : Digested (Selector.digests ss) := by
  cases ss with
  | nil => exact .ok _
  | cons s ss =>
    exact s.digest_failsOnly.bind fun _ => (Selector.digests_failsOnly ss).bind fun _ => .ok _

theorem Filter.digest_failsOnly (f : Filter) : Digested f.digest := by
  rcases f with ⟨operator, column, operand, negated⟩
  exact column.digest_failsOnly.bind fun _ => operand.digest_failsOnly.bind fun _ => .ok _

theorem Filter.digests_failsOnly (fs : List Filter) : Digested (Filter.digests fs) := by
  cases fs with
  | nil => exact .ok _
  | cons f fs =>
    exact f.digest_failsOnly.bind fun _ => (Filter.digests_failsOnly fs).bind fun _ => .ok _

theorem FilterGroup.digest_failsOnly (g : FilterGroup) : Digested g.digest := by
  rcases g with ⟨connective, queries, negated⟩
  exact (Query.digests_failsOnly queries).bind fun _ => .ok _

theorem FilterGroup.digests_failsOnly (gs : List FilterGroup) :
    Digested (FilterGroup.digests gs) := by
  cases gs with
  | nil => exact .ok _
  | cons g gs =>
    exact g.digest_failsOnly.bind fun _ => (FilterGroup.digests_failsOnly gs).bind fun _ => .ok _

theorem SortKey.digest_failsOnly (k : SortKey) : Digested k.digest := by
  rcases k with ⟨column, direction, nulls, top⟩
  exact column.digest_failsOnly.bind fun _ => top.digest_failsOnly.bind fun _ => .ok _

theorem SortKey.digests_failsOnly (ks : List SortKey) : Digested (SortKey.digests ks) := by
  cases ks with
  | nil => exact .ok _
  | cons k ks =>
    exact k.digest_failsOnly.bind fun _ => (SortKey.digests_failsOnly ks).bind fun _ => .ok _

theorem Query.digests_failsOnly (qs : List Query) : Digested (Query.digests qs) := by
  cases qs with
  | nil => exact .ok _
  | cons q qs =>
    exact q.digest_failsOnly.bind fun _ => (Query.digests_failsOnly qs).bind fun _ => .ok _

theorem Query.digest_failsOnly (q : Query) : Digested q.digest := by
  rcases q with ⟨resource, cardinality, selectors, filters, conjunctions, disjunctions, ordering,
    window, preferences, schema, onConflict, columns, inner⟩
  exact (Selector.digests_failsOnly selectors).bind fun _ =>
    (Filter.digests_failsOnly filters).bind fun _ =>
    (FilterGroup.digests_failsOnly conjunctions).bind fun _ =>
    (FilterGroup.digests_failsOnly disjunctions).bind fun _ =>
    (SortKey.digests_failsOnly ordering).bind fun _ =>
    schema.digest_failsOnly.bind fun _ => onConflict.digest_failsOnly.bind fun _ =>
    (Value.digests_failsOnly columns).bind fun _ => .ok _

end

end Digests

/-! ## Comparisons -/

section Comparisons

/-- A comparison without a result meets a signaling value. -/
abbrev Compared (verdict : Verdict) : Prop := FailsOnly (· = .signaling) verdict

theorem Compared.both {v w : Verdict} (first : Compared v) (second : Compared w) :
    Compared (both v w) := by
  rcases v with cause | _ | _
  · exact first
  · exact .ok false
  · exact second

theorem Value.equalPlain_failsOnly (v w : Value) : Compared (v.equalPlain w) := by
  rw [equalPlain]
  split
  · split
    · exact .ok true
    · split
      · exact .error rfl
      · exact .ok false
  · split <;> exact .ok _

mutual

theorem Value.equal_failsOnly (v w : Value) : Compared (v.equal w) := by
  cases v with
  | null | bytes bs | negation q serial =>
    unfold Value.equal
    split <;> exact .ok _
  | list vs =>
    unfold Value.equal
    split
    next ws => exact .both (.ok _) (Value.equalAll_failsOnly vs ws)
    next => exact .ok false
  | tuple vs =>
    unfold Value.equal
    split
    next ws => exact Value.equalAll_failsOnly vs ws
    next => exact .ok false
  | dict es =>
    unfold Value.equal
    split
    next fs => exact .both (.ok _) (Value.within_failsOnly es fs)
    next => exact .ok false
  | query q =>
    unfold Value.equal
    split
    next r => exact q.equal_failsOnly r
    next => exact .ok false
  | selector s =>
    unfold Value.equal
    split
    next t => exact s.equal_failsOnly t
    next => exact .ok false
  | sortKey k =>
    unfold Value.equal
    split
    next l => exact k.equal_failsOnly l
    next => exact .ok false
  | bool b | int i | float x | decimal d | text s | token t =>
    unfold Value.equal
    exact Value.equalPlain_failsOnly _ w

theorem Value.equalAll_failsOnly (vs ws : List Value) : Compared (Value.equalAll vs ws) := by
  cases vs with
  | nil =>
    unfold Value.equalAll
    exact .ok _
  | cons v vs =>
    unfold Value.equalAll
    split
    next => exact .ok false
    next w ws => exact .both (v.equal_failsOnly w) (Value.equalAll_failsOnly vs ws)

theorem Value.within_failsOnly (es fs : List (Value × Value)) : Compared (Value.within es fs) := by
  match es with
  | [] =>
    unfold Value.within
    exact .ok true
  | (key, v) :: es =>
    unfold Value.within
    refine .both ?_ (Value.within_failsOnly es fs)
    induction fs with
    | nil => exact .ok false
    | cons f fs further =>
      have found := Compared.both (.ok (key.sameDigest f.1)) (key.equal_failsOnly f.1)
      rw [List.foldr_cons]
      split
      next => exact v.equal_failsOnly f.2
      next => exact further
      next cause failed => exact .error (found cause failed)

theorem Selector.equal_failsOnly (s t : Selector) : Compared (s.equal t) := by
  cases s with
  | wildcard | unwritable serial =>
    unfold Selector.equal
    split <;> exact .ok _
  | column v | path v | invalid v =>
    unfold Selector.equal
    split
    next w => exact v.equal_failsOnly w
    next => exact .ok false
  | modified column name cast =>
    unfold Selector.equal
    split
    next column' name' cast' =>
      exact .both (column.equal_failsOnly column')
        (.both (name.equal_failsOnly name') (cast.equal_failsOnly cast'))
    next => exact .ok false
  | embedded q name =>
    unfold Selector.equal
    split
    next r name' => exact .both (q.equal_failsOnly r) (name.equal_failsOnly name')
    next => exact .ok false
  | misembedded v name =>
    unfold Selector.equal
    split
    next w name' => exact .both (v.equal_failsOnly w) (name.equal_failsOnly name')
    next => exact .ok false

theorem Selector.equalAll_failsOnly (ss ts : List Selector) :
    Compared (Selector.equalAll ss ts) := by
  cases ss with
  | nil =>
    unfold Selector.equalAll
    exact .ok _
  | cons s ss =>
    unfold Selector.equalAll
    split
    next => exact .ok false
    next t ts => exact .both (s.equal_failsOnly t) (Selector.equalAll_failsOnly ss ts)

theorem Filter.equal_failsOnly (f g : Filter) : Compared (f.equal g) := by
  rcases f with ⟨operator, column, operand, negated⟩
  unfold Filter.equal
  exact .both (.ok _)
    (.both (column.equal_failsOnly g.column) (.both (operand.equal_failsOnly g.operand) (.ok _)))

theorem Filter.equalAll_failsOnly (fs gs : List Filter) : Compared (Filter.equalAll fs gs) := by
  cases fs with
  | nil =>
    unfold Filter.equalAll
    exact .ok _
  | cons f fs =>
    unfold Filter.equalAll
    split
    next => exact .ok false
    next g gs => exact .both (f.equal_failsOnly g) (Filter.equalAll_failsOnly fs gs)

theorem FilterGroup.equal_failsOnly (g h : FilterGroup) : Compared (g.equal h) := by
  rcases g with ⟨connective, queries, negated⟩
  unfold FilterGroup.equal
  exact .both (.ok _) (.both (Query.equalAll_failsOnly queries h.queries) (.ok _))

theorem FilterGroup.equalAll_failsOnly (gs hs : List FilterGroup) :
    Compared (FilterGroup.equalAll gs hs) := by
  cases gs with
  | nil =>
    unfold FilterGroup.equalAll
    exact .ok _
  | cons g gs =>
    unfold FilterGroup.equalAll
    split
    next => exact .ok false
    next h hs => exact .both (g.equal_failsOnly h) (FilterGroup.equalAll_failsOnly gs hs)

theorem SortKey.equal_failsOnly (k l : SortKey) : Compared (k.equal l) := by
  rcases k with ⟨column, direction, nulls, top⟩
  unfold SortKey.equal
  exact .both (column.equal_failsOnly l.column) (.both (.ok _) (top.equal_failsOnly l.top))

theorem SortKey.equalAll_failsOnly (ks ls : List SortKey) : Compared (SortKey.equalAll ks ls) := by
  cases ks with
  | nil =>
    unfold SortKey.equalAll
    exact .ok _
  | cons k ks =>
    unfold SortKey.equalAll
    split
    next => exact .ok false
    next l ls => exact .both (k.equal_failsOnly l) (SortKey.equalAll_failsOnly ks ls)

theorem Query.equalAll_failsOnly (qs rs : List Query) : Compared (Query.equalAll qs rs) := by
  cases qs with
  | nil =>
    unfold Query.equalAll
    exact .ok _
  | cons q qs =>
    unfold Query.equalAll
    split
    next => exact .ok false
    next r rs => exact .both (q.equal_failsOnly r) (Query.equalAll_failsOnly qs rs)

theorem Query.equal_failsOnly (q r : Query) : Compared (q.equal r) := by
  rcases q with ⟨resource, cardinality, selectors, filters, conjunctions, disjunctions, ordering,
    window, preferences, schema, onConflict, columns, inner⟩
  unfold Query.equal
  exact .both (.ok _) (.both (Selector.equalAll_failsOnly selectors r.selectors)
    (.both (Filter.equalAll_failsOnly filters r.filters)
    (.both (FilterGroup.equalAll_failsOnly conjunctions r.conjunctions)
    (.both (FilterGroup.equalAll_failsOnly disjunctions r.disjunctions)
    (.both (SortKey.equalAll_failsOnly ordering r.ordering)
    (.both (.ok _) (.both (schema.equal_failsOnly r.schema)
    (.both (onConflict.equal_failsOnly r.onConflict)
    (.both (Value.equalAll_failsOnly columns r.columns) (.ok _))))))))))

end

end Comparisons

/-! ## Looking up a key -/

/-- A look-up fails for a key without a digest, or for one that cannot be compared. -/
theorem Value.find_failsOnly (entries : List (Value × Value)) (key : Value) :
    FailsOnly (fun cause => cause = .wrongType ∨ cause = .signaling) (find entries key) := by
  have first : FailsOnly (fun cause => cause = .wrongType ∨ cause = .signaling)
      (key.findFirst entries) := by
    induction entries with
    | nil => exact .ok none
    | cons entry entries ih =>
      obtain ⟨k, v⟩ := entry
      have same : Compared (k.isSameKey key) := .both (.ok _) (k.equal_failsOnly key)
      refine (same.mono fun _ => .inr).bind fun found => ?_
      cases found with
      | true => exact .ok (some v)
      | false => exact ih
  exact (key.digest_failsOnly.mono fun _ => .inl).bind fun _ => first

end RestQuery
