import RestQuery.Proofs.Snapshot.Typed
import RestQuery.Snapshot

/-!
# The fields of a snapshot

`Query.fields` are the fields of the snapshot of a query, apart from the snapshots of what is inside
it.  The snapshot of a typed query is an exact value (`Query.Typed.isExact_snapshot`), which its
JSON text spells.
-/

namespace RestQuery

/-! ## The parts of a snapshot -/

theorem Selector.snapshots_eq (ss : List Selector) : snapshots ss = ss.mapM snapshot := by
  induction ss with
  | nil => rfl
  | cons s ss ih => rw [snapshots, ih, List.mapM_cons]

theorem Query.snapshots_eq (qs : List Query) : snapshots qs = qs.mapM snapshot := by
  induction qs with
  | nil => rfl
  | cons q qs ih => rw [snapshots, ih, List.mapM_cons]

theorem FilterGroup.snapshots_eq (gs : List FilterGroup) : snapshots gs = gs.mapM snapshot := by
  induction gs with
  | nil => rfl
  | cons g gs ih => rw [snapshots, ih, List.mapM_cons]

theorem FilterGroup.snapshot_eq_ok {g : FilterGroup} {v : Value} :
    g.snapshot = .ok v ↔
      ∃ inside, g.queries.mapM Query.snapshot = .ok inside ∧
        v = .list [.list inside, .bool g.negated] := by
  rcases g with ⟨connective, queries, negated⟩
  rw [snapshot, Query.snapshots_eq, bind_eq_ok]
  constructor
  · rintro ⟨inside, made, ⟨⟩⟩
    exact ⟨inside, made, rfl⟩
  · rintro ⟨inside, made, rfl⟩
    exact ⟨inside, made, rfl⟩

/-- An operand in a snapshot. -/
def Value.shown : Value → Value
  | .tuple items => .list items
  | v => v

theorem Filter.snapshot_eq (f : Filter) :
    f.snapshot = .list [f.column, f.operand.shown, .bool f.negated] := by
  rcases f with ⟨operator, column, operand, negated⟩
  cases operand <;> rfl

/-- The fields of a snapshot, with the snapshots of the selectors and of the groups. -/
def Query.fields (q : Query) (select ands ors : List Value) : List (String × Value) :=
  [("resource", .text q.resource), ("cardinality", .text (word q.cardinality)),
    ("select", .list select)] ++
  Filter.snapshots q.filters ++
  [("and", .list ands), ("or", .list ors), ("order", .list (q.ordering.map SortKey.snapshot)),
    ("offset", .int q.window.offset)] ++
  (q.window.limit.map fun limit => ("limit", .int limit)).toList ++
  optionalField "count" q.preferences.count ++
  optionalField "returning" q.preferences.returning ++
  optionalField "resolution" q.preferences.resolution ++
  optionalField "missing" q.preferences.missing ++
  valueField "schema" q.schema ++
  valueField "on_conflict" q.onConflict ++
  [("columns", .list q.columns), ("inner", .bool q.inner)]

theorem Query.snapshot_eq (q : Query) : q.snapshot = (do
    let select ← q.selectors.mapM Selector.snapshot
    let ands ← q.conjunctions.mapM FilterGroup.snapshot
    let ors ← q.disjunctions.mapM FilterGroup.snapshot
    return Value.object (q.fields select ands ors)) := by
  rcases q with ⟨resource, cardinality, selectors, filters, conjunctions, disjunctions, ordering,
    ⟨offset, limit⟩, preferences, schema, onConflict, columns, inner⟩
  rw [snapshot, Selector.snapshots_eq, FilterGroup.snapshots_eq, FilterGroup.snapshots_eq]
  cases limit <;> rfl

theorem Query.snapshot_eq_ok {q : Query} {v : Value} :
    q.snapshot = .ok v ↔ ∃ select ands ors,
      q.selectors.mapM Selector.snapshot = .ok select ∧
      q.conjunctions.mapM FilterGroup.snapshot = .ok ands ∧
      q.disjunctions.mapM FilterGroup.snapshot = .ok ors ∧
      v = Value.object (q.fields select ands ors) := by
  rw [snapshot_eq]
  simp only [bind_eq_ok]
  constructor
  · rintro ⟨select, madeSelect, ands, madeAnds, ors, madeOrs, ⟨⟩⟩
    exact ⟨select, ands, ors, madeSelect, madeAnds, madeOrs, rfl⟩
  · rintro ⟨select, ands, ors, madeSelect, madeAnds, madeOrs, rfl⟩
    exact ⟨select, madeSelect, ands, madeAnds, ors, madeOrs, rfl⟩

/-! ## Snapshots are exact -/

theorem Value.isExact_of_asText? {v : Value} (text : v.asText?.isSome) : v.isExact := by
  cases v <;> first | rfl | cases text

theorem Value.isExact_of_isOptionalText {v : Value} (text : v.isOptionalText) : v.isExact := by
  cases v <;> first | rfl | cases text

@[simp] theorem Value.isExact_bool (b : Bool) : (bool b).isExact := rfl

@[simp] theorem Value.isExact_int (i : Int) : (int i).isExact := rfl

@[simp] theorem Value.isExact_text (s : String) : (text s).isExact := rfl

@[simp] theorem Value.isExact_list {vs : List Value} : (list vs).isExact ↔ ∀ v ∈ vs, v.isExact := by
  rw [isExact, allExact_eq, List.all_eq_true]

theorem Value.isExact_object_iff {fields : List (String × Value)} :
    (object fields).isExact ↔ ∀ field ∈ fields, field.2.isExact := by
  rw [isExact_object, List.all_eq_true]

theorem Value.isExact_shown (v : Value) : v.shown.isExact = v.isExact := by
  cases v <;> rfl

theorem Filter.isExact_snapshot {f : Filter} (column : f.column.asText?.isSome)
    (operand : f.operand.isExact) : f.snapshot.isExact := by
  rw [snapshot_eq]
  rw [← Value.isExact_shown] at operand
  simp [Value.isExact_of_asText? column, operand]

theorem SortKey.isExact_snapshot {k : SortKey} (column : k.column.asText?.isSome) :
    k.snapshot.isExact := by
  rw [snapshot, Value.isExact_object_iff]
  have text := Value.isExact_of_asText? column
  cases k.direction <;> cases k.nulls <;> cases k.isTop <;> simp [text]

theorem modifierFields_isExact {name cast : Value} (typedName : name.isOptionalText)
    (typedCast : cast.isOptionalText) :
    (Value.object (modifierFields name cast)).isExact := by
  have exactName := Value.isExact_of_isOptionalText typedName
  have exactCast := Value.isExact_of_isOptionalText typedCast
  rw [modifierFields, Value.isExact_object_iff]
  split <;> split <;> simp [exactName, exactCast]

theorem Selector.isExact_snapshot {s : Selector} {v : Value} (typed : s.isTyped)
    (inside : ∀ e, s.embedding? = some e → ∀ w, e.query.snapshot = .ok w → w.isExact)
    (shown : s.snapshot = .ok v) : v.isExact := by
  cases s with
  | wildcard =>
    cases shown
    rfl
  | column name | path p =>
    cases shown
    exact Value.isExact_of_asText? typed
  | modified base name cast =>
    cases shown
    simp only [isTyped, Bool.and_eq_true] at typed
    rw [Value.isExact_object_iff]
    simp [Value.isExact_of_asText? typed.1.1, modifierFields_isExact typed.1.2 typed.2]
  | embedded q name =>
    rw [snapshot] at shown
    obtain ⟨w, made, shown⟩ := bind_eq_ok.1 shown
    have below := inside ⟨q, name⟩ rfl w made
    split at shown
    · cases shown
      have exactName := Value.isExact_of_isOptionalText typed
      simp [Value.isExact_object_iff, below, exactName]
    · cases shown
      exact below
  | misembedded content name | invalid payload | unwritable serial => cases shown

theorem optionalField_isExact {α : Type} [Vocabulary α] (name : String) (a : Option α) :
    ∀ field ∈ optionalField name a, field.2.isExact := by
  cases a <;> simp [optionalField]

theorem valueField_isExact (name : String) {v : Value} (typed : v.isOptionalText) :
    ∀ field ∈ valueField name v, field.2.isExact := by
  have exact := Value.isExact_of_isOptionalText typed
  cases v <;> simp [valueField, exact]

theorem Filter.isExact_snapshots {fs : List Filter}
    (typed : ∀ f ∈ fs, f.isTyped ∧ f.operand.isExact) :
    ∀ field ∈ snapshots fs, field.2.isExact := by
  intro field member
  obtain ⟨o, _, rfl⟩ := List.mem_map.1 member
  simp only [Value.isExact_list, List.mem_map]
  rintro _ ⟨f, chosen, rfl⟩
  obtain ⟨ftyped, operand⟩ := typed f (List.mem_filter.1 chosen).1
  exact isExact_snapshot (Bool.and_eq_true_iff.1 ftyped).1 operand

theorem FilterGroup.isExact_snapshot {g : FilterGroup} {v : Value}
    (inside : ∀ q ∈ g.queries, ∀ w, q.snapshot = .ok w → w.isExact) (shown : g.snapshot = .ok v) :
    v.isExact := by
  obtain ⟨queries, made, rfl⟩ := snapshot_eq_ok.1 shown
  have each : ∀ w ∈ queries, w.isExact := forall_of_mapM_eq_ok inside made
  simpa using each

/-- The fields of a query are exact if it is typed and all inside it is shown as exact values. -/
theorem Query.OwnTyped.isExact_fields {q : Query} (own : q.OwnTyped) {select ands ors : List Value}
    (exactSelect : ∀ v ∈ select, v.isExact) (exactAnds : ∀ v ∈ ands, v.isExact)
    (exactOrs : ∀ v ∈ ors, v.isExact) : (Value.object (q.fields select ands ors)).isExact := by
  have exactFilters := Filter.isExact_snapshots own.filters
  have exactOrder : ∀ k ∈ q.ordering, k.snapshot.isExact := fun k member =>
    SortKey.isExact_snapshot (own.ordering k member)
  have exactColumns : ∀ v ∈ q.columns, v.isExact := fun v member =>
    Value.isExact_of_asText? (own.columns v member)
  rw [Value.isExact_object_iff, fields]
  simp only [List.forall_mem_append]
  refine ⟨⟨⟨⟨⟨⟨⟨⟨⟨⟨?_, exactFilters⟩, ?_⟩, ?_⟩, optionalField_isExact _ _⟩,
    optionalField_isExact _ _⟩, optionalField_isExact _ _⟩, optionalField_isExact _ _⟩,
    valueField_isExact _ own.schema⟩, valueField_isExact _ own.onConflict⟩, ?_⟩
  all_goals simp_all

/-- The snapshot of a typed query is an exact value. -/
theorem Query.Typed.isExact_snapshot {q : Query} (typed : q.Typed) :
    ∀ v, q.snapshot = .ok v → v.isExact := by
  induction typed with
  | @intro q own parts ih =>
    intro v shown
    obtain ⟨select, ands, ors, madeSelect, madeAnds, madeOrs, rfl⟩ :=
      Query.snapshot_eq_ok.1 shown
    have group : ∀ g ∈ q.groups, ∀ v, g.snapshot = .ok v → v.isExact := fun g member v shown =>
      FilterGroup.isExact_snapshot (fun p queried => ih p (mem_parts_of_group member queried)) shown
    have selector : ∀ s ∈ q.selectors, ∀ v, s.snapshot = .ok v → v.isExact := by
      intro s member v shown
      refine Selector.isExact_snapshot (own.selectors s member) (fun e found => ?_) shown
      exact ih e.query (mem_parts_of_embedding (List.mem_filterMap.2 ⟨s, member, found⟩))
    exact own.isExact_fields (forall_of_mapM_eq_ok selector madeSelect)
      (forall_of_mapM_eq_ok (fun g member => group g (List.mem_append_left _ member)) madeAnds)
      (forall_of_mapM_eq_ok (fun g member => group g (List.mem_append_right _ member)) madeOrs)

end RestQuery
