import RestQuery.Clause.Select
import RestQuery.Proofs.Snapshot.Alike

/-!
# Alike queries agree

The tree of a snapshot has under every name what the snapshot was made with, so trees can be
compared field by field.  `Query.Alike.agree` says that alike queries agree in every setting, and
that the queries inside them are alike again.
-/

namespace RestQuery

/-! ## Fields under their names -/

theorem Filter.lookup_snapshots (fs : List Filter) (name : String) :
    (snapshots fs).lookup name = (Vocabulary.lookup? Operator name).map fun o =>
      .list ((ofOperator o fs).map snapshot) := by
  rw [snapshots, Vocabulary.lookup?]
  induction (Vocabulary.members : List Operator) with
  | nil => rfl
  | cons o os ih =>
    rw [List.map_cons, List.lookup_cons, List.find?_cons]
    by_cases same : word o = name
    · simp [same, ofOperator]
    · have other : (name == word o) = false := by simpa using Ne.symm same
      simp [same, other, ih]

/-- A field that may be left out, under a name. -/
theorem lookup_left_out (field name : String) (v : Option Value) :
    (v.map fun v => (field, v)).toList.lookup name = if name = field then v else none := by
  cases v with
  | none => simp
  | some v =>
    by_cases same : name = field
    · simp [same]
    · have other : (name == field) = false := by simpa using same
      simp [List.lookup_cons, same, other]

theorem lookup_optionalField {α : Type} [Vocabulary α] (field name : String) (a : Option α) :
    (optionalField field a).lookup name =
      if name = field then a.map fun a => .text (word a) else none := by
  have shape : optionalField field a =
      ((a.map fun a => .text (word a)).map fun v => (field, v)).toList := by
    cases a <;> rfl
  rw [shape, lookup_left_out]

theorem lookup_valueField (field name : String) (v : Value) :
    (valueField field v).lookup name = if name = field then v.ofField else none := by
  have shape : valueField field v = (v.ofField.map fun v => (field, v)).toList := by
    cases v <;> rfl
  rw [shape, lookup_left_out]

theorem lookup_limit (limit : Option Int) (name : String) :
    (limit.map fun limit => ("limit", Value.int limit)).toList.lookup name =
      if name = "limit" then limit.map Value.int else none := by
  rw [← lookup_left_out, Option.map_map]
  rfl

theorem lookup_if (c : Bool) (field name : String) (v : Value) :
    (if c then [(field, v)] else []).lookup name =
      if name = field then if c then some v else none else none := by
  have shape : (if c then [(field, v)] else []) =
      ((if c then some v else none).map fun v => (field, v)).toList := by
    cases c <;> rfl
  rw [shape, lookup_left_out]

theorem lookup_field (field name : String) (v : Value) (fields : List (String × Value)) :
    ((field, v) :: fields).lookup name = if name = field then some v else fields.lookup name := by
  by_cases same : name = field
  · simp [same]
  · have other : (name == field) = false := by simpa using same
    simp [List.lookup_cons, same, other]

/-! ## Operands -/

section Operands

variable {write : QueryText}

/-- The operand that a tree shows. -/
def Json.Tree.operandText : Json.Tree → String
  | .null => "null"
  | .bool b => if b then "true" else "false"
  | .number n => toString (if n.negative then -(n.coefficient : Int) else n.coefficient)
  | .text s => s
  | _ => ""

/-- An operand is written as its tree shows it. -/
theorem Value.operandText_eq {v : Value} (scalar : v.isScalar) (exact : v.isExact) :
    v.operandText write = .ok v.tree.operandText := by
  cases v with
  | null => rfl
  | bool b => cases b <;> rfl
  | int i =>
    have whole : (if decide (i < 0) then -(i.natAbs : Int) else i.natAbs) = i := by
      by_cases negative : i < 0
      · rw [if_pos (decide_eq_true negative)]
        omega
      · rw [if_neg (by simpa using negative)]
        omega
    simp only [tree, Json.Tree.operandText, whole]
    rfl
  | decimal d | text s | token t => rfl
  | float x => cases exact
  | _ => cases scalar

theorem Filter.operandText_tuple {f : Filter} {items : List Value} (list : f.operand = .tuple items)
    (inGroup : Bool) : f.operandText write inGroup = Value.operandList write items := by
  rw [operandText, list]

theorem Filter.operandText_scalar {f : Filter} (scalar : f.operand.isScalar) (inGroup : Bool) :
    f.operandText write inGroup =
      if inGroup then f.operand.shieldedOperand write else f.operand.operandText write := by
  rcases f with ⟨operator, column, operand, negated⟩
  cases operand <;> first | rfl | cases scalar

/-- A tuple is shown as an array, and a scalar as itself, which is no array. -/
theorem Value.isOperand_cases {v : Value} (typed : v.isOperand) (exact : v.isExact) :
    (∃ items, v = .tuple items ∧ (∀ i ∈ items, i.isScalar ∧ i.isExact)) ∨
      (v.isScalar ∧ v.shown = v ∧ ∀ trees, v.tree ≠ .array trees) := by
  cases v with
  | tuple items =>
    rw [isExact, allExact_eq] at exact
    have scalars := List.all_eq_true.1 typed
    exact .inl ⟨items, rfl, fun i member => ⟨scalars i member, List.all_eq_true.1 exact i member⟩⟩
  | null | bool b | int i | decimal d | text s | token t =>
    exact .inr ⟨rfl, rfl, fun trees same => by cases same⟩
  | float x => cases exact
  | _ => cases typed

/-- Operands of one tree are written alike. -/
theorem Value.shieldedOperand_of_tree (write write' : QueryText) {v w : Value}
    (left : v.isScalar ∧ v.isExact) (right : w.isScalar ∧ w.isExact) (same : v.tree = w.tree) :
    v.shieldedOperand write = w.shieldedOperand write' := by
  rw [shieldedOperand, shieldedOperand, operandText_eq left.1 left.2,
    operandText_eq right.1 right.2, same]

/-- Typed operands that are shown by one tree are written alike. -/
theorem Filter.operandText_of_tree {f g : Filter} (left : f.operand.isOperand ∧ f.operand.isExact)
    (right : g.operand.isOperand ∧ g.operand.isExact)
    (same : f.operand.shown.tree = g.operand.shown.tree) (write write' : QueryText)
    (inGroup : Bool) : f.operandText write inGroup = g.operandText write' inGroup := by
  rcases Value.isOperand_cases left.1 left.2 with
    ⟨items, list, scalars⟩ | ⟨scalar, own, noList⟩ <;>
  rcases Value.isOperand_cases right.1 right.2 with
    ⟨items', list', scalars'⟩ | ⟨scalar', own', noList'⟩
  · have items_eq : items.map Value.tree = items'.map Value.tree := by
      rw [list, list', Value.shown, Value.shown, Value.tree, Value.tree, Value.trees_eq,
        Value.trees_eq] at same
      exact Json.Tree.array.inj same
    have each := forall₂_imp_of_mem (forall₂_of_map_eq items_eq) fun v member w member' alike =>
      Value.shieldedOperand_of_tree write write' (scalars v member) (scalars' w member') alike
    rw [operandText_tuple list, operandText_tuple list', Value.operandList, Value.operandList,
      mapM_forall₂ each]
  · rw [own', list] at same
    exact absurd same.symm (noList' _)
  · rw [own, list'] at same
    exact absurd same (noList _)
  · rw [own, own'] at same
    have shielded := Value.shieldedOperand_of_tree write write' ⟨scalar, left.2⟩
      ⟨scalar', right.2⟩ same
    rw [operandText_scalar scalar, operandText_scalar scalar', shielded,
      Value.operandText_eq scalar left.2, Value.operandText_eq scalar' right.2, same]

end Operands

/-! ## Parts -/

theorem SortKey.snapshot_eq (k : SortKey) : k.snapshot = Value.object
    ([("column", k.column)] ++ optionalField "direction" k.direction ++
      optionalField "nulls" k.nulls ++ (if k.isTop then [("top", .bool true)] else [])) := by
  rcases k with ⟨column, direction, nulls, top⟩
  cases direction <;> cases nulls <;> rfl

/-- Keys that are shown alike agree. -/
theorem SortKey.Agree.of_tree {k l : SortKey} (left : k.column.asText?.isSome)
    (right : l.column.asText?.isSome) (same : k.snapshot.tree = l.snapshot.tree) : k.Agree l := by
  rw [snapshot_eq, snapshot_eq] at same
  have field := Value.lookup_of_tree same
  simp only [List.lookup_append, lookup_field, List.lookup_nil, lookup_optionalField, lookup_if]
    at field
  have column := field "column"
  have direction := field "direction"
  have nulls := field "nulls"
  have top := field "top"
  simp only [String.reduceEq, if_true, if_false, Option.or_none, Option.none_or, Option.map_some,
    Option.some.injEq] at column direction nulls top
  refine ⟨.of_tree left right column, option_of_tree word_of_tree direction,
    option_of_tree word_of_tree nulls, ?_⟩
  cases top₁ : k.isTop <;> cases top₂ : l.isTop <;> simp_all

theorem Filter.Agree.of_tree {f g : Filter} (operator : f.operator = g.operator)
    (left : f.isTyped ∧ f.operand.isExact) (right : g.isTyped ∧ g.operand.isExact)
    (same : f.snapshot.tree = g.snapshot.tree) : f.Agree g := by
  simp only [snapshot_eq, Value.tree, Value.trees, Json.Tree.array.injEq, List.cons.injEq,
    Json.Tree.bool.injEq, and_true] at same
  obtain ⟨columnText, operandTyped⟩ := Bool.and_eq_true_iff.1 left.1
  obtain ⟨columnText', operandTyped'⟩ := Bool.and_eq_true_iff.1 right.1
  exact ⟨operator, same.2.2, .of_tree columnText columnText' same.1,
    operandText_of_tree ⟨operandTyped, left.2⟩ ⟨operandTyped', right.2⟩ same.2.1⟩

/-! ## Selectors -/

/-- How a selector is shown: as a text, as a column with its modifier, or as the snapshot of the
query that it embeds, with a name if it has one. -/
inductive Selector.Shown : Selector → Value → Prop
  | text {s : Selector} {v : Value} {t : String} :
    s.ownText? = some t → v.asText? = some t → Shown s v
  | modified (base name cast : Value) : Shown (.modified base name cast)
      (.object [("column", base), ("modifier", .object (modifierFields name cast))])
  | named {q : Query} {name v : Value} : q.snapshot = .ok v → name.isGiven →
    Shown (.embedded q name) (.object [("query", v), ("modifier", .object [("name", name)])])
  | bare {q : Query} {name v : Value} : q.snapshot = .ok v → name.isGiven = false →
    Shown (.embedded q name) v

theorem Selector.shown_of_snapshot {s : Selector} {v : Value} (typed : s.isTyped)
    (made : s.snapshot = .ok v) : s.Shown v := by
  cases s with
  | wildcard =>
    cases made
    exact .text rfl rfl
  | column name | path p =>
    cases made
    obtain ⟨t, read⟩ := Option.isSome_iff_exists.1 typed
    exact .text read read
  | modified base name cast =>
    cases made
    exact .modified base name cast
  | embedded q name =>
    rw [snapshot] at made
    obtain ⟨inside, shown, made⟩ := bind_eq_ok.1 made
    split at made
    next given =>
      cases made
      exact .named shown given
    next absent =>
      cases made
      exact .bare shown (by simpa using absent)
  | misembedded content name | invalid payload | unwritable serial => cases made

/-- Which of the names that tell selectors apart stand in a tree. -/
def Json.Tree.marks (t : Json.Tree) : Bool × Bool × Bool :=
  ((t.member? "column").isSome, (t.member? "query").isSome, (t.member? "resource").isSome)

theorem Value.marks_of_asText? {v : Value} {s : String} (text : v.asText? = some s) :
    v.tree.marks = (false, false, false) := by
  rw [tree_of_asText? text]
  rfl

theorem Value.marks_modified (base modifier : Value) :
    (object [("column", base), ("modifier", modifier)]).tree.marks = (true, false, false) := by
  simp [Json.Tree.marks, member?_tree_object, lookup_field]

theorem Value.marks_named (inside modifier : Value) :
    (object [("query", inside), ("modifier", modifier)]).tree.marks = (false, true, false) := by
  simp [Json.Tree.marks, member?_tree_object, lookup_field]

theorem Query.marks_snapshot {q : Query} {v : Value} (shown : q.snapshot = .ok v) :
    v.tree.marks = (false, false, true) := by
  obtain ⟨select, ands, ors, _, _, _, rfl⟩ := snapshot_eq_ok.1 shown
  have column : Vocabulary.lookup? Operator "column" = none := rfl
  have query : Vocabulary.lookup? Operator "query" = none := rfl
  simp [Json.Tree.marks, Value.member?_tree_object, fields, List.lookup_append, lookup_field,
    Filter.lookup_snapshots, column, query, lookup_optionalField, lookup_valueField, lookup_limit]

theorem lookup_modifierFields (name cast : Value) (field : String) :
    (modifierFields name cast).lookup field =
      (if field = "name" then if name.isGiven then some name else none else none).or
        (if field = "cast" then if cast.isGiven then some cast else none else none) := by
  rw [modifierFields, List.lookup_append, lookup_if, lookup_if]

/-- Modified columns that are shown alike have one text. -/
theorem Selector.Agree.modified {base name cast base' name' cast' : Value}
    (left : (Selector.modified base name cast).isTyped)
    (right : (Selector.modified base' name' cast').isTyped)
    (same : (Value.object
        [("column", base), ("modifier", .object (modifierFields name cast))]).tree =
      (Value.object
        [("column", base'), ("modifier", .object (modifierFields name' cast'))]).tree) :
    (Selector.modified base name cast).Agree .shown (.modified base' name' cast') := by
  have field := Value.lookup_of_tree same
  simp only [lookup_field, List.lookup_nil] at field
  have column := field "column"
  have modifier := field "modifier"
  simp only [String.reduceEq, if_true, if_false, Option.map_some, Option.some.injEq]
    at column modifier
  have part := Value.lookup_of_tree modifier
  simp only [lookup_modifierFields] at part
  have given := part "name"
  have casted := part "cast"
  simp only [String.reduceEq, if_true, if_false, Option.or_none, Option.none_or] at given casted
  have typed := left
  have typed' := right
  simp only [isTyped, Bool.and_eq_true] at typed typed'
  obtain ⟨s, text, text'⟩ := Value.SameText.of_tree typed.1.1 typed'.1.1 column
  have names := Value.SameName.of_given typed.1.2 typed'.1.2 given
  have casts := Value.SameName.of_given typed.2 typed'.2 casted
  refine .text left right (by rw [ownText?, text, Option.map_some]) ?_
  rw [ownText?, text', Option.map_some, names.given, casts.given]

/-- Selectors that are shown alike agree. -/
theorem Selector.Agree.of_tree {s s' : Selector} {v w : Value} (left : s.isTyped)
    (right : s'.isTyped) (inside : ∀ e, s.embedding? = some e → e.query.Typed)
    (inside' : ∀ e, s'.embedding? = some e → e.query.Typed) (shown : s.Shown v)
    (shown' : s'.Shown w) (same : v.tree = w.tree) : s.Agree .shown s' := by
  have marks := congrArg Json.Tree.marks same
  -- The names in a tree tell how its selector is shown, so both are shown in one way.
  cases shown with
  | text own read =>
    rw [Value.marks_of_asText? read] at marks
    cases shown' with
    | text own' read' =>
      rw [Value.tree_of_asText? read, Value.tree_of_asText? read'] at same
      cases same
      exact .text left right own own'
    | modified base name cast => simp [Value.marks_modified] at marks
    | named made given => simp [Value.marks_named] at marks
    | bare made absent => simp [Query.marks_snapshot made] at marks
  | modified base name cast =>
    rw [Value.marks_modified] at marks
    cases shown' with
    | text own read => simp [Value.marks_of_asText? read] at marks
    | modified base' name' cast' => exact .modified left right same
    | named made given => simp [Value.marks_named] at marks
    | bare made absent => simp [Query.marks_snapshot made] at marks
  | @named q name v made given =>
    rw [Value.marks_named] at marks
    cases shown' with
    | text own read => simp [Value.marks_of_asText? read] at marks
    | modified base' name' cast' => simp [Value.marks_modified] at marks
    | @named r name' w made' given' =>
      have field := Value.lookup_of_tree same
      simp only [lookup_field, List.lookup_nil] at field
      have query := field "query"
      have modifier := field "modifier"
      simp only [String.reduceEq, if_true, if_false, Option.map_some, Option.some.injEq]
        at query modifier
      have names := Value.lookup_of_tree modifier "name"
      simp only [lookup_field, if_true] at names
      refine .embedded ⟨inside _ rfl, inside' _ rfl, v, w, made, made', query⟩
        (.of_given left right ?_)
      rwa [if_pos given, if_pos given']
    | bare made absent => simp [Query.marks_snapshot made] at marks
  | @bare q name v made absent =>
    rw [Query.marks_snapshot made] at marks
    cases shown' with
    | text own read => simp [Value.marks_of_asText? read] at marks
    | modified base' name' cast' => simp [Value.marks_modified] at marks
    | named made given => simp [Value.marks_named] at marks
    | @bare r name' w made' absent' =>
      refine .embedded ⟨inside _ rfl, inside' _ rfl, v, w, made, made', same⟩
        (.of_given left right ?_)
      simp [absent, absent']

/-! ## Groups and filters -/

theorem FilterGroup.Agree.of_tree {g h : FilterGroup} {v w : Value}
    (connective : g.connective = h.connective) (inside : ∀ q ∈ g.queries, q.Typed)
    (inside' : ∀ q ∈ h.queries, q.Typed) (shown : g.snapshot = .ok v) (shown' : h.snapshot = .ok w)
    (same : v.tree = w.tree) : g.Agree .shown h := by
  obtain ⟨vs, made, rfl⟩ := snapshot_eq_ok.1 shown
  obtain ⟨ws, made', rfl⟩ := snapshot_eq_ok.1 shown'
  simp only [Value.tree, Value.trees, Value.trees_eq, Json.Tree.array.injEq, List.cons.injEq,
    Json.Tree.bool.injEq, and_true] at same
  refine ⟨by rw [FilterGroup.key, FilterGroup.key, connective, same.2], ?_⟩
  refine forall₂_imp_of_mem (forall₂_of_mapM_eq_ok made made' same.1) fun q left r right alike => ?_
  exact ⟨inside q left, inside' r right, alike⟩

/-- Lists put together from agreeing parts agree. -/
theorem forall₂_flatMap {α β γ : Type} {R : β → γ → Prop} {f : α → List β} {g : α → List γ}
    {xs : List α} (each : ∀ x ∈ xs, List.Forall₂ R (f x) (g x)) :
    List.Forall₂ R (xs.flatMap f) (xs.flatMap g) := by
  induction xs with
  | nil => exact .nil
  | cons x xs ih =>
    rw [List.flatMap_cons, List.flatMap_cons]
    exact List.rel_append (each x List.mem_cons_self)
      (ih fun y member => each y (List.mem_cons_of_mem x member))

/-- Filters that are shown alike for every operator agree in the order in which they are written. -/
theorem Filter.arranged_agree {fs gs : List Filter}
    (left : ∀ f ∈ fs, f.isTyped ∧ f.operand.isExact)
    (right : ∀ f ∈ gs, f.isTyped ∧ f.operand.isExact)
    (same : ∀ o, ((ofOperator o fs).map snapshot).map Value.tree =
      ((ofOperator o gs).map snapshot).map Value.tree) :
    List.Forall₂ Filter.Agree (arranged fs) (arranged gs) := by
  rw [arranged_eq, arranged_eq]
  refine forall₂_flatMap fun o _ => ?_
  have shown : List.Forall₂ (fun f g : Filter => f.snapshot.tree = g.snapshot.tree)
      (ofOperator o fs) (ofOperator o gs) := by
    have both := same o
    rw [List.map_map, List.map_map] at both
    exact forall₂_of_map_eq both
  refine forall₂_imp_of_mem shown fun f chosen g chosen' alike => ?_
  obtain ⟨stored, operator⟩ := List.mem_filter.1 chosen
  obtain ⟨stored', operator'⟩ := List.mem_filter.1 chosen'
  refine .of_tree ?_ (left f stored) (right g stored') alike
  rw [of_decide_eq_true operator, of_decide_eq_true operator']

/-! ## Queries -/

theorem Query.lookup_operator (q : Query) (select ands ors : List Value) (o : Operator) :
    (q.fields select ands ors).lookup (word o) =
      some (.list ((Filter.ofOperator o q.filters).map Filter.snapshot)) := by
  have first : word o ≠ "resource" ∧ word o ≠ "cardinality" ∧ word o ≠ "select" := by
    cases o <;> decide
  simp [fields, List.lookup_append, lookup_field, Filter.lookup_snapshots, first,
    Vocabulary.lookup?_word]

/-- The other names of fields are no words of operators. -/
theorem lookup?_operator_of_field : ∀ name ∈ ["and", "or", "order", "offset", "limit", "count",
    "returning", "resolution", "missing", "schema", "on_conflict", "columns", "inner"],
    Vocabulary.lookup? Operator name = none := by
  decide

/-- Queries whose fields are shown alike: what can be told from the tree of a snapshot without a
look at what its lists hold. -/
structure Query.SameFields (q r : Query) (select ands ors select' ands' ors' : List Value) :
    Prop where
  resource : q.resource = r.resource
  cardinality : q.cardinality = r.cardinality
  selectors : select.map Value.tree = select'.map Value.tree
  filters : ∀ o, ((Filter.ofOperator o q.filters).map Filter.snapshot).map Value.tree =
    ((Filter.ofOperator o r.filters).map Filter.snapshot).map Value.tree
  conjunctions : ands.map Value.tree = ands'.map Value.tree
  disjunctions : ors.map Value.tree = ors'.map Value.tree
  ordering : (q.ordering.map SortKey.snapshot).map Value.tree =
    (r.ordering.map SortKey.snapshot).map Value.tree
  window : q.window = r.window
  preferences : q.preferences = r.preferences
  schema : q.schema.ofField.map Value.tree = r.schema.ofField.map Value.tree
  onConflict : q.onConflict.ofField.map Value.tree = r.onConflict.ofField.map Value.tree
  columns : q.columns.map Value.tree = r.columns.map Value.tree
  inner : q.inner = r.inner

theorem Query.SameFields.of_tree {q r : Query} {select ands ors select' ands' ors' : List Value}
    (same : (Value.object (q.fields select ands ors)).tree =
      (Value.object (r.fields select' ands' ors')).tree) :
    q.SameFields r select ands ors select' ands' ors' := by
  have field := Value.lookup_of_tree same
  have filters (o : Operator) := field (word o)
  simp only [lookup_operator, Option.map_some, Option.some.injEq, Value.tree, Value.trees_eq,
    Json.Tree.array.injEq] at filters
  -- Everything else that is shown, name by name.
  have operator := lookup?_operator_of_field
  simp only [List.forall_mem_cons] at operator
  simp only [fields, List.lookup_append, lookup_field, List.lookup_nil, Filter.lookup_snapshots,
    lookup_optionalField, lookup_valueField, lookup_limit] at field
  have resource := field "resource"
  have cardinality := field "cardinality"
  have selectors := field "select"
  have conjunctions := field "and"
  have disjunctions := field "or"
  have ordering := field "order"
  have offset := field "offset"
  have limit := field "limit"
  have count := field "count"
  have returning := field "returning"
  have resolution := field "resolution"
  have missing := field "missing"
  have schema := field "schema"
  have onConflict := field "on_conflict"
  have columns := field "columns"
  have inner := field "inner"
  clear field
  simp only [String.reduceEq, if_true, if_false, Option.some_or, Option.or_none, Option.none_or,
    Option.map_some, Option.some.injEq, Option.map_none, operator, Value.tree, Value.trees_eq,
    Json.Tree.array.injEq, Json.Tree.text.injEq, Json.Tree.bool.injEq]
    at resource cardinality selectors conjunctions disjunctions ordering columns inner
  simp only [String.reduceEq, if_true, if_false, Option.or_none, Option.none_or, Option.map_some,
    Option.some.injEq, Option.map_none, operator]
    at offset limit count returning resolution missing schema onConflict
  exact
    { resource, selectors, filters, conjunctions, disjunctions, ordering, schema, onConflict,
      columns, inner
      cardinality := LawfulVocabulary.word_injective _ _ cardinality
      window := Window.ext (Value.int_of_tree _ _ offset) (option_of_tree Value.int_of_tree limit)
      preferences := Preferences.ext (option_of_tree word_of_tree count)
        (option_of_tree word_of_tree returning) (option_of_tree word_of_tree resolution)
        (option_of_tree word_of_tree missing) }

theorem Query.selectors_agree {q r : Query} {vs ws : List Value} (left : q.Typed) (right : r.Typed)
    (made : q.selectors.mapM Selector.snapshot = .ok vs)
    (made' : r.selectors.mapM Selector.snapshot = .ok ws)
    (same : vs.map Value.tree = ws.map Value.tree) :
    List.Forall₂ (Selector.Agree .shown) q.selectors r.selectors := by
  have inside {p : Query} (typed : p.Typed) {s : Selector} (member : s ∈ p.selectors) :
      ∀ e, s.embedding? = some e → e.query.Typed := fun e found =>
    typed.embedded (List.mem_filterMap.2 ⟨s, member, found⟩)
  refine forall₂_imp_of_mem (forall₂_of_mapM_eq_ok made made' same) ?_
  rintro s member s' member' ⟨v, w, shown, shown', alike⟩
  have typed := left.own.selectors s member
  have typed' := right.own.selectors s' member'
  exact .of_tree typed typed' (inside left member) (inside right member')
    (s.shown_of_snapshot typed shown) (s'.shown_of_snapshot typed' shown') alike

theorem Query.groups_agree {q r : Query} {gs hs : List FilterGroup} {l : Connective}
    {vs ws : List Value} (left : q.Typed) (right : r.Typed) (within : ∀ g ∈ gs, g ∈ q.groups)
    (within' : ∀ h ∈ hs, h ∈ r.groups) (connective : ∀ g ∈ gs, g.connective = l)
    (connective' : ∀ h ∈ hs, h.connective = l) (made : gs.mapM FilterGroup.snapshot = .ok vs)
    (made' : hs.mapM FilterGroup.snapshot = .ok ws) (same : vs.map Value.tree = ws.map Value.tree) :
    List.Forall₂ (FilterGroup.Agree .shown) gs hs := by
  refine forall₂_imp_of_mem (forall₂_of_mapM_eq_ok made made' same) ?_
  rintro g member h member' ⟨v, w, shown, shown', alike⟩
  exact .of_tree ((connective g member).trans (connective' h member').symm)
    (fun p queried => left.grouped (within g member) queried)
    (fun p queried => right.grouped (within' h member') queried) shown shown' alike

/-- Keys with text columns that are shown alike agree. -/
theorem SortKey.agree_of_trees {ks ls : List SortKey} (left : ∀ k ∈ ks, k.column.asText?.isSome)
    (right : ∀ l ∈ ls, l.column.asText?.isSome)
    (same : (ks.map snapshot).map Value.tree = (ls.map snapshot).map Value.tree) :
    List.Forall₂ SortKey.Agree ks ls := by
  rw [List.map_map, List.map_map] at same
  exact forall₂_imp_of_mem (forall₂_of_map_eq same) fun k member l member' alike =>
    .of_tree (left k member) (right l member') alike

theorem Value.sameText_of_trees {vs ws : List Value} (left : ∀ v ∈ vs, v.asText?.isSome)
    (right : ∀ w ∈ ws, w.asText?.isSome) (same : vs.map tree = ws.map tree) :
    List.Forall₂ SameText vs ws :=
  forall₂_imp_of_mem (forall₂_of_map_eq same) fun v member w member' alike =>
    .of_tree (left v member) (right w member') alike

/-- Alike queries agree in every setting, and what is inside them is alike. -/
theorem Query.Alike.agree {q r : Query} (alike : q.Alike r) : q.Agree .shown r := by
  obtain ⟨left, right, v, w, shown, shown', same⟩ := alike
  obtain ⟨select, ands, ors, madeSelect, madeAnds, madeOrs, rfl⟩ := snapshot_eq_ok.1 shown
  obtain ⟨select', ands', ors', madeSelect', madeAnds', madeOrs', rfl⟩ := snapshot_eq_ok.1 shown'
  have own := left.own
  have own' := right.own
  have field := SameFields.of_tree same
  have conjunctions := groups_agree left right (fun _ => List.mem_append_left _)
    (fun _ => List.mem_append_left _) own.conjunctions own'.conjunctions madeAnds madeAnds'
    field.conjunctions
  have disjunctions := groups_agree left right (fun _ => List.mem_append_right _)
    (fun _ => List.mem_append_right _) own.disjunctions own'.disjunctions madeOrs madeOrs'
    field.disjunctions
  exact
    { resource := field.resource
      cardinality := field.cardinality
      selectors := selectors_agree left right madeSelect madeSelect' field.selectors
      filters := Filter.arranged_agree own.filters own'.filters field.filters
      groups := List.rel_append conjunctions disjunctions
      ordering := SortKey.agree_of_trees own.ordering own'.ordering field.ordering
      window := field.window
      preferences := field.preferences
      schema := .of_field own.schema own'.schema field.schema
      onConflict := .of_field own.onConflict own'.onConflict field.onConflict
      columns := Value.sameText_of_trees own.columns own'.columns field.columns
      inner := field.inner }

theorem Likeness.shown_kept : shown.Kept := ⟨fun alike => alike.agree⟩

end RestQuery
