import RestQuery.Clause.Filters
import RestQuery.Proofs.Value.Plain

/-!
# The conditions of a group

A group holds queries, and each of these holds filters and further groups.  `FilterGroup.induction`
is the induction over this nesting, `FilterGroup.conditions` lists the filters that stand anywhere
in a group, and `FilterGroup.flattened_eq` and the theorems after it say what is known of the items
of a group from its filters.  A group can be written if no query stands for the column or an operand
of a filter in it (`FilterGroup.content_succeeds`), and so in particular if every filter is typed.
-/

namespace RestQuery

/-! ## Induction over the nesting -/

theorem Query.sizeOf_groups {q : Query} {g : FilterGroup} (member : g ∈ q.groups) :
    sizeOf g < sizeOf q := by
  rcases List.mem_append.1 member with inside | inside
  all_goals
    have below := List.sizeOf_lt_of_mem inside
    cases q
    simp only [Query.mk.sizeOf_spec]
    dsimp only at below
    omega

theorem FilterGroup.sizeOf_queries {g : FilterGroup} {q : Query} (member : q ∈ g.queries) :
    sizeOf q < sizeOf g := by
  have below := List.sizeOf_lt_of_mem member
  cases g
  simp only [FilterGroup.mk.sizeOf_spec]
  dsimp only at below
  omega

/-- What holds of a group as soon as it holds of the groups in its queries holds of every group. -/
theorem FilterGroup.induction {motive : FilterGroup → Prop}
    (step : ∀ g : FilterGroup, (∀ q ∈ g.queries, ∀ h ∈ q.groups, motive h) → motive g)
    (g : FilterGroup) : motive g :=
  step g fun q queried h grouped =>
    have := FilterGroup.sizeOf_queries queried
    have := Query.sizeOf_groups grouped
    FilterGroup.induction step h
termination_by sizeOf g

/-! ## The items of a group -/

section Flattening

variable {α β : Type} {condition : Filter → Except Error α} {group : FilterGroup → List α → α}

/-- A query adds its filters and then its groups, conjunctions first. -/
theorem Query.flattened_eq (condition : Filter → Except Error α)
    (group : FilterGroup → List α → α) (q : Query) :
    q.flattened condition group = (do
      return (← (Filter.arranged q.filters).mapM condition) ++
        (← q.groups.mapM fun h => group h <$> h.flattened condition group)) := by
  have groups (gs : List FilterGroup) : FilterGroup.allFlattened condition group gs =
      gs.mapM fun h => group h <$> h.flattened condition group := by
    induction gs with
    | nil => rfl
    | cons g gs ih => simp only [FilterGroup.allFlattened, ih, List.mapM_cons, bind_map_left]
  cases q
  simp only [flattened, groups, Query.groups, List.mapM_append, bind_assoc, pure_bind,
    List.append_assoc]

/-- A group lists the items of its queries one query after the other. -/
theorem FilterGroup.flattened_eq (condition : Filter → Except Error α)
    (group : FilterGroup → List α → α) (g : FilterGroup) :
    g.flattened condition group = g.queries.flatMapM (Query.flattened condition group) := by
  have queries (qs : List Query) : Query.allFlattened condition group qs =
      qs.flatMapM (Query.flattened condition group) := by
    induction qs with
    | nil => rfl
    | cons q qs ih => simp only [Query.allFlattened, ih, List.flatMapM_cons]
  cases g
  exact queries _

/-- Items that are made from other items, filter by filter and group by group, are made from the
other items of the whole group. -/
theorem FilterGroup.flattened_map {condition' : Filter → Except Error β}
    {group' : FilterGroup → List β → β} (f : α → β)
    (conditions : ∀ c, condition' c = f <$> condition c)
    (groups : ∀ h items, group' h (items.map f) = f (group h items)) (g : FilterGroup) :
    g.flattened condition' group' = List.map f <$> g.flattened condition group := by
  induction g using FilterGroup.induction with
  | step g ih =>
    rw [flattened_eq, flattened_eq, ← flatMapM_map_result]
    refine flatMapM_congr fun q queried => ?_
    have nested : (q.groups.mapM fun h => group' h <$> h.flattened condition' group') =
        List.map f <$> q.groups.mapM fun h => group h <$> h.flattened condition group := by
      rw [← mapM_map_result]
      refine mapM_congr fun h grouped => ?_
      simp only [ih q queried h grouped, Functor.map_map, groups]
    rw [Query.flattened_eq, Query.flattened_eq, nested, funext conditions, mapM_map_result]
    simp only [bind_map_left, map_bind, map_pure, List.map_append]

/-- Groups of related queries have the same items, if the filters of related queries do, and the
groups in them are related again and made alike from the items inside. -/
theorem FilterGroup.flattened_related {condition' : Filter → Except Error α}
    {group' : FilterGroup → List α → α} {R : Query → Query → Prop}
    (filters : ∀ {q r}, R q r →
      (Filter.arranged q.filters).mapM condition = (Filter.arranged r.filters).mapM condition')
    (groups : ∀ {q r}, R q r → List.Forall₂ (fun g h : FilterGroup => group g = group' h ∧
      List.Forall₂ R g.queries h.queries) q.groups r.groups)
    (g : FilterGroup) : ∀ {h : FilterGroup}, List.Forall₂ R g.queries h.queries →
      g.flattened condition group = h.flattened condition' group' := by
  induction g using FilterGroup.induction with
  | step g ih =>
    intro h related
    rw [flattened_eq, flattened_eq]
    refine flatMapM_forall₂ (forall₂_imp_of_mem related fun q queried r _ same => ?_)
    rw [Query.flattened_eq, Query.flattened_eq, filters same]
    congr 1
    funext own
    congr 1
    refine mapM_forall₂ (forall₂_imp_of_mem (groups same) fun g grouped h _ inside => ?_)
    rw [ih q queried g grouped inside.2, inside.1]

end Flattening

/-! ## The filters inside -/

mutual

/-- The filters that stand anywhere in a group. -/
def FilterGroup.conditions : FilterGroup → List Filter
  | { queries, .. } => Query.allConditions queries

/-- The filters that stand anywhere in some groups. -/
def FilterGroup.allConditions : List FilterGroup → List Filter
  | [] => []
  | g :: gs => g.conditions ++ FilterGroup.allConditions gs

/-- The filters of a query and those that stand anywhere in its groups. -/
def Query.conditions : Query → List Filter
  | { filters, conjunctions, disjunctions, .. } =>
    filters ++ FilterGroup.allConditions conjunctions ++ FilterGroup.allConditions disjunctions

/-- The filters of some queries and those that stand anywhere in their groups. -/
def Query.allConditions : List Query → List Filter
  | [] => []
  | q :: qs => q.conditions ++ Query.allConditions qs

end

theorem FilterGroup.allConditions_eq (gs : List FilterGroup) :
    FilterGroup.allConditions gs = gs.flatMap FilterGroup.conditions := by
  induction gs with
  | nil => rfl
  | cons g gs ih => rw [allConditions, ih, List.flatMap_cons]

theorem Query.conditions_eq (q : Query) :
    q.conditions = q.filters ++ q.groups.flatMap FilterGroup.conditions := by
  cases q
  simp only [conditions, FilterGroup.allConditions_eq, groups, List.flatMap_append,
    List.append_assoc]

theorem FilterGroup.conditions_eq (g : FilterGroup) :
    g.conditions = g.queries.flatMap Query.conditions := by
  rcases g with ⟨connective, queries, negated⟩
  rw [conditions]
  induction queries with
  | nil => rfl
  | cons q qs ih => rw [Query.allConditions, ih, List.flatMap_cons]

theorem Query.mem_conditions_of_filters {q : Query} {f : Filter}
    (member : f ∈ Filter.arranged q.filters) : f ∈ q.conditions := by
  rw [conditions_eq]
  exact List.mem_append_left _ (List.mem_mergeSort.1 member)

theorem Query.mem_conditions_of_groups {q : Query} {g : FilterGroup} {f : Filter}
    (grouped : g ∈ q.groups) (member : f ∈ g.conditions) : f ∈ q.conditions := by
  rw [conditions_eq]
  exact List.mem_append_right _ (List.mem_flatMap.2 ⟨g, grouped, member⟩)

theorem FilterGroup.mem_conditions {g : FilterGroup} {q : Query} {f : Filter}
    (queried : q ∈ g.queries) (member : f ∈ q.conditions) : f ∈ g.conditions := by
  rw [conditions_eq]
  exact List.mem_flatMap.2 ⟨q, queried, member⟩

section Flattening

variable {α : Type} {condition : Filter → Except Error α} {group : FilterGroup → List α → α}

/-- The items of a group can be made if those of its filters can. -/
theorem FilterGroup.flattened_succeeds (g : FilterGroup) :
    (∀ c ∈ g.conditions, Succeeds (condition c)) → Succeeds (g.flattened condition group) := by
  induction g using FilterGroup.induction with
  | step g ih =>
    intro each
    rw [flattened_eq]
    refine Succeeds.flatMapM fun q queried => ?_
    have inside : ∀ c ∈ q.conditions, Succeeds (condition c) := fun c member =>
      each c (mem_conditions queried member)
    have filters : Succeeds ((Filter.arranged q.filters).mapM condition) :=
      Succeeds.mapM fun c member =>
        inside c (Query.mem_conditions_of_filters member)
    have groups : Succeeds (q.groups.mapM fun h => group h <$> h.flattened condition group) :=
      Succeeds.mapM fun h grouped => (ih q queried h grouped fun c member =>
        inside c (Query.mem_conditions_of_groups grouped member)).map (group h)
    rw [Query.flattened_eq]
    exact filters.bind fun _ => groups.bind fun _ => .pure _

/-- What holds of the items for filters, and of a group if it holds of the items inside, holds of
all items. -/
theorem FilterGroup.flattened_forall {motive : α → Prop}
    (groups : ∀ h items, (∀ i ∈ items, motive i) → motive (group h items)) (g : FilterGroup) :
    (∀ c ∈ g.conditions, ∀ i, condition c = .ok i → motive i) →
      ∀ items, g.flattened condition group = .ok items → ∀ i ∈ items, motive i := by
  induction g using FilterGroup.induction with
  | step g ih =>
    intro each items made
    rw [flattened_eq] at made
    refine forall_of_flatMapM_eq_ok (fun q queried own made => ?_) made
    have inside : ∀ c ∈ q.conditions, ∀ i, condition c = .ok i → motive i := fun c member =>
      each c (mem_conditions queried member)
    rw [Query.flattened_eq] at made
    obtain ⟨filters, madeFilters, made⟩ := bind_eq_ok.1 made
    obtain ⟨nested, madeNested, made⟩ := bind_eq_ok.1 made
    cases made
    intro i member
    rcases List.mem_append.1 member with member | member
    · exact forall_of_mapM_eq_ok (fun c stored =>
        inside c (Query.mem_conditions_of_filters stored)) madeFilters i member
    · refine forall_of_mapM_eq_ok (fun h grouped j made => ?_) madeNested i member
      obtain ⟨further, madeFurther, rfl⟩ := map_eq_ok.1 made
      exact groups h further (ih q queried h grouped (fun c member =>
        inside c (Query.mem_conditions_of_groups grouped member)) further madeFurther)

end Flattening

/-! ## Typed filters -/

/-- Whether a value is a single one of those that a filter compares with. -/
def Value.isScalar : Value → Bool
  | .null => true
  | .bool _ => true
  | .int _ => true
  | .float _ => true
  | .decimal _ => true
  | .text _ => true
  | .token _ => true
  | _ => false

/-- Whether a value is a scalar or a tuple of scalars. -/
def Value.isOperand : Value → Bool
  | .tuple items => items.all Value.isScalar
  | v => v.isScalar

/-- Whether the column is a text, and the operand a scalar or a tuple of scalars. -/
def Filter.isTyped (f : Filter) : Bool := f.column.asText?.isSome && f.operand.isOperand

/-- Whether no query stands for an operand. -/
def Value.isQueryFreeOperand : Value → Bool
  | .tuple items => items.all fun v => !v.isQuery
  | v => !v.isQuery

/-- Whether no query stands for the column or for an operand of the filter. -/
def Filter.isQueryFree (f : Filter) : Bool := !f.column.isQuery && f.operand.isQueryFreeOperand

theorem Value.isQuery_of_isScalar {v : Value} (scalar : v.isScalar) : v.isQuery = false := by
  cases v <;> first | rfl | cases scalar

theorem Value.isQueryFreeOperand_of_isOperand {v : Value} (typed : v.isOperand) :
    v.isQueryFreeOperand := by
  cases v with
  | tuple items =>
    refine List.all_eq_true.2 fun v member => ?_
    rw [isQuery_of_isScalar (List.all_eq_true.1 typed v member)]
    rfl
  | _ => first | rfl | cases typed

theorem Filter.isQueryFree_of_isTyped {f : Filter} (typed : f.isTyped) : f.isQueryFree := by
  obtain ⟨column, operand⟩ := Bool.and_eq_true_iff.1 typed
  rw [isQueryFree, Value.isQuery_of_asText? column, Value.isQueryFreeOperand_of_isOperand operand]
  rfl

/-! ## Writing filters without queries -/

theorem Value.operandText_of_not_query (write : QueryText) {v : Value} (other : v.isQuery = false) :
    Succeeds (v.operandText write) := by
  cases v with
  | bool b => cases b <;> exact ⟨_, rfl⟩
  | query q => cases other
  | _ => exact ⟨_, rfl⟩

theorem Value.operandText_succeeds (write : QueryText) {v : Value} (scalar : v.isScalar) :
    Succeeds (v.operandText write) :=
  operandText_of_not_query write (isQuery_of_isScalar scalar)

namespace Filter

theorem operandText_succeeds (write : QueryText) {f : Filter} (free : f.operand.isQueryFreeOperand)
    (inGroup : Bool) : Succeeds (f.operandText write inGroup) := by
  have alone {v : Value} (other : v.isQuery = false) : Succeeds (v.operandText write) ∧
      Succeeds (v.shieldedOperand write) :=
    have made := Value.operandText_of_not_query write other
    ⟨made, made.map Value.shielded⟩
  have single : f.operand.isQuery = false →
      Succeeds (if inGroup then f.operand.shieldedOperand write
        else f.operand.operandText write) := by
    intro other
    cases inGroup
    · exact (alone other).1
    · exact (alone other).2
  rcases f with ⟨operator, column, operand, negated⟩
  cases operand with
  | tuple items =>
    have each := List.all_eq_true.1 free
    exact (Succeeds.mapM fun v member =>
      (alone (by simpa using each v member)).2).bind fun _ => .pure _
  | query q => cases free
  | _ => exact single rfl

theorem written_succeeds (write : QueryText) {f : Filter} (free : f.isQueryFree) (inGroup : Bool) :
    Succeeds (f.written write inGroup) :=
  (operandText_succeeds write (Bool.and_eq_true_iff.1 free).2 inGroup).bind fun _ => .pure _

theorem column_succeeds (write : QueryText) {f : Filter} (free : f.isQueryFree) :
    Succeeds (f.column.plain write) :=
  Value.plain_succeeds write (by simpa using (Bool.and_eq_true_iff.1 free).1)

theorem inline_succeeds (write : QueryText) {f : Filter} (free : f.isQueryFree) (path : String) :
    Succeeds (f.inline write path) :=
  (column_succeeds write free).bind fun _ =>
    (written_succeeds write free true).bind fun _ => .pure _

theorem pair_succeeds (write : QueryText) {f : Filter} (free : f.isQueryFree) (path : String) :
    Succeeds (f.pair write path) :=
  (column_succeeds write free).bind fun _ =>
    (written_succeeds write free false).bind fun _ => .pure _

end Filter

/-- A group of filters without queries can be written. -/
theorem FilterGroup.content_succeeds (write : QueryText) (g : FilterGroup)
    (free : ∀ f ∈ g.conditions, f.isQueryFree) : Succeeds (g.content write) :=
  (g.flattened_succeeds fun f member => f.inline_succeeds write (free f member) "").bind
    fun _ => .pure _

end RestQuery
