import RestQuery.Header.Merge
import RestQuery.Proofs.Clause.ColumnPath
import RestQuery.Proofs.Clause.Select
import RestQuery.Proofs.QueryString.Reading

/-!
# Settings that are not written

Most settings of a query count at some places of a tree only.  What an embedded query asks of the
server besides the rows is not written, and of a query in a group nothing is but the filters and the
groups in it.  `Query.SameString` relates two trees that differ in such settings, at any number of
places and at any depth: `Query.SameConditions` in what stands in groups, and `Query.SameClauses` in
what is embedded.  By `Query.unwritten_settings` both have the same parameters, or the same error,
and the header fields depend on nothing but the cardinality, the preferences and the schema of the
root.
-/

namespace RestQuery

/-! ## Trees that are written alike -/

mutual

/-- Groups of one name, the queries of which hold the same conditions. -/
inductive FilterGroup.SameConditions : FilterGroup → FilterGroup → Prop
  | intro {g h : FilterGroup} : g.connective = h.connective → g.negated = h.negated →
    List.Forall₂ Query.SameConditions g.queries h.queries → FilterGroup.SameConditions g h

/-- Queries with the same filters and with groups of the same conditions. -/
inductive Query.SameConditions : Query → Query → Prop
  | intro {q r : Query} : q.filters = r.filters →
    List.Forall₂ FilterGroup.SameConditions q.conjunctions r.conjunctions →
    List.Forall₂ FilterGroup.SameConditions q.disjunctions r.disjunctions →
    Query.SameConditions q r

end

mutual

/-- Selectors that are the same, or embed queries with the same clauses under one name. -/
inductive Selector.SameClauses : Selector → Selector → Prop
  | same (s : Selector) : Selector.SameClauses s s
  | embedded {q r : Query} (name : Value) : q.resource = r.resource → Query.SameClauses q r →
    Selector.SameClauses (.embedded q name) (.embedded r name)

/-- Queries that add the same to each clause.  The cardinality, the preferences, the schema, the
column for conflicts and the limited columns are left open, and so is the resource, which is written
only by the query that embeds this one. -/
inductive Query.SameClauses : Query → Query → Prop
  | intro {q r : Query} : List.Forall₂ Selector.SameClauses q.selectors r.selectors →
    q.filters = r.filters →
    List.Forall₂ FilterGroup.SameConditions q.conjunctions r.conjunctions →
    List.Forall₂ FilterGroup.SameConditions q.disjunctions r.disjunctions →
    q.ordering = r.ordering → q.window = r.window → q.inner = r.inner → Query.SameClauses q r

end

/-- Roots with the same clauses and the same settings for writing.  The cardinality, the
preferences, the schema and the resource are left open. -/
structure Query.SameString (q r : Query) : Prop where
  clauses : q.SameClauses r
  onConflict : q.onConflict = r.onConflict
  columns : q.columns = r.columns

/-! ## Groups -/

namespace FilterGroup.SameConditions

variable {g h : FilterGroup}

theorem key (same : g.SameConditions h) : g.key = h.key := by
  cases same with
  | intro connective negated queries => rw [FilterGroup.key, FilterGroup.key, connective, negated]

theorem queries (same : g.SameConditions h) :
    List.Forall₂ Query.SameConditions g.queries h.queries := by
  cases same with
  | intro connective negated queries => exact queries

end FilterGroup.SameConditions

namespace Query.SameConditions

variable {q r : Query}

theorem filters (same : q.SameConditions r) : q.filters = r.filters := by
  cases same with
  | intro filters conjunctions disjunctions => exact filters

theorem groups (same : q.SameConditions r) :
    List.Forall₂ FilterGroup.SameConditions q.groups r.groups := by
  cases same with
  | intro filters conjunctions disjunctions => exact List.rel_append conjunctions disjunctions

end Query.SameConditions

/-- Groups of the same conditions have one content. -/
theorem FilterGroup.SameConditions.content (write : QueryText) {g h : FilterGroup}
    (same : g.SameConditions h) : g.content write = h.content write := by
  have items : g.flattened (fun f => f.inline write "") (fun h items => h.key ++ enclosed items) =
      h.flattened (fun f => f.inline write "") (fun h items => h.key ++ enclosed items) := by
    refine g.flattened_related (R := Query.SameConditions) (fun inside => ?_) (fun inside => ?_)
      same.queries
    · rw [inside.filters]
    · exact inside.groups.imp fun g h nested => ⟨by rw [nested.key], nested.queries⟩
  rw [FilterGroup.content, FilterGroup.content, items]

/-! ## Clauses -/

namespace Query.SameClauses

variable {q r : Query}

theorem selectors (same : q.SameClauses r) :
    List.Forall₂ Selector.SameClauses q.selectors r.selectors := by
  cases same with
  | intro selectors filters conjunctions disjunctions ordering window inner => exact selectors

theorem filters (same : q.SameClauses r) : q.filters = r.filters := by
  cases same with
  | intro selectors filters conjunctions disjunctions ordering window inner => exact filters

theorem groups (same : q.SameClauses r) :
    List.Forall₂ FilterGroup.SameConditions q.groups r.groups := by
  cases same with
  | intro selectors filters conjunctions disjunctions ordering window inner =>
    exact List.rel_append conjunctions disjunctions

theorem ordering (same : q.SameClauses r) : q.ordering = r.ordering := by
  cases same with
  | intro selectors filters conjunctions disjunctions ordering window inner => exact ordering

theorem window (same : q.SameClauses r) : q.window = r.window := by
  cases same with
  | intro selectors filters conjunctions disjunctions ordering window inner => exact window

theorem inner (same : q.SameClauses r) : q.inner = r.inner := by
  cases same with
  | intro selectors filters conjunctions disjunctions ordering window inner => exact inner

end Query.SameClauses

/-- Groups and queries hold their own conditions. -/
theorem FilterGroup.SameConditions.refl (g : FilterGroup) : g.SameConditions g := by
  induction g using FilterGroup.induction with
  | step g ih =>
    refine .intro rfl rfl (List.forall₂_same.2 fun q queried => .intro rfl ?_ ?_)
    · exact List.forall₂_same.2 fun h grouped => ih q queried h (List.mem_append_left _ grouped)
    · exact List.forall₂_same.2 fun h grouped => ih q queried h (List.mem_append_right _ grouped)

/-- A query has its own clauses. -/
theorem Query.SameClauses.refl (q : Query) : q.SameClauses q :=
  .intro (List.forall₂_same.2 fun s _ => .same s) rfl
    (List.forall₂_same.2 fun g _ => .refl g) (List.forall₂_same.2 fun g _ => .refl g) rfl rfl rfl

/-- What the queries embed is the same again, under the same aliases and of the same resources. -/
theorem Query.SameClauses.embeddings {q r : Query} (same : q.SameClauses r) :
    List.Forall₂ (fun e f : Embedding => e.query.SameClauses f.query ∧
      e.aliasValue = f.aliasValue ∧ e.query.resource = f.query.resource)
      q.embeddings r.embeddings := by
  refine List.rel_filterMap (fun s s' alike => ?_) same.selectors
  cases alike with
  | same s =>
    cases s.embedding? with
    | none => exact .none
    | some e => exact .some ⟨.refl e.query, rfl, rfl⟩
  | embedded name resource inside =>
    refine .some ⟨inside, ?_, resource⟩
    rw [Embedding.aliasValue, Embedding.aliasValue, resource]

namespace Query.SameClauses

variable {q r : Query} (write : QueryText)

/-- A clause that recurses with a path is the same, if what a single query adds to it is. -/
theorem collect {π α : Type} {extend : π → Value → Except Error π}
    {emit : π → Query → Except Error (List α)}
    (emitted : ∀ path {q r : Query}, q.SameClauses r → emit path q = emit path r)
    (same : q.SameClauses r) (path : π) : q.collect extend emit path = r.collect extend emit path :=
  q.collect_related (P := Eq) (A := Eq)
    (fun alike => alike.embeddings.imp fun _ _ inside => ⟨inside.1, inside.2.1⟩)
    (fun _ _ _ _ paths names => paths ▸ names ▸ .same fun _ => rfl)
    (fun _ _ _ _ paths alike => paths ▸ emitted _ alike) same rfl

/-- So is one that starts below the root. -/
theorem collectAll {π α : Type} {extend : π → Value → Except Error π}
    {emit : π → Query → Except Error (List α)}
    (emitted : ∀ path {q r : Query}, q.SameClauses r → emit path q = emit path r)
    (same : q.SameClauses r) (path : π) :
    Selector.collectAll extend emit path q.selectors =
      Selector.collectAll extend emit path r.selectors :=
  collectAll_related (P := Eq) (A := Eq)
    (fun alike => alike.embeddings.imp fun _ _ inside => ⟨inside.1, inside.2.1⟩)
    (fun _ _ _ _ paths names => paths ▸ names ▸ .same fun _ => rfl)
    (fun _ _ _ _ paths alike => paths ▸ emitted _ alike) same rfl

theorem filterPairs (same : q.SameClauses r) : q.filterPairs write = r.filterPairs write :=
  same.collect (fun path q r alike => by rw [ownFilterPairs, ownFilterPairs, alike.filters]) ""

theorem groupPairs (same : q.SameClauses r) : q.groupPairs write = r.groupPairs write :=
  same.collect (fun path q r alike => mapM_forall₂ (alike.groups.imp fun g h nested => by
    rw [nested.key, nested.content])) ""

theorem limitPairs (same : q.SameClauses r) : q.limitPairs write = r.limitPairs write :=
  same.collect (fun path q r alike => by rw [ownLimitPairs, ownLimitPairs, alike.window]) ""

theorem offsetPairs (same : q.SameClauses r) : q.offsetPairs write = r.offsetPairs write :=
  same.collect (fun path q r alike => by rw [ownOffsetPairs, ownOffsetPairs, alike.window]) ""

/-! ### Ordering -/

theorem orderColumn (same : q.SameClauses r) (column : List Char) :
    q.orderColumn column = r.orderColumn column :=
  q.orderColumn_related (R := SameClauses) (fun alike => alike.embeddings.imp fun e f inside =>
    ⟨inside.1, fun name => by
      rw [Embedding.answersTo, Embedding.answersTo, inside.2.1, inside.2.2]⟩) column same

theorem orderText (same : q.SameClauses r) (k : SortKey) : q.orderText k = r.orderText k := by
  simp only [Query.orderText, same.orderColumn]

theorem hoistedText (same : q.SameClauses r) (path : List Value) (k : SortKey) :
    q.hoistedText write path k = r.hoistedText write path k := by
  simp only [Query.hoistedText, same.orderColumn]

theorem rootKeys (same : q.SameClauses r) : q.rootKeys write = r.rootKeys write := by
  have own : q.ordering.mapM q.orderText = r.ordering.mapM r.orderText := by
    rw [same.ordering]
    exact mapM_congr fun k _ => same.orderText k
  have hoisted : Selector.collectAll (fun path name => .ok (path ++ [name])) (topKeys write) []
        q.selectors =
      Selector.collectAll (fun path name => .ok (path ++ [name])) (topKeys write) []
        r.selectors := by
    refine same.collectAll (fun path q r alike => ?_) []
    rw [topKeys, topKeys, alike.ordering]
    exact mapM_congr fun k _ => alike.hoistedText write path k
  rw [Query.rootKeys, Query.rootKeys, own, hoisted]

theorem orderingPairs (same : q.SameClauses r) : q.orderingPairs write = r.orderingPairs write := by
  have below : Selector.collectAll (dottedBelow write) ownOrdering "" q.selectors =
      Selector.collectAll (dottedBelow write) ownOrdering "" r.selectors := by
    refine same.collectAll (fun path q r alike => ?_) ""
    rw [ownOrdering, ownOrdering, alike.ordering, mapM_congr fun k _ => alike.orderText k]
  rw [Query.orderingPairs, Query.orderingPairs, same.rootKeys write, below]

/-! ### The select clause -/

theorem select (same : q.SameClauses r) : q.select write = r.select write := by
  induction q using Query.embedding_induction generalizing r with
  | step q ih =>
    have each : List.Forall₂ (fun s s' : Selector => s.written write = s'.written write)
        q.selectors r.selectors := by
      refine forall₂_imp_of_mem same.selectors fun s member s' _ alike => ?_
      cases alike with
      | same s => rfl
      | @embedded q' r' name resource inside =>
        have embedded : ⟨q', name⟩ ∈ q.embeddings := List.mem_filterMap.2 ⟨_, member, rfl⟩
        rw [Selector.written_embedded, Selector.written_embedded, resource, inside.inner,
          ih _ embedded inside]
    rw [Query.select, Query.select, Selector.allWritten_eq, Selector.allWritten_eq,
      mapM_forall₂ each]

end Query.SameClauses

/-! ## Requests -/

/-- Roots of the same clauses and settings for writing have the same parameters, or fail for the
same cause. -/
theorem Query.SameString.parameters {q r : Query} (same : q.SameString r) (write : QueryText) :
    q.parameters write = r.parameters write := by
  have clauses := same.clauses
  have writing : q.writingParameters = r.writingParameters := by
    rw [writingParameters, writingParameters, QueryString.conflictParameters,
      QueryString.conflictParameters, QueryString.columnPairs, QueryString.columnPairs,
      same.onConflict, same.columns]
  rw [Query.parameters, Query.parameters, clauses.inner, clauses.select, clauses.filterPairs,
    clauses.groupPairs, clauses.orderingPairs, clauses.limitPairs, clauses.offsetPairs, writing]

/-- The header fields are made from three settings of the root. -/
theorem Query.requestHeaders_congr {q r : Query} (cardinality : q.cardinality = r.cardinality)
    (preferences : q.preferences = r.preferences) (schema : q.schema = r.schema) (method : String)
    (caller : Headers) : q.requestHeaders method caller = r.requestHeaders method caller := by
  have mediaType (draft : HeaderDraft) : q.withMediaType draft = r.withMediaType draft := by
    rw [withMediaType, withMediaType, cardinality]
  have asked (draft : HeaderDraft) : q.withSchema method draft = r.withSchema method draft := by
    rw [withSchema, withSchema, schema]
  have preferred (draft : HeaderDraft) :
      q.withPreferences caller draft = r.withPreferences caller draft := by
    rw [withPreferences, withPreferences, Query.preferred, Query.preferred, preferences]
  rw [requestHeaders, requestHeaders, mediaType, asked, preferred]

namespace Query

/-- Trees that differ only in settings that are not written have the same parameters, or fail for
the same cause, and queries of one cardinality, one schema and the same preferences have the same
header fields. -/
theorem unwritten_settings :
    (∀ {q r : Query}, q.SameString r → ∀ write, q.parameters write = r.parameters write) ∧
      ∀ {q r : Query}, q.cardinality = r.cardinality → q.preferences = r.preferences →
        q.schema = r.schema → ∀ method caller,
          q.requestHeaders method caller = r.requestHeaders method caller :=
  ⟨SameString.parameters, requestHeaders_congr⟩

/-- What is asked of a name in a group, all else being as in another query. -/
def namedAnn (q : Query) : Query :=
  { q with
    filters := [⟨.eq, .text "name", .text "Ann", false⟩]
    conjunctions := []
    disjunctions := [] }

/-- Three actors with other names, all that is not written being as in another query. -/
def otherActors (q : Query) : Query :=
  { q with
    resource := "actors"
    selectors := [.column (.text "name")]
    filters := []
    conjunctions := []
    disjunctions := [⟨.or, [namedAnn q], true⟩]
    ordering := []
    window := ⟨0, some 3⟩
    inner := true }

/-- Films with such actors, all that is not written being as in another query. -/
def filmsWithout (q : Query) : Query :=
  { q with
    selectors := [.column (.text "title"), .embedded (otherActors q) .null]
    filters := []
    conjunctions := []
    disjunctions := []
    ordering := []
    window := ⟨0, none⟩
    onConflict := .null
    columns := []
    inner := false }

theorem filmsWithout_sameString (q r : Query) : (filmsWithout q).SameString (filmsWithout r) := by
  have named : (namedAnn q).SameConditions (namedAnn r) := .intro rfl .nil .nil
  have actors : (otherActors q).SameClauses (otherActors r) :=
    .intro (.cons (.same _) .nil) rfl .nil (.cons (.intro rfl rfl (.cons named .nil)) .nil)
      rfl rfl rfl
  exact ⟨.intro (.cons (.same _) (.cons (.embedded .null rfl actors) .nil)) rfl .nil .nil
    rfl rfl rfl, rfl, rfl⟩

/-- A query that sets much, and has a selector that cannot be written. -/
def peopleMarked : Query :=
  { ofResource "people" .one with
    selectors := [.invalid (.int 1)]
    ordering := [.ofColumn (.text "id")]
    window := ⟨5, some 1⟩
    preferences := ⟨some .exact, none, some .mergeDuplicates, none⟩
    schema := .text "archive"
    onConflict := .text "id"
    columns := [.text "name"] }

theorem unwritten_settings_filmsWithout :
    (filmsWithout peopleMarked).parameters (fun _ => .ok "") =
        .ok [("select", .text "title,actors!inner(name)"),
          ("actors.not.or", .text "(name.eq.Ann)"), ("actors.limit", .text "3")] ∧
      (filmsWithout peopleMarked).requestHeaders "GET" ⟨[]⟩ =
        peopleMarked.requestHeaders "GET" ⟨[]⟩ := by
  have sameString := filmsWithout_sameString peopleMarked (ofResource "films" .many)
  refine ⟨(unwritten_settings.1 sameString _).trans ?_, unwritten_settings.2 rfl rfl rfl "GET" ⟨[]⟩⟩
  generalize ofResource "films" .many = q
  have unfiltered : Filter.arranged [] = [] := List.mergeSort_nil
  have filters : (filmsWithout q).filterPairs (fun _ => .ok "") = .ok [] := by
    simp only [filterPairs, filmsWithout, otherActors, collect, Selector.collectAll,
      Selector.collect, ownFilterPairs, unfiltered]
    rfl
  have groups : (filmsWithout q).groupPairs (fun _ => .ok "") =
      .ok [("actors.not.or", "(name.eq.Ann)")] := by
    have content : FilterGroup.content (fun _ => .ok "") ⟨.or, [namedAnn q], true⟩ =
        .ok "(name.eq.Ann)" := by
      simp only [FilterGroup.content, FilterGroup.flattened, namedAnn, allFlattened, flattened,
        Filter.arranged, List.mergeSort_singleton]
      rfl
    simp only [groupPairs, filmsWithout, otherActors, collect, Selector.collectAll,
      Selector.collect, ownGroupPairs, Query.groups, List.nil_append, List.mapM_cons, content]
    rfl
  rw [parameters_root _ rfl, filters, groups]
  rfl

end Query

end RestQuery
