import RestQuery.Clause.Window
import RestQuery.Proofs.Clause.ColumnPath
import RestQuery.Proofs.Clause.Select
import RestQuery.Proofs.Snapshot.Agreement

/-!
# Clauses of alike queries

What alike queries write is the same, clause by clause, for every likeness that is kept.  A filter
or a group of one query is written as that of the other (`Likeness.Kept.content`), so is what a
clause collects along the embedding tree (`Likeness.Kept.collect`), and an ordering column is
resolved alike (`Likeness.Kept.orderColumn`).  The select clauses are one text, unless both cannot
be written (`Likeness.Kept.select`).  None of this asks for the text of a query in the place of a
value, so the two sides can be written with different such texts.
-/

namespace RestQuery

variable {L : Likeness} {write write' : QueryText}

/-! ## Values and filters -/

theorem Value.SameText.plain {v w : Value} (same : v.SameText w) :
    v.plain write = w.plain write' := by
  obtain ⟨s, text, text'⟩ := same
  rw [plain_of_asText? text, plain_of_asText? text']

namespace Filter.Agree

variable {f g : Filter}

theorem written (agree : f.Agree g) (inGroup : Bool) :
    f.written write inGroup = g.written write' inGroup := by
  rw [Filter.written, Filter.written, agree.negated, agree.operator,
    agree.operandText write write' inGroup]

theorem pair (agree : f.Agree g) (path : String) : f.pair write path = g.pair write' path := by
  rw [Filter.pair, Filter.pair, agree.column.plain, agree.written]

theorem inline (agree : f.Agree g) (path : String) :
    f.inline write path = g.inline write' path := by
  rw [Filter.inline, Filter.inline, agree.column.plain, agree.written]

end Filter.Agree

/-! ## Groups -/

/-- The items of groups with alike queries are the same. -/
theorem Likeness.Kept.items (kept : L.Kept) {g h : FilterGroup} (agree : g.Agree L h) :
    g.flattened (fun f => f.inline write "") (fun h items => h.key ++ enclosed items) =
      h.flattened (fun f => f.inline write' "") (fun h items => h.key ++ enclosed items) := by
  refine g.flattened_related (R := L.queries) (fun alike => ?_) (fun alike => ?_) agree.queries
  · exact mapM_forall₂ ((kept.agree alike).filters.imp fun f g same => same.inline "")
  · exact (kept.agree alike).groups.imp fun g h same => ⟨by rw [same.key], same.queries⟩

/-- Groups with alike queries have one content. -/
theorem Likeness.Kept.content (kept : L.Kept) {g h : FilterGroup} (agree : g.Agree L h) :
    g.content write = h.content write' := by
  rw [FilterGroup.content, FilterGroup.content, kept.items agree]

/-! ## Embedded queries -/

/-- Alike queries that are embedded under one alias. -/
structure Embedding.Agree (L : Likeness) (e f : Embedding) : Prop where
  query : L.queries e.query f.query
  aliasValue : e.aliasValue.SameText f.aliasValue

theorem Likeness.Kept.embedding (kept : L.Kept) {q r : Query} {name name' : Value}
    (alike : L.queries q r) (same : name.SameName name') :
    Embedding.Agree L ⟨q, name⟩ ⟨r, name'⟩ := by
  refine ⟨alike, ?_⟩
  rw [Embedding.aliasValue, Embedding.aliasValue]
  rcases same.given_or_not with ⟨absent, absent'⟩ | ⟨given, given', text⟩
  · rw [if_neg (by simp [absent]), if_neg (by simp [absent'])]
    exact ⟨q.resource, rfl, congrArg some (kept.agree alike).resource.symm⟩
  · rw [if_pos given, if_pos given']
    exact text

/-- A selector with a text of its own embeds nothing. -/
theorem Selector.embedding?_of_ownText? {s : Selector} {t : String} (own : s.ownText? = some t) :
    s.embedding? = none := by
  cases s <;> first | rfl | cases own

/-- Nor does one that cannot be written. -/
theorem Selector.embedding?_of_refusal? {s : Selector} {e : Error} (refused : s.refusal? = some e) :
    s.embedding? = none := by
  cases s <;> first | rfl | cases refused

theorem Likeness.Kept.embeddings (kept : L.Kept) {q r : Query} (alike : L.queries q r) :
    List.Forall₂ (Embedding.Agree L) q.embeddings r.embeddings := by
  refine List.rel_filterMap (fun s s' same => ?_) (kept.agree alike).selectors
  cases same with
  | text _ _ own own' =>
    rw [Selector.embedding?_of_ownText? own, Selector.embedding?_of_ownText? own']
    exact .none
  | embedded alike name => exact .some (kept.embedding alike name)
  | refused cause cause' _ =>
    rw [Selector.embedding?_of_refusal? cause, Selector.embedding?_of_refusal? cause']
    exact .none

section Collecting

variable {π π' α : Type} {extend : π → Value → Except Error π}
  {extend' : π' → Value → Except Error π'} {emit : π → Query → Except Error (List α)}
  {emit' : π' → Query → Except Error (List α)} {R : π → π' → Prop}

/-- Alike queries are run through alike, if paths that agree are extended by one alias to paths
that agree, and alike queries at such paths emit the same. -/
theorem Likeness.Kept.collect (kept : L.Kept)
    (extended : ∀ p p' v w, R p p' → v.SameText w →
      Matched R (· = ·) (extend p v) (extend' p' w))
    (emitted : ∀ p p' q r, R p p' → L.queries q r → emit p q = emit' p' r) (q : Query) :
    ∀ {r p p'}, L.queries q r → R p p' →
      q.collect extend emit p = r.collect extend' emit' p' :=
  q.collect_related (fun alike => (kept.embeddings alike).imp fun _ _ same =>
    ⟨same.query, same.aliasValue⟩) extended emitted

/-- So are the selectors of alike queries. -/
theorem Likeness.Kept.collectAll (kept : L.Kept)
    (extended : ∀ p p' v w, R p p' → v.SameText w →
      Matched R (· = ·) (extend p v) (extend' p' w))
    (emitted : ∀ p p' q r, R p p' → L.queries q r → emit p q = emit' p' r) {q r : Query}
    {p : π} {p' : π'} (alike : L.queries q r) (paths : R p p') :
    Selector.collectAll extend emit p q.selectors =
      Selector.collectAll extend' emit' p' r.selectors :=
  Query.collectAll_related (fun alike => (kept.embeddings alike).imp fun _ _ same =>
    ⟨same.query, same.aliasValue⟩) extended emitted alike paths

end Collecting

theorem dottedBelow_agree (p p' : String) (v w : Value) (paths : p = p') (same : v.SameText w) :
    Matched (· = ·) (· = ·) (dottedBelow write p v) (dottedBelow write' p' w) := by
  obtain ⟨s, text, text'⟩ := same
  rw [dottedBelow, dottedBelow, Value.plain_of_asText? text, Value.plain_of_asText? text', paths]
  exact .ok rfl

namespace Likeness.Kept

variable {q r : Query}

/-- A clause that recurses with a dotted path is the same for alike queries, if what a single query
writes is. -/
theorem collect_dotted (kept : L.Kept) {emit emit' : String → Query → Except Error (List Pair)}
    (emitted : ∀ path q r, L.queries q r → emit path q = emit' path r) (alike : L.queries q r) :
    q.collect (dottedBelow write) emit "" = r.collect (dottedBelow write') emit' "" :=
  kept.collect dottedBelow_agree (fun p _ q r paths alike => paths ▸ emitted p q r alike) q alike
    rfl

theorem filterPairs (kept : L.Kept) (alike : L.queries q r) :
    q.filterPairs write = r.filterPairs write' :=
  kept.collect_dotted (fun path _ _ alike =>
    mapM_forall₂ ((kept.agree alike).filters.imp fun _ _ same => same.pair path)) alike

theorem groupPairs (kept : L.Kept) (alike : L.queries q r) :
    q.groupPairs write = r.groupPairs write' :=
  kept.collect_dotted (fun path _ _ alike =>
    mapM_forall₂ ((kept.agree alike).groups.imp fun _ _ same => by
      rw [same.key, kept.content same])) alike

theorem limitPairs (kept : L.Kept) (alike : L.queries q r) :
    q.limitPairs write = r.limitPairs write' :=
  kept.collect_dotted (fun path _ _ alike => by
    rw [Query.ownLimitPairs, Query.ownLimitPairs, (kept.agree alike).window]) alike

theorem offsetPairs (kept : L.Kept) (alike : L.queries q r) :
    q.offsetPairs write = r.offsetPairs write' :=
  kept.collect_dotted (fun path _ _ alike => by
    rw [Query.ownOffsetPairs, Query.ownOffsetPairs, (kept.agree alike).window]) alike

end Likeness.Kept

/-! ## Ordering -/

theorem Likeness.Kept.answersTo (kept : L.Kept) {e f : Embedding} (agree : e.Agree L f)
    (name : String) : e.answersTo name ↔ f.answersTo name := by
  obtain ⟨s, text, text'⟩ := agree.aliasValue
  rw [Embedding.answersTo, Embedding.answersTo, text, text', (kept.agree agree.query).resource]

namespace Likeness.Kept

variable {q r : Query}

/-- Columns of alike queries are resolved alike. -/
theorem orderColumn (kept : L.Kept) (alike : L.queries q r) (column : List Char) :
    q.orderColumn column = r.orderColumn column :=
  q.orderColumn_related (fun alike => (kept.embeddings alike).imp fun _ _ same =>
    ⟨same.query, kept.answersTo same⟩) column alike

theorem orderText (kept : L.Kept) (alike : L.queries q r) {k l : SortKey} (same : k.Agree l) :
    q.orderText k = r.orderText l := by
  obtain ⟨s, text, text'⟩ := same.column
  rw [Query.orderText, Query.orderText, SortKey.columnText_of_asText? text,
    SortKey.columnText_of_asText? text', ok_bind, ok_bind, kept.orderColumn alike, SortKey.written,
    SortKey.written, SortKey.ending, SortKey.ending, same.direction, same.nulls]

end Likeness.Kept

/-- A column is wrapped alike in paths of the same texts. -/
theorem Query.wrapped_sameText (write write' : QueryText) {path path' : List Value}
    (same : List.Forall₂ Value.SameText path path') (column : String) :
    wrapped write path column = wrapped write' path' column := by
  induction same with
  | nil => rfl
  | cons first _ ih =>
    rw [wrapped, wrapped] at ih ⊢
    rw [List.foldrM_cons, List.foldrM_cons, ih, first.plain]

theorem snoc_sameText (path path' : List Value) (v w : Value)
    (paths : List.Forall₂ Value.SameText path path') (same : v.SameText w) :
    Matched (List.Forall₂ Value.SameText) (· = ·)
      (.ok (path ++ [v]) : Except Error (List Value)) (.ok (path' ++ [w])) :=
  .ok (List.rel_append paths (.cons same .nil))

namespace Likeness.Kept

variable {q r : Query}

theorem hoistedText (kept : L.Kept) (alike : L.queries q r) {k l : SortKey} (same : k.Agree l)
    {path path' : List Value} (paths : List.Forall₂ Value.SameText path path') :
    q.hoistedText write path k = r.hoistedText write' path' l := by
  obtain ⟨s, text, text'⟩ := same.column
  rw [Query.hoistedText, Query.hoistedText, SortKey.columnText_of_asText? text,
    SortKey.columnText_of_asText? text', ok_bind, ok_bind, kept.orderColumn alike,
    Query.wrapped_sameText write write' paths]
  simp only [SortKey.written, SortKey.ending, same.direction, same.nulls]

theorem topKeys (kept : L.Kept) (alike : L.queries q r) {path path' : List Value}
    (paths : List.Forall₂ Value.SameText path path') :
    q.topKeys write path = r.topKeys write' path' := by
  have marked : List.Forall₂ SortKey.Agree (q.ordering.filter fun k => k.isTop)
      (r.ordering.filter fun k => k.isTop) :=
    List.rel_filter (fun k l same => by simp only [same.isTop]) (kept.agree alike).ordering
  exact mapM_forall₂ (marked.imp fun _ _ same => kept.hoistedText alike same paths)

theorem rootKeys (kept : L.Kept) (alike : L.queries q r) :
    q.rootKeys write = r.rootKeys write' := by
  have own : q.ordering.mapM q.orderText = r.ordering.mapM r.orderText :=
    mapM_forall₂ ((kept.agree alike).ordering.imp fun _ _ same => kept.orderText alike same)
  rw [Query.rootKeys, Query.rootKeys, own]
  congr 1
  funext own
  congr 1
  exact kept.collectAll snoc_sameText (fun _ _ _ _ paths alike => kept.topKeys alike paths) alike
    .nil

theorem ownOrdering (kept : L.Kept) (alike : L.queries q r) (path : String) :
    q.ownOrdering path = r.ownOrdering path := by
  have own : List.Forall₂ SortKey.Agree (q.ordering.filter fun k => !k.isTop)
      (r.ordering.filter fun k => !k.isTop) :=
    List.rel_filter (fun k l same => by simp only [same.isTop]) (kept.agree alike).ordering
  rw [Query.ownOrdering, Query.ownOrdering,
    mapM_forall₂ (own.imp fun _ _ same => kept.orderText alike same)]

theorem orderingPairs (kept : L.Kept) (alike : L.queries q r) :
    q.orderingPairs write = r.orderingPairs write' := by
  have below : Selector.collectAll (dottedBelow write) Query.ownOrdering "" q.selectors =
      Selector.collectAll (dottedBelow write') Query.ownOrdering "" r.selectors :=
    kept.collectAll dottedBelow_agree
      (fun p _ _ _ paths alike => paths ▸ kept.ownOrdering alike p) alike rfl
  rw [Query.orderingPairs, Query.orderingPairs, kept.rootKeys alike, below]

end Likeness.Kept

/-! ## The select clause -/

/-- Lists of the same texts are joined to one text. -/
theorem joinTexts_sameText {vs ws : List Value} (same : List.Forall₂ Value.SameText vs ws) :
    ∃ t, joinTexts vs = .ok t ∧ joinTexts ws = .ok t := by
  have each : List.Forall₂ (fun v w : Value =>
      Matched (· = ·) (fun _ _ => False) v.requireText w.requireText) vs ws :=
    same.imp fun v w ⟨s, text, text'⟩ => by
      rw [Value.requireText_of_asText? text, Value.requireText_of_asText? text']
      exact .ok rfl
  have matched := Matched.mapM each
  rw [joinTexts, joinTexts]
  generalize vs.mapM Value.requireText = read at matched ⊢
  generalize ws.mapM Value.requireText = read' at matched ⊢
  cases matched with
  | ok texts =>
    obtain rfl := List.forall₂_eq_eq_eq ▸ texts
    exact ⟨_, rfl, rfl⟩
  | error never => exact never.elim

/-- What is written for a selector with a text of its own is that text. -/
theorem Selector.written_of_ownText? {s : Selector} {t : String} (typed : s.isTyped)
    (own : s.ownText? = some t) : ∃ v, s.written write = .ok v ∧ v.asText? = some t := by
  cases s with
  | wildcard =>
    cases own
    exact ⟨_, rfl, rfl⟩
  | column name | path p => exact ⟨_, rfl, own⟩
  | modified base name cast =>
    simp only [isTyped, Bool.and_eq_true] at typed
    obtain ⟨s, text⟩ := Option.isSome_iff_exists.1 typed.1.1
    rw [ownText?, text] at own
    cases own
    exact modifiedText_eq text typed.1.2 typed.2
  | _ => cases own

/-- A selector that cannot be written is reported. -/
theorem Selector.written_of_refusal? {s : Selector} {e : Error} (refused : s.refusal? = some e) :
    s.written write = .error e := by
  cases s <;> first | cases refused; rfl | cases refused

/-- What comes of writing two select clauses: one text, or two causes that are alike. -/
abbrev Likeness.Texts (L : Likeness) : Except Error String → Except Error String → Prop :=
  Matched (· = ·) L.causes

/-- Agreeing selectors are written as one text, if the queries that they embed are. -/
theorem Likeness.Kept.written (kept : L.Kept) {s s' : Selector} (agree : s.Agree L s')
    (inside : ∀ (e : Embedding) (r : Query), s.embedding? = some e → L.queries e.query r →
      L.Texts (e.query.select write) (r.select write')) :
    Matched Value.SameText L.causes (s.written write) (s'.written write') := by
  cases agree with
  | text typed typed' own own' =>
    obtain ⟨v, made, text⟩ := Selector.written_of_ownText? typed own
    obtain ⟨w, made', text'⟩ := Selector.written_of_ownText? typed' own'
    rw [made, made']
    exact .ok ⟨_, text, text'⟩
  | @embedded q r name name' alike same =>
    have settings := kept.agree alike
    have head := embeddedHead_eq write same.left q.resource q.inner
    have head' := embeddedHead_eq write' same.right r.resource r.inner
    rw [← same.given, ← settings.resource, ← settings.inner] at head'
    generalize (name.givenText?.elim "" (· ++ ":")) ++ q.resource ++
      (if q.inner then "!inner" else "") = front at head head'
    rw [Selector.written_embedded, Selector.written_embedded, ← settings.resource,
      ← settings.inner, head, head', ok_bind, ok_bind]
    refine (inside ⟨q, name⟩ r rfl alike).bind ?_
    rintro t _ rfl
    exact .ok ⟨nested front t, rfl, rfl⟩
  | refused cause cause' causes =>
    rw [Selector.written_of_refusal? cause, Selector.written_of_refusal? cause']
    exact .error causes

/-- The select clauses of alike queries are one text, unless both cannot be written. -/
theorem Likeness.Kept.select (kept : L.Kept) {q r : Query} (alike : L.queries q r) :
    L.Texts (q.select write) (r.select write') := by
  induction q using Query.embedding_induction generalizing r with
  | step q ih =>
    have each : List.Forall₂ (fun s s' : Selector =>
        Matched Value.SameText L.causes (s.written write) (s'.written write'))
        q.selectors r.selectors :=
      forall₂_imp_of_mem (kept.agree alike).selectors fun s member s' _ same =>
        kept.written same fun e r found inside =>
          ih e (List.mem_filterMap.2 ⟨s, member, found⟩) inside
    rw [Query.select, Query.select, Selector.allWritten_eq, Selector.allWritten_eq]
    refine (Matched.mapM each).bind fun vs ws same => ?_
    obtain ⟨t, joined, joined'⟩ := joinTexts_sameText same
    rw [joined, joined']
    exact .ok rfl

end RestQuery
