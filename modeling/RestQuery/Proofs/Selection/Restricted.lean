import RestQuery.Proofs.Clause.SelectReading
import RestQuery.Proofs.QueryString.Reading
import RestQuery.Proofs.Text.Occurrence

/-!
# The restricted selection

`selectJson` is meant to let columns and paths to a JSON value through, and neither all columns nor
the extraction of a text.  A selector that keeps to this is `Selector.Restricted`: it is unreadable,
or written as an `Admissible` text.

Texts are read so, and ready-made selectors are not: a column is let through whatever its text is,
and a path as long as its text has no arrow for the extraction.  Those whose texts are not
admissible are the values that slip through (`Value.Slips`), and there are no others
(`Selector.restricted_iff_of_readJson`).  If none of them is selected, the select clause of a query
asks for admissible texts alone: `Call.restricted_selection`.
-/

namespace RestQuery

/-! ## Texts and selectors -/

/-- The text asks neither for all columns nor for the extraction of a text. -/
def Admissible (s : String) : Prop := s ≠ "*" ∧ ¬Text.contains s Selector.textArrow

instance (s : String) : Decidable (Admissible s) := instDecidableAnd

/-- But for the text of all columns, a text is inadmissible for the arrow in it. -/
theorem contains_iff_not_admissible {s : String} :
    (Text.contains s Selector.textArrow ↔ ¬Admissible s) ↔ s ≠ "*" := by
  constructor
  · rintro same rfl
    exact absurd (same.2 (by decide)) (by decide)
  · intro single
    rw [Admissible, and_iff_right single, not_not]

namespace Value

/-- The value is an admissible text. -/
def IsAdmissible (v : Value) : Prop := ∃ s, v.asText? = some s ∧ Admissible s

/-- A ready-made column or path that is let through, and is not written as an admissible text. -/
inductive Slips : Value → Prop
  | column {name : Value} (other : ¬name.IsAdmissible) : Slips (.selector (.column name))
  | path {p : Value} (arrowless : Selector.extractsText p = .ok false) (other : ¬p.IsAdmissible) :
    Slips (.selector (.path p))

theorem isAdmissible_iff {v : Value} {s : String} (text : v.asText? = some s) :
    v.IsAdmissible ↔ Admissible s := by
  rw [IsAdmissible, text]
  exact ⟨fun ⟨_, same, admissible⟩ => Option.some.inj same ▸ admissible, fun h => ⟨s, rfl, h⟩⟩

/-- A text does not slip through. -/
theorem not_slips_of_asText? {v : Value} {s : String} (text : v.asText? = some s) : ¬v.Slips := by
  intro slips
  cases slips <;> cases text

theorem slips_column_iff {name : Value} :
    (Value.selector (.column name)).Slips ↔ ¬name.IsAdmissible := by
  refine ⟨fun slips => ?_, .column⟩
  cases slips with
  | column other => exact other

theorem slips_path_iff {p : Value} : (Value.selector (.path p)).Slips ↔
    Selector.extractsText p = .ok false ∧ ¬p.IsAdmissible := by
  refine ⟨fun slips => ?_, fun both => .path both.1 both.2⟩
  cases slips with
  | path arrowless other => exact ⟨arrowless, other⟩

end Value

namespace Selector

/-- The selector is unreadable, or written as an admissible text. -/
def Restricted (write : QueryText) (s : Selector) : Prop :=
  (∃ payload, s = .invalid payload) ∨ ∃ v, s.written write = .ok v ∧ v.IsAdmissible

/-- The restricted mode does not let the value through. -/
def Refuses (v : Value) : Prop := ∃ payload, readJson v = .ok (.invalid payload)

section Reading

variable {write : QueryText} {given : Value} {s : String}

theorem extractsText_of_asText? (text : given.asText? = some s) :
    extractsText given = .ok (Text.contains s textArrow) := by
  cases given with
  | text t | token t =>
    cases text
    rfl
  | _ => cases text

theorem readJson_of_asText? (text : given.asText? = some s) :
    readJson given = .ok (readJsonText given s) := by
  cases given with
  | text t | token t =>
    cases text
    rfl
  | _ => cases text

/-- An inadmissible text is unreadable, and another one is a column or a path. -/
theorem readJsonText_eq (given : Value) (s : String) : readJsonText given s =
    if Admissible s then
      if Text.contains s jsonArrow then .path given else .column given
    else .invalid given := by
  rw [readJsonText, readText]
  by_cases all : s = "*" <;> by_cases arrow : Text.contains s textArrow <;>
    simp [Admissible, all, arrow]

/-- A text is refused exactly if it is inadmissible. -/
theorem refuses_iff_of_asText? (text : given.asText? = some s) :
    Refuses given ↔ ¬Admissible s := by
  rw [Refuses, readJson_of_asText? text, readJsonText_eq]
  split
  next admissible =>
    refine iff_of_false ?_ (not_not_intro admissible)
    rintro ⟨payload, same⟩
    split at same <;> cases same
  next inadmissible => exact iff_of_true ⟨given, rfl⟩ inadmissible

/-- A ready-made column is never refused. -/
theorem not_refuses_column (name : Value) : ¬Refuses (.selector (.column name)) := by
  rintro ⟨payload, ⟨⟩⟩

/-- A ready-made path is refused if its text has the arrow for the extraction. -/
theorem refuses_path_iff (text : given.asText? = some s) :
    Refuses (.selector (.path given)) ↔ Text.contains s textArrow := by
  rw [Refuses, readJson, extractsText_of_asText? text, ok_bind]
  cases Text.contains s textArrow with
  | true => exact iff_of_true ⟨_, rfl⟩ rfl
  | false => exact iff_of_false (fun ⟨_, same⟩ => nomatch same) Bool.false_ne_true

/-- What is read is unreadable, a column or a path of an admissible text, or a column or a path that
was ready-made. -/
theorem readJson_kinds {motive : Selector → Prop} {r : Selector} (made : readJson given = .ok r)
    (unreadable : ¬given.Slips → ∀ payload, motive (.invalid payload))
    (text : ¬given.Slips → given.IsAdmissible → motive (.column given) ∧ motive (.path given))
    (column : ∀ name, given = .selector (.column name) → motive (.column name))
    (path : ∀ p, given = .selector (.path p) → extractsText p = .ok false → motive (.path p)) :
    motive r := by
  cases given with
  | selector s =>
    cases s with
    | column name =>
      cases made
      exact column name rfl
    | path p =>
      obtain ⟨extracts, asked, made⟩ := bind_eq_ok.1 made
      cases extracts with
      | true =>
        cases made
        refine unreadable (fun slips => ?_) _
        rw [Value.slips_path_iff, asked] at slips
        cases slips.1
      | false =>
        cases made
        exact path p rfl asked
    | _ =>
      cases made
      exact unreadable nofun _
  | text t | token t =>
    cases made
    rw [readJsonText_eq]
    split
    next admissible =>
      obtain ⟨column, path⟩ := text nofun ⟨_, rfl, admissible⟩
      split
      · exact path
      · exact column
    next => exact unreadable nofun _
  | _ =>
    cases made
    exact unreadable nofun _

theorem restricted_iff_of_written {r : Selector} (readable : r.Readable)
    (written : r.written write = .ok given) : r.Restricted write ↔ given.IsAdmissible := by
  constructor
  · rintro (⟨payload, same⟩ | ⟨v, made, admissible⟩)
    · exact absurd same (readable payload)
    · cases written.symm.trans made
      exact admissible
  · exact fun admissible => .inr ⟨given, written, admissible⟩

/-- What is read of a value keeps to the restriction, unless the value slips through. -/
theorem restricted_iff_of_readJson {r : Selector} (made : readJson given = .ok r) :
    r.Restricted write ↔ ¬given.Slips := by
  have column (name : Value) : (column name).Restricted write ↔ name.IsAdmissible :=
    restricted_iff_of_written (fun _ => Selector.noConfusion) rfl
  have path (p : Value) : (path p).Restricted write ↔ p.IsAdmissible :=
    restricted_iff_of_written (fun _ => Selector.noConfusion) rfl
  refine readJson_kinds (motive := fun r => r.Restricted write ↔ ¬given.Slips) made
    (fun kept payload => ?_) (fun kept admissible => ?_) ?_ ?_
  · exact iff_of_true (.inl ⟨payload, rfl⟩) kept
  · exact ⟨iff_of_true ((column given).2 admissible) kept,
      iff_of_true ((path given).2 admissible) kept⟩
  · rintro name rfl
    rw [column, Value.slips_column_iff, not_not]
  · rintro p rfl arrowless
    rw [path, Value.slips_path_iff, and_iff_right arrowless, not_not]

/-- Nothing that the restricted mode lets through is an embedding. -/
theorem embedding?_of_readJson {r : Selector} (made : readJson given = .ok r) :
    r.embedding? = none :=
  readJson_kinds (motive := fun r => r.embedding? = none) made (fun _ _ => rfl)
    (fun _ _ => ⟨rfl, rfl⟩) (fun _ _ => rfl) fun _ _ _ => rfl

/-- A selection keeps to the restriction, unless something in it slips through. -/
theorem restricted_iff_of_readAllJson {read : List Selector} (made : readAllJson given = .ok read) :
    (∀ s ∈ read, s.Restricted write) ↔ ∀ v ∈ itemsOf given, ¬v.Slips := by
  constructor
  · intro restricted v member
    obtain ⟨s, own, among⟩ := exists_of_mapM_eq_ok made member
    exact (restricted_iff_of_readJson own).1 (restricted s among)
  · intro kept
    exact forall_of_mapM_eq_ok (fun v member s own =>
      (restricted_iff_of_readJson own).2 (kept v member)) made

end Reading

end Selector

/-! ## What a query asks for -/

namespace SelectItem

/-- The item is a column or a path, and its text is admissible. -/
def IsAdmissible (i : SelectItem) : Prop := ∃ s, Admissible s ∧ (i = column s ∨ i = path s)

theorem isAdmissible_ofPlain {s : String} (admissible : Admissible s) :
    (ofPlain s).IsAdmissible := by
  refine ⟨s, admissible, ?_⟩
  rw [ofPlain, if_neg admissible.1]
  split
  · exact .inr rfl
  · exact .inl rfl

end SelectItem

/-- The query asks for these texts, of which each is admissible. -/
structure Query.AsksFor (write : QueryText) (q : Query) (texts : List String) : Prop where
  select : q.select write = .ok (",".intercalate texts)
  flat : q.embeddings = []
  admissible : ∀ s ∈ texts, Admissible s
  arrowless : ¬Text.contains (",".intercalate texts) Selector.textArrow
  items : (∀ s ∈ texts, SelectItem.isName s) → ∃ items,
    SelectItem.readAll? (",".intercalate texts) = some items ∧ ∀ i ∈ items, i.IsAdmissible

section Clause

variable {write : QueryText}

/-- An arrow does not reach across a comma. -/
theorem not_contains_intercalate {texts : List String} (admissible : ∀ s ∈ texts, Admissible s) :
    ¬Text.contains (",".intercalate texts) Selector.textArrow := by
  rw [Text.contains_iff, String.toList_intercalate]
  intro inside
  -- The comma is no character of the arrow.
  obtain ⟨cs, member, inside⟩ := (Text.infix_intercalate_iff (by decide) (by decide)).1 inside
  obtain ⟨s, among, rfl⟩ := List.mem_map.1 member
  exact (admissible s among).2 (Text.contains_iff.2 inside)

/-- Admissible names are read as columns and paths. -/
theorem readAll?_of_admissible {texts : List String} (admissible : ∀ s ∈ texts, Admissible s)
    (named : ∀ s ∈ texts, SelectItem.isName s) : ∃ items,
      SelectItem.readAll? (",".intercalate texts) = some items ∧ ∀ i ∈ items, i.IsAdmissible := by
  have proper : ∀ i ∈ texts.map SelectItem.ofPlain, i.Proper :=
    List.forall_mem_map.2 fun s member => .plain (named s member)
  have written : SelectItem.joined (texts.map SelectItem.ofPlain) = ",".intercalate texts := by
    rw [SelectItem.joined, List.map_map]
    exact congrArg _ (List.map_id'' SelectItem.text_ofPlain texts)
  refine ⟨_, written ▸ SelectItem.readAll?_joined proper, ?_⟩
  exact List.forall_mem_map.2 fun s member => SelectItem.isAdmissible_ofPlain (admissible s member)

/-- A select clause of restricted selectors is admissible texts with commas between them. -/
theorem Query.asksFor_of_select {q : Query} (restricted : ∀ s ∈ q.selectors, s.Restricted write)
    (flat : ∀ s ∈ q.selectors, s.embedding? = none) {clause : String}
    (written : q.select write = .ok clause) :
    ∃ texts, clause = ",".intercalate texts ∧ q.AsksFor write texts := by
  have made := written
  obtain ⟨vs, each, made⟩ := bind_eq_ok.1 made
  obtain ⟨texts, read, made⟩ := bind_eq_ok.1 made
  cases made
  rw [Selector.allWritten_eq] at each
  have values : ∀ v ∈ vs, v.IsAdmissible := by
    refine forall_of_mapM_eq_ok (fun s member v own => ?_) each
    rcases restricted s member with ⟨payload, rfl⟩ | ⟨w, own', admissible⟩
    · cases own
    · cases own.symm.trans own'
      exact admissible
  have admissible : ∀ s ∈ texts, Admissible s := by
    refine forall_of_mapM_eq_ok (fun v member s own => ?_) read
    obtain ⟨t, text, admissible⟩ := values v member
    cases own.symm.trans (Value.requireText_of_asText? text)
    exact admissible
  exact ⟨texts, rfl, written, List.filterMap_eq_nil_iff.2 flat, admissible,
    not_contains_intercalate admissible, readAll?_of_admissible admissible⟩

end Clause

namespace Call

/-- What a run selects in the restricted mode, and nothing of which slips through, is restricted. -/
theorem restricted_of_run {write : QueryText} {pageSize : Value} {q r : Query} {calls : List Call}
    (restricted : ∀ c ∈ calls, ∀ given, c ≠ .select given)
    (guarded : ∀ c ∈ calls, ∀ v ∈ c.selects, ¬v.Slips)
    (present : ∀ s ∈ q.selectors, s.Restricted write ∧ s.embedding? = none)
    (made : run write pageSize q calls = .ok r) :
    ∀ s ∈ r.selectors, s.Restricted write ∧ s.embedding? = none := by
  refine selectors_forall present (fun c member read parsed => ?_) made
  cases c with
  | select given => exact absurd rfl (restricted _ member given)
  | selectJson given =>
    have each : ∀ s ∈ read, s.Restricted write :=
      (Selector.restricted_iff_of_readAllJson parsed).2 (guarded _ member)
    have flat := forall_of_mapM_eq_ok (fun v _ s own => Selector.embedding?_of_readJson own) parsed
    exact fun s among => ⟨each s among, flat s among⟩
  | _ =>
    cases parsed
    exact List.forall_mem_nil _

/-- All that a restricted selection reads is restricted, unless something that was ready-made slips
through.  A ready-made column is refused where its text is refused, but for the texts that are not
admissible, and a path but for that of all columns.  A query whose calls select in the restricted
mode alone, and nothing that slips through, has restricted selectors, and its query string begins
with a select clause of admissible texts. -/
theorem restricted_selection (write : QueryText) :
    (∀ given read, Selector.readAllJson given = .ok read →
      ((∀ s ∈ read, s.Restricted write) ↔ ∀ v ∈ Selector.itemsOf given, ¬v.Slips)) ∧
    (∀ v s, v.asText? = some s →
      ((Selector.Refuses (.selector (.column v)) ↔ Selector.Refuses v) ↔ Admissible s) ∧
      ((Selector.Refuses (.selector (.path v)) ↔ Selector.Refuses v) ↔ s ≠ "*")) ∧
    (∀ pageSize resource cardinality calls q, (∀ c ∈ calls, ∀ given, c ≠ .select given) →
      (∀ c ∈ calls, ∀ v ∈ c.selects, ¬v.Slips) →
      run write pageSize (.ofResource resource cardinality) calls = .ok q →
      (∀ s ∈ q.selectors, s.Restricted write) ∧
      ∀ ps, q.parameters write = .ok ps → ∃ texts rest, q.AsksFor write texts ∧
        ps = QueryString.parameters (QueryString.selectPairs (",".intercalate texts)) ++ rest) := by
  refine ⟨fun given read => Selector.restricted_iff_of_readAllJson, fun v s text => ?_, ?_⟩
  · rw [Selector.refuses_iff_of_asText? text, Selector.refuses_path_iff text,
      iff_false_left (Selector.not_refuses_column v), not_not]
    exact ⟨Iff.rfl, contains_iff_not_admissible⟩
  · intro pageSize resource cardinality calls q restricted guarded made
    have each := restricted_of_run restricted guarded (List.forall_mem_nil _) made
    refine ⟨fun s member => (each s member).1, fun ps compiled => ?_⟩
    obtain ⟨clause, others, after, written, rfl⟩ := Query.parameters_select compiled
    obtain ⟨texts, rfl, asks⟩ := Query.asksFor_of_select (fun s member => (each s member).1)
      (fun s member => (each s member).2) written
    refine ⟨texts, QueryString.parameters others ++
      (QueryString.conflictParameters q ++ QueryString.parameters after), asks, ?_⟩
    simp only [QueryString.parameters, List.map_append, List.append_assoc]

/-- Films with a column given as a text and a path that is ready-made. -/
def filmYears : List Call :=
  [.selectJson (.list [.text "id", .selector (.path (.text "info->year"))])]

/-- All columns are unreadable, an extraction is refused as a text and as a path, and the films are
asked for by a column and a path. -/
theorem restricted_selection_filmYears :
    (∀ s ∈ [Selector.invalid (.text "*")], s.Restricted fun _ => .ok "") ∧
    (Selector.Refuses (.selector (.path (.text "info->>year"))) ↔
      Selector.Refuses (.text "info->>year")) ∧
    ∃ q texts, run (fun _ => .ok "") .null (.ofResource "films" .many) filmYears = .ok q ∧
      q.AsksFor (fun _ => .ok "") texts ∧ ",".intercalate texts = "id,info->year" := by
  obtain ⟨reading, refusing, asking⟩ := restricted_selection fun _ => .ok ""
  let q := { Query.ofResource "films" .many with
    selectors := [.column (.text "id"), .path (.text "info->year")] }
  have made : run (fun _ => .ok "") .null (.ofResource "films" .many) filmYears = .ok q := by
    have first : (Selector.column (.text "id")).among [] = .ok false := rfl
    have second : (Selector.path (.text "info->year")).among [.column (.text "id")] =
        .ok false := by
      rw [Selector.among, Selector.equal]
      · rfl
      · simp
    have added : addSelectors [] q.selectors = .ok q.selectors := by
      simp only [q, addSelectors_cons, first, ok_bind, Bool.false_eq_true, if_false,
        List.nil_append, second, addSelectors_nil, List.cons_append]
    have step : apply (fun _ => .ok "") .null (.ofResource "films" .many)
        (.selectJson (.list [.text "id", .selector (.path (.text "info->year"))])) = .ok q :=
      congrArg (fun added => do
        return { Query.ofResource "films" .many with selectors := ← added }) added
    rw [filmYears, run_cons, step]
    rfl
  have compiled : q.parameters (fun _ => .ok "") = .ok [("select", .text "id,info->year")] := by
    rw [Query.parameters_root _ rfl]
    simp only [q, Query.filterPairs, Query.ofResource, Query.collect, Selector.collectAll,
      Selector.collect, Query.ownFilterPairs, Filter.arranged, List.mergeSort_nil]
    rfl
  have guarded : ∀ c ∈ filmYears, ∀ v ∈ c.selects, ¬v.Slips := by
    have year : (Value.text "info->year").IsAdmissible := ⟨_, rfl, by decide⟩
    refine List.forall_mem_singleton.2
      (List.forall_mem_cons.2 ⟨Value.not_slips_of_asText? rfl, List.forall_mem_singleton.2 ?_⟩)
    rw [Value.slips_path_iff]
    exact fun slips => slips.2 year
  have restricted : ∀ c ∈ filmYears, ∀ given, c ≠ .select given :=
    List.forall_mem_singleton.2 fun _ => Call.noConfusion
  refine ⟨(reading (.text "*") _ rfl).2
      (List.forall_mem_singleton.2 (Value.not_slips_of_asText? rfl)),
    (refusing (.text "info->>year") _ rfl).2.2 (by decide), q, ?_⟩
  obtain ⟨texts, rest, asks, same⟩ :=
    (asking .null "films" .many filmYears q restricted guarded made).2 _ compiled
  have written := asks.select
  exact ⟨texts, made, asks, (Except.ok.inj written).symm⟩

/-- An extraction that is refused as a text is let through as a ready-made column. -/
theorem column_slips :
    Selector.readAllJson (.selector (.column (.text "info->>year"))) =
      .ok [.column (.text "info->>year")] ∧
    ¬(Selector.column (.text "info->>year")).Restricted (fun _ => .ok "") ∧
    Selector.Refuses (.text "info->>year") ∧
    ¬Selector.Refuses (.selector (.column (.text "info->>year"))) ∧
    ∃ q, run (fun _ => .ok "") .null (.ofResource "films" .many)
        [.selectJson (.selector (.column (.text "info->>year")))] = .ok q ∧
      q.select (fun _ => .ok "") = .ok "info->>year" := by
  refine ⟨rfl, fun restricted => ?_, ⟨_, rfl⟩, Selector.not_refuses_column _, _, rfl, rfl⟩
  have admissible := (Selector.restricted_iff_of_written (fun _ => Selector.noConfusion) rfl).1
    restricted
  exact absurd ((Value.isAdmissible_iff rfl).1 admissible) (by decide)

end Call

end RestQuery
