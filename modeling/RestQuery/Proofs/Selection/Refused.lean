import RestQuery.Proofs.Clause.Select
import RestQuery.Proofs.QueryString.Reading
import RestQuery.Proofs.Selection.Proper
import RestQuery.Proofs.Snapshot.Fields

/-!
# Which unreadable selector is reported

An unreadable selector is kept until its query is built.  The query string and the snapshot walk
through different queries: the snapshot also through those in groups, and a query that is marked as
inner has no query string at all.  `Query.refused` lists the payloads on either walk in the order of
the walk, and `RefusesFirst` says that a step reports the first of them, and nothing else.  For
proper queries `Query.build_errors` says exactly when and with what the query string and the
snapshot fail.
-/

namespace RestQuery

/-! ## Payloads in the order of a walk -/

mutual

/-- The payloads of unreadable selectors in a selector; `grouped` tells whether the queries in
groups are visited as well. -/
def Selector.refused (grouped : Bool) : Selector → List Value
  | .invalid payload => [payload]
  | .embedded query _ => query.refused grouped
  | .wildcard => []
  | .column _ => []
  | .modified _ _ _ => []
  | .path _ => []
  | .misembedded _ _ => []
  | .unwritable _ => []

def Selector.allRefused (grouped : Bool) : List Selector → List Value
  | [] => []
  | s :: ss => s.refused grouped ++ Selector.allRefused grouped ss

def FilterGroup.refused (grouped : Bool) : FilterGroup → List Value
  | { queries, .. } => Query.allRefused grouped queries

def FilterGroup.allRefused (grouped : Bool) : List FilterGroup → List Value
  | [] => []
  | g :: gs => g.refused grouped ++ FilterGroup.allRefused grouped gs

def Query.allRefused (grouped : Bool) : List Query → List Value
  | [] => []
  | q :: qs => q.refused grouped ++ Query.allRefused grouped qs

/-- The payloads of the unreadable selectors of a query and of the queries inside it, in the order
in which they are visited: those of the selectors, and then those of the groups, conjunctions
first. -/
def Query.refused (grouped : Bool) : Query → List Value
  | { selectors, conjunctions, disjunctions, .. } =>
    Selector.allRefused grouped selectors ++
      if grouped then
        FilterGroup.allRefused grouped conjunctions ++ FilterGroup.allRefused grouped disjunctions
      else []

end

section Refused

variable (grouped : Bool)

theorem Selector.allRefused_eq (ss : List Selector) :
    allRefused grouped ss = ss.flatMap (refused grouped) := by
  induction ss with
  | nil => rfl
  | cons s ss ih => rw [allRefused, ih, List.flatMap_cons]

theorem FilterGroup.allRefused_eq (gs : List FilterGroup) :
    allRefused grouped gs = gs.flatMap (refused grouped) := by
  induction gs with
  | nil => rfl
  | cons g gs ih => rw [allRefused, ih, List.flatMap_cons]

theorem FilterGroup.refused_eq (g : FilterGroup) :
    g.refused grouped = g.queries.flatMap (Query.refused grouped) := by
  rcases g with ⟨connective, queries, negated⟩
  rw [refused]
  induction queries with
  | nil => rfl
  | cons q qs ih => rw [Query.allRefused, ih, List.flatMap_cons]

theorem Query.refused_eq (q : Query) :
    q.refused grouped = q.selectors.flatMap (Selector.refused grouped) ++
      if grouped then
        q.conjunctions.flatMap (FilterGroup.refused grouped) ++
          q.disjunctions.flatMap (FilterGroup.refused grouped)
      else [] := by
  rcases q with ⟨⟩
  simp only [refused, Selector.allRefused_eq, FilterGroup.allRefused_eq]

end Refused

/-- A query that is visited from another one: through embeddings, and through groups as well if
`grouped` is set. -/
inductive Query.Visits (grouped : Bool) (q : Query) : Query → Prop
  | self : Visits grouped q q
  | embedded {r : Query} {e : Embedding} (visited : Visits grouped q r)
      (member : e ∈ r.embeddings) : Visits grouped q e.query
  | group {r p : Query} {g : FilterGroup} (through : grouped) (visited : Visits grouped q r)
      (member : g ∈ r.groups) (queried : p ∈ g.queries) : Visits grouped q p

namespace Query

variable {grouped : Bool}

theorem Visits.trans {q r p : Query} (first : q.Visits grouped r) (second : r.Visits grouped p) :
    q.Visits grouped p := by
  induction second with
  | self => exact first
  | embedded _ member ih => exact .embedded ih member
  | group through _ member queried ih => exact .group through ih member queried

/-- What is visited through embeddings alone is also visited if groups are passed through. -/
theorem Visits.through {q r : Query} (visited : q.Visits grouped r) : q.Visits true r := by
  induction visited with
  | self => exact .self
  | embedded _ member ih => exact .embedded ih member
  | group _ _ member queried ih => exact .group rfl ih member queried

/-- The payloads of a query stand in its own selectors, below an embedding, or in a group. -/
theorem mem_refused_iff {q : Query} {payload : Value} :
    payload ∈ q.refused grouped ↔ .invalid payload ∈ q.selectors ∨
      (∃ e ∈ q.embeddings, payload ∈ e.query.refused grouped) ∨
      grouped ∧ ∃ g ∈ q.groups, ∃ p ∈ g.queries, payload ∈ p.refused grouped := by
  have selectors : payload ∈ q.selectors.flatMap (Selector.refused grouped) ↔
      .invalid payload ∈ q.selectors ∨ ∃ e ∈ q.embeddings, payload ∈ e.query.refused grouped := by
    rw [List.mem_flatMap]
    constructor
    · rintro ⟨s, selected, inside⟩
      cases s with
      | invalid other =>
        obtain rfl := List.mem_singleton.1 inside
        exact .inl selected
      | embedded query name =>
        exact .inr ⟨⟨query, name⟩, List.mem_filterMap.2 ⟨_, selected, rfl⟩, inside⟩
      | _ => exact absurd inside List.not_mem_nil
    · rintro (selected | ⟨e, member, inside⟩)
      · exact ⟨_, selected, List.mem_singleton_self payload⟩
      · obtain ⟨s, selected, found⟩ := List.mem_filterMap.1 member
        refine ⟨s, selected, ?_⟩
        cases s <;> cases found
        exact inside
  have groups (gs : List FilterGroup) : payload ∈ gs.flatMap (FilterGroup.refused grouped) ↔
      ∃ g ∈ gs, ∃ p ∈ g.queries, payload ∈ p.refused grouped := by
    simp only [List.mem_flatMap, FilterGroup.refused_eq]
  rw [refused_eq, List.mem_append, selectors, or_assoc, Query.groups]
  cases grouped with
  | true => rw [if_pos rfl, ← List.flatMap_append, groups, eq_self, true_and]
  | false => simp

/-- The payloads on the walk are those of all queries that are visited. -/
theorem mem_refused_iff_visits {q : Query} {payload : Value} :
    payload ∈ q.refused grouped ↔ ∃ r, q.Visits grouped r ∧ .invalid payload ∈ r.selectors := by
  constructor
  · induction q using parts_induction with
    | step q ih =>
      intro refused
      rcases mem_refused_iff.1 refused with
        own | ⟨e, member, inside⟩ | ⟨through, g, member, p, queried, inside⟩
      · exact ⟨q, .self, own⟩
      · obtain ⟨r, visited, held⟩ := ih _ (mem_parts_of_embedding member) inside
        exact ⟨r, Visits.trans (.embedded .self member) visited, held⟩
      · obtain ⟨r, visited, held⟩ := ih _ (mem_parts_of_group member queried) inside
        exact ⟨r, Visits.trans (.group through .self member queried) visited, held⟩
  · rintro ⟨r, visited, held⟩
    have inside : payload ∈ r.refused grouped := mem_refused_iff.2 (.inl held)
    clear held
    induction visited with
    | self => exact inside
    | embedded _ member ih => exact ih (mem_refused_iff.2 (.inr (.inl ⟨_, member, inside⟩)))
    | group through _ member queried ih =>
      exact ih (mem_refused_iff.2 (.inr (.inr ⟨through, _, member, _, queried, inside⟩)))

end Query

/-! ## Steps that report the first payload -/

/-- The step fails for the first of the payloads, and does not fail if there is none. -/
def RefusesFirst {α : Type} (payloads : List Value) (step : Except Error α) : Prop :=
  match payloads with
  | [] => Succeeds step
  | payload :: _ => step = .error (.invalidSelect payload)

namespace RefusesFirst

variable {α β : Type} {payloads others : List Value} {step : Except Error α}

theorem of_succeeds (made : Succeeds step) : RefusesFirst [] step := made

theorem bind {next : α → Except Error β} (first : RefusesFirst payloads step)
    (rest : ∀ a, step = .ok a → RefusesFirst others (next a)) :
    RefusesFirst (payloads ++ others) (step >>= next) := by
  cases payloads with
  | nil =>
    obtain ⟨a, rfl⟩ := first
    exact rest a rfl
  | cons payload payloads =>
    rw [RefusesFirst] at first
    rw [first]
    rfl

/-- What follows a step reports nothing if it cannot fail. -/
theorem bind_succeeds {next : α → Except Error β} (first : RefusesFirst payloads step)
    (rest : ∀ a, step = .ok a → Succeeds (next a)) : RefusesFirst payloads (step >>= next) := by
  rw [← List.append_nil payloads]
  exact first.bind rest

theorem mapM {f : α → Except Error β} {g : α → List Value} {xs : List α}
    (each : ∀ x ∈ xs, RefusesFirst (g x) (f x)) : RefusesFirst (xs.flatMap g) (xs.mapM f) := by
  induction xs with
  | nil => exact ⟨[], rfl⟩
  | cons x xs ih =>
    rw [List.mapM_cons, List.flatMap_cons]
    refine (each x List.mem_cons_self).bind fun y _ => ?_
    exact (ih fun x' member => each x' (List.mem_cons_of_mem x member)).bind_succeeds
      fun ys _ => .pure (y :: ys)

theorem eq_nil (refuses : RefusesFirst payloads step) (made : Succeeds step) : payloads = [] := by
  cases payloads with
  | nil => rfl
  | cons payload payloads =>
    obtain ⟨a, rfl⟩ := made
    cases refuses

/-- The step fails exactly if there is a payload, and then for the first one. -/
theorem error_iff (refuses : RefusesFirst payloads step) (cause : Error) :
    step = .error cause ↔ ∃ payload, payloads.head? = some payload ∧
      cause = .invalidSelect payload := by
  cases payloads with
  | nil =>
    obtain ⟨a, rfl⟩ := refuses
    simp
  | cons payload payloads =>
    rw [RefusesFirst] at refuses
    rw [refuses]
    simp [eq_comm]

end RefusesFirst

/-! ## The select clause -/

section Clause

variable (write : QueryText)

/-- A column that is a text is written as a text. -/
theorem modifiedText_isText {base name cast : Value} (text : base.asText?.isSome)
    (named : name.isQuery = false) (casted : cast.isQuery = false) :
    ∃ v, modifiedText write base name cast = .ok v ∧ v.asText?.isSome := by
  obtain ⟨s, text⟩ := Option.isSome_iff_exists.1 text
  obtain ⟨n, own⟩ := Value.plain_succeeds write named
  obtain ⟨c, behind⟩ := Value.plain_succeeds write casted
  have grown {v : Value} {t : String} (read : v.asText? = some t) :
      ∃ w, (if cast.isGiven then do v.append ("::" ++ (← cast.plain write)) else return v) =
        (.ok w : Except Error Value) ∧ w.asText?.isSome := by
    split
    · exact ⟨.text (t ++ ("::" ++ c)), by rw [behind]; exact Value.append_of_asText? read _, rfl⟩
    · exact ⟨v, rfl, by rw [read]; rfl⟩
  rw [modifiedText]
  by_cases given : name.isGiven
  · rw [if_pos given, own, Value.plain_of_asText? text]
    exact grown rfl
  · rw [if_neg given]
    exact grown text

theorem embeddedHead_succeeds {name : Value} (named : name.isQuery = false) (resource : String)
    (inner : Bool) : Succeeds (embeddedHead write name resource inner) := by
  obtain ⟨n, own⟩ := Value.plain_succeeds write named
  rw [embeddedHead]
  by_cases given : name.isGiven
  · rw [if_pos given, own]
    exact ⟨_, rfl⟩
  · rw [if_neg given]
    exact ⟨_, rfl⟩

theorem Selector.asText?_of_written {s : Selector} (proper : s.isProper) {v : Value}
    (made : s.written write = .ok v) : v.asText?.isSome := by
  cases s with
  | wildcard =>
    cases made
    rfl
  | column name =>
    cases made
    exact proper
  | modified base name cast =>
    simp only [isProper, Bool.and_eq_true, Bool.not_eq_true'] at proper
    obtain ⟨w, made', text⟩ := modifiedText_isText write proper.1.1 proper.1.2 proper.2
    cases made.symm.trans made'
    exact text
  | path p =>
    cases made
    exact proper
  | embedded query name =>
    rw [written_embedded] at made
    obtain ⟨head, _, made⟩ := bind_eq_ok.1 made
    obtain ⟨inside, _, made⟩ := bind_eq_ok.1 made
    cases made
    rfl
  | misembedded content name => cases proper
  | invalid payload => cases made
  | unwritable serial => cases proper

namespace Query.Proper

variable {q : Query}

/-- The select clause reports the first unreadable selector of the embedding tree. -/
theorem select_refuses (proper : q.Proper) : RefusesFirst (q.refused false) (q.select write) := by
  induction proper with
  | @intro q own parts ih =>
    have each : ∀ s ∈ q.selectors, RefusesFirst (s.refused false) (s.written write) := by
      intro s selected
      have proper := (own.selectors s selected).isProper
      cases s with
      | embedded p name =>
        have inside := ih p (mem_parts_of_embedding (List.mem_filterMap.2 ⟨_, selected, rfl⟩))
        have head := embeddedHead_succeeds write (by simpa [Selector.isProper] using proper)
          p.resource p.inner
        rw [Selector.written_embedded]
        exact (RefusesFirst.of_succeeds head).bind fun _ _ =>
          inside.bind_succeeds fun _ _ => .pure _
      | modified base name cast =>
        simp only [Selector.isProper, Bool.and_eq_true, Bool.not_eq_true'] at proper
        obtain ⟨v, made, _⟩ := modifiedText_isText write proper.1.1 proper.1.2 proper.2
        exact ⟨v, made⟩
      | misembedded content name => cases proper
      | unwritable serial => cases proper
      | invalid payload => rfl
      | wildcard | column name | path p => exact ⟨_, rfl⟩
    rw [refused_eq, if_neg Bool.false_ne_true, List.append_nil, select, Selector.allWritten_eq]
    exact (RefusesFirst.mapM each).bind_succeeds fun vs made =>
      joinTexts_succeeds (forall_of_mapM_eq_ok (fun s selected v written =>
        s.asText?_of_written write (own.selectors s selected).isProper written) made)

/-! ## The query string -/

open QueryString

theorem writingParameters_succeed (proper : q.Proper) : Succeeds q.writingParameters := by
  have columns : Succeeds (columnPairs q) := by
    rw [columnPairs]
    split
    · exact ⟨_, rfl⟩
    · exact (joinTexts_succeeds proper.own.columns).bind fun _ => .pure _
  exact columns.bind fun _ => .pure _

theorem encode_succeeds (proper : q.Proper) {ps : List Parameter}
    (compiled : q.parameters write = .ok ps) : Succeeds (encode write ps) := by
  have value {v : Value} (other : v.isQuery = false) : Succeeds (encodeValue write v) := by
    cases v with
    | bytes bs => exact ⟨_, rfl⟩
    | _ => exact (Value.plain_succeeds write other).bind fun _ => .pure _
  have plain (pairs : List Pair) : ∀ p ∈ QueryString.parameters pairs, p.2.isQuery = false := by
    intro p member
    obtain ⟨pair, _, rfl⟩ := List.mem_map.1 member
    rfl
  have conflict : ∀ p ∈ conflictParameters q, p.2.isQuery = false := by
    intro p member
    rw [conflictParameters] at member
    split at member
    · rw [List.mem_singleton.1 member]
      exact proper.own.onConflict
    · exact absurd member List.not_mem_nil
  obtain ⟨before, after, rfl⟩ := parameters_shape compiled
  refine (Succeeds.mapM fun p member => (value ?_).bind fun _ => .pure _).bind fun _ => .pure _
  rcases List.mem_append.1 member with first | later
  · exact plain before p first
  · rcases List.mem_append.1 later with column | last
    · exact conflict p column
    · exact plain after p last

/-- The query string of a root reports the first unreadable selector of the embedding tree. -/
theorem toText_refuses (proper : q.Proper) (root : q.inner = false) (encode : Bool) :
    RefusesFirst (q.refused false) (q.toText write encode) := by
  have nodes := proper.nodes
  obtain ⟨filters, groups, limits, offsets⟩ :=
    queryFreeClauses_succeed write fun n visited => (nodes n visited).1
  have ordering := queryFreeOrdering_succeeds write fun n visited => (nodes n visited).2
  have parameters : RefusesFirst (q.refused false) (q.parameters write) := by
    rw [parameters_root write root]
    exact (proper.select_refuses write).bind_succeeds fun _ _ => filters.bind fun _ =>
      groups.bind fun _ => ordering.bind fun _ => limits.bind fun _ => offsets.bind fun _ =>
        proper.writingParameters_succeed.bind fun _ => .pure _
  have encoded : RefusesFirst (q.refused false) (q.encoded write) :=
    parameters.bind_succeeds fun _ compiled => proper.encode_succeeds write compiled
  cases encode with
  | true => exact encoded
  | false => exact encoded.bind_succeeds fun _ _ => .pure _

end Query.Proper

end Clause

/-! ## The snapshot -/

/-- The snapshot reports the first unreadable selector of all queries inside, those in groups
included. -/
theorem Query.Proper.snapshot_refuses {q : Query} (proper : q.Proper) :
    RefusesFirst (q.refused true) q.snapshot := by
  induction proper with
  | @intro q own parts ih =>
    have each : ∀ s ∈ q.selectors, RefusesFirst (s.refused true) s.snapshot := by
      intro s selected
      have proper := (own.selectors s selected).isProper
      cases s with
      | embedded p name =>
        have inside := ih p (mem_parts_of_embedding (List.mem_filterMap.2 ⟨_, selected, rfl⟩))
        rw [Selector.snapshot]
        refine inside.bind_succeeds fun v _ => ?_
        split <;> exact .pure _
      | misembedded content name => cases proper
      | unwritable serial => cases proper
      | invalid payload => rfl
      | wildcard | column name | modified base name cast | path p => exact ⟨_, rfl⟩
    have groups : ∀ g ∈ q.groups, RefusesFirst (g.refused true) g.snapshot := by
      intro g grouped
      have inside : RefusesFirst (g.refused true) (g.queries.mapM snapshot) := by
        rw [FilterGroup.refused_eq]
        exact .mapM fun p queried => ih p (mem_parts_of_group grouped queried)
      rcases g with ⟨connective, queries, negated⟩
      rw [FilterGroup.snapshot, snapshots_eq]
      exact inside.bind_succeeds fun _ _ => .pure _
    rw [refused_eq, if_pos rfl, snapshot_eq]
    exact (RefusesFirst.mapM each).bind fun select _ =>
      (RefusesFirst.mapM fun g grouped => groups g (List.mem_append_left _ grouped)).bind
        fun ands _ => (RefusesFirst.mapM fun g grouped =>
          groups g (List.mem_append_right _ grouped)).bind_succeeds fun ors _ => .pure _

/-! ## Both outputs -/

/-- The query string fails with the mark of the root if this is marked as inner, and else exactly if
an unreadable selector stands in the embedding tree, for the first one.  The snapshot fails exactly
if one stands in any query inside, groups included, for the first one.  So a root with a snapshot
has a query string. -/
theorem Query.build_errors (write : QueryText) (encode : Bool) {q : Query} (proper : q.Proper) :
    (∀ cause, q.toText write encode = .error cause ↔
      q.inner = true ∧ cause = .invalidInner none ∨
      q.inner = false ∧ ∃ payload, (q.refused false).head? = some payload ∧
        cause = .invalidSelect payload) ∧
    (∀ cause, q.snapshot = .error cause ↔
      ∃ payload, (q.refused true).head? = some payload ∧ cause = .invalidSelect payload) ∧
    (∀ grouped payload, payload ∈ q.refused grouped ↔
      ∃ r, q.Visits grouped r ∧ .invalid payload ∈ r.selectors) ∧
    (Succeeds q.snapshot → q.inner = false → Succeeds (q.toText write encode)) := by
  refine ⟨fun cause => ?_, proper.snapshot_refuses.error_iff, fun grouped payload =>
    mem_refused_iff_visits, fun shown root => ?_⟩
  · cases inner : q.inner with
    | true =>
      have failed : q.toText write encode = .error (.invalidInner none) := by
        cases encode <;> simp only [toText, readable, encoded, parameters_inner write inner] <;> rfl
      rw [failed]
      simp [eq_comm]
    | false =>
      rw [(proper.toText_refuses write inner encode).error_iff]
      simp
  · have none : q.refused false = [] := by
      refine List.eq_nil_iff_forall_not_mem.2 fun payload refused => ?_
      obtain ⟨r, visited, held⟩ := mem_refused_iff_visits.1 refused
      have among := mem_refused_iff_visits.2 ⟨r, visited.through, held⟩
      rw [proper.snapshot_refuses.eq_nil shown] at among
      exact absurd among List.not_mem_nil
    have made := proper.toText_refuses write root encode
    rwa [none] at made

/-- Films, with a group that holds films of an unreadable selection. -/
def Query.filmsUnread : Query :=
  { ofResource "films" .many with selectors := [.invalid (.int 5)] }

/-- The calls for films with their actors under another name, and a group with such films. -/
def Call.unreadFilms : List Call :=
  [.select (.tuple [.query (.ofResource "actors" .many), .dict [(.text "name", .text "cast")]]),
    .group .or (.given (.list [.query .filmsUnread])) false]

/-- What is unreadable in the group is no part of the query string, and the snapshot reports it. -/
theorem Query.build_errors_unreadFilms :
    ∃ q, Call.run (fun _ => .ok "") .null (.ofResource "films" .many) Call.unreadFilms = .ok q ∧
      q.Proper ∧ q.inner = false ∧ Succeeds (q.toText (fun _ => .ok "") true) ∧
      q.snapshot = .error (.invalidSelect (.int 5)) := by
  have blank {resource : String} {ss : List Selector} (selected : ∀ s ∈ ss, s.Selected) :
      ({ ofResource resource .many with selectors := ss } : Query).OwnProper :=
    ⟨selected, List.forall_mem_nil _, List.forall_mem_nil _, rfl, List.forall_mem_nil _⟩
  have actors : (ofResource "actors" .many).Proper :=
    .intro (blank (List.forall_mem_nil _)) (List.forall_mem_nil _)
  have number : (Value.int 5).Selectable := .of_none (fun _ same => nomatch same) rfl
  have unread : filmsUnread.Proper :=
    .intro (blank (List.forall_mem_singleton.2 (.read number))) (List.forall_mem_nil _)
  have selectable : ∀ c ∈ Call.unreadFilms, ∀ v ∈ c.selects, v.Selectable :=
    List.forall_mem_cons.2 ⟨List.forall_mem_singleton.2 (.of_modified ⟨.inr rfl, .inl rfl⟩ rfl rfl),
      List.forall_mem_singleton.2 (List.forall_mem_nil _)⟩
  have made : Call.run (fun _ => .ok "") .null (.ofResource "films" .many) Call.unreadFilms =
      .ok { ofResource "films" .many with
        selectors := [.embedded (.ofResource "actors" .many) (.text "cast")]
        disjunctions := [⟨.or, [filmsUnread], false⟩] } := rfl
  have selected := Call.selected_of_run selectable (List.forall_mem_nil _) made
  have proper := Query.Proper.intro ⟨selected, List.forall_mem_nil _, List.forall_mem_nil _, rfl,
    List.forall_mem_nil _⟩ (List.forall_mem_cons.2 ⟨actors, List.forall_mem_singleton.2 unread⟩)
  obtain ⟨string, shown, _⟩ := build_errors (fun _ => .ok "") true proper
  refine ⟨_, made, proper, rfl, ?_, (shown _).2 ⟨.int 5, rfl, rfl⟩⟩
  cases written : toText (fun _ => .ok "") _ true with
  | ok s => exact ⟨s, rfl⟩
  | error cause =>
    rcases (string cause).1 written with ⟨marked, _⟩ | ⟨_, payload, first, _⟩
    · cases marked
    · cases first

end RestQuery
