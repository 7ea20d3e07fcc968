import RestQuery.Proofs.Snapshot.Requests
import RestQuery.Proofs.Value.Equal

/-!
# Query strings of equal queries

Equal queries need not have one query string: one and true are equal operands, and are written in
two ways.  A stock of operands is faithful if equal ones in it are written alike (`Faithful`), as
texts and whole numbers are.  By `Query.equal_requests` the faithful stocks are those from which
equal queries with texts as names make the same request.  That they do is an instance of the general
fact about a `Likeness`, as equality is one that is kept (`Likeness.equal_kept`).

`Call.select_drops_embedding` shows what comes of it otherwise: the second one of two embeddings
that ask for different rows is not selected.
-/

namespace RestQuery

open Verdict (both_eq_ok_true ok_beq_eq_ok_true)

/-! ## Texts and names -/

theorem Value.SameText.of_equal {v w : Value} (left : v.asText?.isSome) (right : w.asText?.isSome)
    (equal : v.equal w = .ok true) : v.SameText w := by
  obtain ⟨s, text⟩ := Option.isSome_iff_exists.1 left
  obtain ⟨t, text'⟩ := Option.isSome_iff_exists.1 right
  rw [equal_of_asText? text text', ok_beq_eq_ok_true] at equal
  exact ⟨s, text, equal ▸ text'⟩

theorem Value.eq_null_of_equal {w : Value} (equal : Value.null.equal w = .ok true) : w = .null := by
  unfold Value.equal at equal
  split at equal
  next => rfl
  next => cases equal

theorem Value.not_equal_null {v : Value} (text : v.asText?.isSome) : v.equal .null ≠ .ok true := by
  obtain ⟨s, read⟩ := Option.isSome_iff_exists.1 text
  cases v with
  | text t | token t =>
    unfold Value.equal
    nofun
  | _ => cases read

theorem Value.SameName.of_equal {v w : Value} (left : v.isOptionalText) (right : w.isOptionalText)
    (equal : v.equal w = .ok true) : v.SameName w := by
  have text : ∀ {u : Value}, u.isOptionalText → u = .null ∨ u.asText?.isSome := by
    intro u typed
    cases u <;> first | exact .inl rfl | exact .inr typed
  rcases text left with rfl | read
  · cases eq_null_of_equal equal
    exact .null
  · rcases text right with rfl | read'
    · exact absurd equal (not_equal_null read)
    · exact (SameText.of_equal read read' equal).sameName

/-! ## Operands -/

/-- Equal scalars of a stock are written alike. -/
def Faithful (stock : Value → Prop) : Prop :=
  ∀ v w : Value, v.isScalar ∧ stock v → w.isScalar ∧ stock w → v.equal w = .ok true →
    ∀ write write', v.operandText write = w.operandText write'

/-- An operand from a stock of scalars, or a tuple of such. -/
def Value.IsFrom (stock : Value → Prop) : Value → Prop
  | .tuple items => ∀ v ∈ items, v.isScalar ∧ stock v
  | v => v.isScalar ∧ stock v

section Operands

variable {stock : Value → Prop}

theorem Value.IsFrom.of_scalar {v : Value} (stored : v.isScalar ∧ stock v) : v.IsFrom stock := by
  cases v with
  | tuple items => cases stored.1
  | _ => exact stored

theorem Value.isFrom_cases {v : Value} (from' : v.IsFrom stock) :
    (∃ items, v = .tuple items ∧ ∀ i ∈ items, i.isScalar ∧ stock i) ∨ (v.isScalar ∧ stock v) := by
  cases v with
  | tuple items => exact .inl ⟨items, rfl, from'⟩
  | _ => exact .inr from'

/-- A tuple is equal to a tuple only. -/
theorem Value.tuple_of_equal {items : List Value} {w : Value}
    (equal : (Value.tuple items).equal w = .ok true) :
    ∃ others, w = .tuple others ∧
      List.Forall₂ (fun v w : Value => v.equal w = .ok true) items others := by
  unfold Value.equal at equal
  split at equal
  next others => exact ⟨others, rfl, equalAll_iff.1 equal⟩
  next => cases equal

theorem Value.not_equal_tuple {v : Value} (scalar : v.isScalar) (items : List Value) :
    v.equal (.tuple items) ≠ .ok true := by
  cases v with
  | null | bool b | int i | float x | decimal d | text t | token t =>
    unfold Value.equal
    nofun
  | _ => cases scalar

theorem Filter.operandText_of_equal (faithful : Faithful stock) {f g : Filter}
    (left : f.operand.IsFrom stock) (right : g.operand.IsFrom stock)
    (equal : f.operand.equal g.operand = .ok true) (write write' : QueryText) (inGroup : Bool) :
    f.operandText write inGroup = g.operandText write' inGroup := by
  have shielded (v w : Value) (stored : v.isScalar ∧ stock v) (stored' : w.isScalar ∧ stock w)
      (same : v.equal w = .ok true) : v.shieldedOperand write = w.shieldedOperand write' := by
    rw [Value.shieldedOperand, Value.shieldedOperand, faithful v w stored stored' same]
  rcases Value.isFrom_cases left with ⟨items, list, scalars⟩ | stored
  · rw [list] at equal
    obtain ⟨others, list', same⟩ := Value.tuple_of_equal equal
    have scalars' : ∀ i ∈ others, i.isScalar ∧ stock i := by
      rw [list'] at right
      exact right
    have each := forall₂_imp_of_mem same fun v member w member' alike =>
      shielded v w (scalars v member) (scalars' w member') alike
    rw [operandText_tuple list, operandText_tuple list', Value.operandList, Value.operandList,
      mapM_forall₂ each]
  · rcases Value.isFrom_cases right with ⟨others, list', _⟩ | stored'
    · rw [list'] at equal
      exact absurd equal (Value.not_equal_tuple stored.1 others)
    · rw [operandText_scalar stored.1, operandText_scalar stored'.1,
        shielded _ _ stored stored' equal, faithful _ _ stored stored' equal]

end Operands

/-! ## Faithful stocks -/

section Stocks

variable {stock : Value → Prop}

/-- A stock is faithful if equal values in it are the same, or the same text. -/
theorem faithful_of_same
    (same : ∀ v w, stock v → stock w → v.equal w = .ok true → v = w ∨ v.SameText w) :
    Faithful stock := by
  rintro v w ⟨scalar, stored⟩ ⟨_, stored'⟩ equal write write'
  rcases same v w stored stored' equal with rfl | ⟨s, text, text'⟩
  · cases v with
    | bool b => cases b <;> rfl
    | null | int i | float x | decimal d | text s | token t => rfl
    | _ => cases scalar
  · have written {u : Value} {write : QueryText} (read : u.asText? = some s) :
        u.operandText write = .ok s := by
      cases u with
      | text t | token t =>
        cases read
        rfl
      | _ => cases read
    rw [written text, written text']

/-- Whether a value is a text, a whole number or nothing. -/
def Value.isWholeOrText : Value → Bool
  | .null | .int _ | .text _ | .token _ => true
  | _ => false

theorem faithful_isWholeOrText : Faithful fun v => v.isWholeOrText := by
  refine faithful_of_same fun v w stored stored' equal => ?_
  cases v with
  | null => exact .inl (Value.eq_null_of_equal equal).symm
  | int i =>
    unfold Value.equal at equal
    rcases Value.same_of_equalPlain equal with ⟨x, number, number'⟩ | ⟨s, text, _⟩
    · cases w with
      | int j =>
        cases number
        have value : Exact.ofInt j = Exact.ofInt i := by simpa [Value.quantity?] using number'
        exact .inl (congrArg Value.int (Exact.ofInt_injective value).symm)
      | null | text _ | token _ => cases number'
      | _ => cases stored'
    · cases text
  | text s | token t =>
    unfold Value.equal at equal
    rcases Value.same_of_equalPlain equal with ⟨x, number, _⟩ | same
    · cases number
    · exact .inr same
  | _ => cases stored

end Stocks

/-! ## Queries with operands from a stock -/

/-- The names in a query itself are texts, and its operands are from a stock. -/
structure Query.OwnStocked (stock : Value → Prop) (q : Query) : Prop where
  selectors : ∀ s ∈ q.selectors, s.isTyped
  filters : ∀ f ∈ q.filters, f.column.asText?.isSome ∧ f.operand.IsFrom stock
  ordering : ∀ k ∈ q.ordering, k.column.asText?.isSome
  schema : q.schema.isOptionalText
  onConflict : q.onConflict.isOptionalText
  columns : ∀ v ∈ q.columns, v.asText?.isSome

/-- So it is for a query and all queries inside it. -/
inductive Query.Stocked (stock : Value → Prop) : Query → Prop
  | intro {q : Query} (own : q.OwnStocked stock) (parts : ∀ p ∈ q.parts, p.Stocked stock) :
    q.Stocked stock

section Stocked

variable {stock : Value → Prop} {q : Query}

theorem Query.Stocked.own (stocked : q.Stocked stock) : q.OwnStocked stock := by
  cases stocked with
  | intro own parts => exact own

theorem Query.Stocked.part (stocked : q.Stocked stock) {p : Query} (member : p ∈ q.parts) :
    p.Stocked stock := by
  cases stocked with
  | intro own parts => exact parts p member

end Stocked

/-! ## Equal queries agree -/

/-- Two causes are the same, or both are an unreadable selector with equal payloads. -/
def Error.SameCause (e e' : Error) : Prop :=
  e = e' ∨ ∃ v w : Value, e = .invalidSelect v ∧ e' = .invalidSelect w ∧ v.equal w = .ok true

/-- The likeness of equal queries with operands from a stock. -/
def Likeness.equal (stock : Value → Prop) : Likeness where
  queries q r := q.equal r = .ok true ∧ q.Stocked stock ∧ r.Stocked stock
  causes := Error.SameCause

section Agreement

variable {L : Likeness} {stock : Value → Prop}

theorem Selector.Agree.of_equal (causes : ∀ e e', Error.SameCause e e' → L.causes e e')
    {s t : Selector} (left : s.isTyped) (right : t.isTyped)
    (inside : ∀ e f, s.embedding? = some e → t.embedding? = some f →
      e.query.equal f.query = .ok true → L.queries e.query f.query)
    (equal : s.equal t = .ok true) : s.Agree L t := by
  cases s with
  | wildcard =>
    unfold Selector.equal at equal
    split at equal
    next => exact .text rfl rfl rfl rfl
    next => cases equal
  | column v | path v =>
    unfold Selector.equal at equal
    split at equal
    next w =>
      obtain ⟨text, read, read'⟩ := Value.SameText.of_equal left right equal
      exact .text left right read read'
    next => cases equal
  | modified base name cast =>
    unfold Selector.equal at equal
    split at equal
    next base' name' cast' =>
      have typed := left
      have typed' := right
      simp only [isTyped, Bool.and_eq_true] at typed typed'
      simp only [both_eq_ok_true] at equal
      obtain ⟨text, read, read'⟩ := Value.SameText.of_equal typed.1.1 typed'.1.1 equal.1
      have names := Value.SameName.of_equal typed.1.2 typed'.1.2 equal.2.1
      have casts := Value.SameName.of_equal typed.2 typed'.2 equal.2.2
      refine .text left right (by rw [ownText?, read, Option.map_some]) ?_
      rw [ownText?, read', Option.map_some, names.given, casts.given]
    next => cases equal
  | embedded q name =>
    unfold Selector.equal at equal
    split at equal
    next r name' =>
      obtain ⟨queries, names⟩ := both_eq_ok_true.1 equal
      exact .embedded (inside ⟨q, name⟩ ⟨r, name'⟩ rfl rfl queries) (.of_equal left right names)
    next => cases equal
  | misembedded content name =>
    unfold Selector.equal at equal
    split at equal
    next => exact .refused rfl rfl (causes _ _ (.inl rfl))
    next => cases equal
  | invalid v =>
    unfold Selector.equal at equal
    split at equal
    next w => exact .refused rfl rfl (causes _ _ (.inr ⟨v, w, rfl, rfl, equal⟩))
    next => cases equal
  | unwritable serial =>
    unfold Selector.equal at equal
    split at equal
    next => exact .refused rfl rfl (causes _ _ (.inl rfl))
    next => cases equal

theorem Filter.Agree.of_equal (faithful : Faithful stock) {f g : Filter}
    (left : f.column.asText?.isSome ∧ f.operand.IsFrom stock)
    (right : g.column.asText?.isSome ∧ g.operand.IsFrom stock) (equal : f.equal g = .ok true) :
    f.Agree g := by
  obtain ⟨operators, columns, operands, negations⟩ := equal_iff.1 equal
  exact ⟨operators, negations, .of_equal left.1 right.1 columns,
    operandText_of_equal faithful left.2 right.2 operands⟩

theorem SortKey.Agree.of_equal {k l : SortKey} (left : k.column.asText?.isSome)
    (right : l.column.asText?.isSome) (equal : k.equal l = .ok true) : k.Agree l := by
  obtain ⟨columns, ⟨directions, nulls⟩, tops⟩ := equal_iff.1 equal
  exact ⟨.of_equal left right columns, directions, nulls, Value.isGiven_of_equal tops⟩

/-- Equal filters are arranged alike. -/
theorem Filter.arranged_of_equal {fs gs : List Filter}
    (equal : List.Forall₂ (fun f g : Filter => f.equal g = .ok true) fs gs) :
    List.Forall₂ (fun f g : Filter => f.equal g = .ok true) (arranged fs) (arranged gs) :=
  forall₂_mergeSort (fun _ _ _ _ first second => by
    rw [(equal_iff.1 first).1, (equal_iff.1 second).1]) equal

theorem FilterGroup.Agree.of_equal {g h : FilterGroup} (left : ∀ q ∈ g.queries, q.Stocked stock)
    (right : ∀ r ∈ h.queries, r.Stocked stock) (equal : g.equal h = .ok true) :
    g.Agree (.equal stock) h := by
  obtain ⟨connectives, queries, negations⟩ := equal_iff.1 equal
  refine ⟨by rw [FilterGroup.key, FilterGroup.key, connectives, negations], ?_⟩
  exact forall₂_imp_of_mem queries fun q member r member' same =>
    ⟨same, left q member, right r member'⟩

/-- Equal queries agree if their operands are from a faithful stock. -/
theorem Query.Agree.of_equal (faithful : Faithful stock) {q r : Query} (left : q.Stocked stock)
    (right : r.Stocked stock) (equal : q.equal r = .ok true) : q.Agree (.equal stock) r := by
  have parts := equal_iff.1 equal
  have own := left.own
  have own' := right.own
  have selectors : List.Forall₂ (Selector.Agree (.equal stock)) q.selectors r.selectors := by
    refine forall₂_imp_of_mem parts.selectors fun s member t member' same => ?_
    refine .of_equal (fun _ _ => id) (own.selectors s member) (own'.selectors t member') ?_ same
    intro e f found found' queries
    exact ⟨queries, left.part (mem_parts_of_embedding (List.mem_filterMap.2 ⟨s, member, found⟩)),
      right.part (mem_parts_of_embedding (List.mem_filterMap.2 ⟨t, member', found'⟩))⟩
  have filters : List.Forall₂ Filter.Agree (Filter.arranged q.filters)
      (Filter.arranged r.filters) :=
    forall₂_imp_of_mem (Filter.arranged_of_equal parts.filters) fun f member g member' same =>
      .of_equal faithful (own.filters f (List.mem_mergeSort.1 member))
        (own'.filters g (List.mem_mergeSort.1 member')) same
  have groups : List.Forall₂ (FilterGroup.Agree (.equal stock)) q.groups r.groups :=
    forall₂_imp_of_mem (List.rel_append parts.conjunctions parts.disjunctions)
      fun g member h member' same => .of_equal
        (fun _ queried => left.part (mem_parts_of_group member queried))
        (fun _ queried => right.part (mem_parts_of_group member' queried)) same
  exact
    { selectors, filters, groups
      resource := parts.resource
      cardinality := parts.cardinality
      ordering := forall₂_imp_of_mem parts.ordering fun k member l member' same =>
        .of_equal (own.ordering k member) (own'.ordering l member') same
      window := parts.window
      preferences := parts.preferences
      schema := .of_equal own.schema own'.schema parts.schema
      onConflict := .of_equal own.onConflict own'.onConflict parts.onConflict
      columns := forall₂_imp_of_mem parts.columns fun v member w member' same =>
        .of_equal (own.columns v member) (own'.columns w member') same
      inner := parts.inner }

theorem Likeness.equal_kept (faithful : Faithful stock) : (equal stock).Kept :=
  ⟨fun ⟨same, left, right⟩ => .of_equal faithful left right same⟩

end Agreement

/-! ## Equal requests -/

/-- Two queries make the same request: they have one query string, or both cannot be written for the
same cause, and their header fields are the same for every method and caller. -/
structure Query.SameRequest (q r : Query) : Prop where
  encoded : ∀ form form' : QueryText, (∃ t, q.encoded form = .ok t ∧ r.encoded form' = .ok t) ∨
    ∃ e e', q.encoded form = .error e ∧ r.encoded form' = .error e' ∧ e.SameCause e'
  headers : ∀ method caller, q.requestHeaders method caller = r.requestHeaders method caller

theorem Likeness.Kept.sameRequest {stock : Value → Prop} (kept : (equal stock).Kept) {q r : Query}
    (alike : (equal stock).queries q r) : q.SameRequest r := by
  refine ⟨fun form form' => ?_, (kept.agree alike).requestHeaders⟩
  have matched := kept.encoded alike form form'
  cases made : q.encoded form with
  | ok t =>
    obtain ⟨_, made', rfl⟩ := matched.of_ok made
    exact .inl ⟨t, rfl, made'⟩
  | error e =>
    obtain ⟨e', made', causes⟩ := matched.of_error made
    exact .inr ⟨e, e', rfl, made', causes.elim .inl id⟩

namespace Query

section Films

variable {stock : Value → Prop} {write : QueryText}

/-- Films of some filters write these filters. -/
theorem encoded_filmsFiltered {fs : List Filter} {pairs : List Pair}
    (written : (Filter.arranged fs).mapM (fun f => f.pair write "") = .ok pairs) :
    (filmsFiltered fs).encoded write = .ok ("&".intercalate (pairs.map QueryString.piece)) := by
  have filters : (filmsFiltered fs).filterPairs write = .ok pairs := by
    rw [filterPairs, collect_embeddings, ownFilterPairs, filmsFiltered, written]
    exact congrArg Except.ok (List.append_nil pairs)
  have clauses : (filmsFiltered fs).clausePairs write = .ok pairs := by
    rw [clausePairs, filters]
    show Except.ok (((((([] ++ pairs) ++ []) ++ []) ++ []) ++ [])) = _
    simp only [List.nil_append, List.append_nil]
  have unwritten : ([] : List Parameter).mapM QueryString.textPair? = some [] := rfl
  rw [encoded_of_clausePairs rfl clauses rfl unwritten, List.append_nil]

theorem encoded_filmsNumbered {v : Value} (scalar : v.isScalar) {s : String}
    (text : v.operandText write = .ok s) :
    (filmsNumbered v).encoded write =
      .ok ("&".intercalate ([("id", "eq." ++ s)].map QueryString.piece)) := by
  refine encoded_filmsFiltered ?_
  have pair : Filter.pair write ⟨.eq, .text "id", v, false⟩ "" = .ok ("id", "eq." ++ s) := by
    rw [Filter.pair, Filter.written, Filter.operandText_scalar scalar, if_neg Bool.false_ne_true,
      text]
    rfl
  rw [Filter.arranged, List.mergeSort_singleton, List.mapM_cons, pair]
  rfl

theorem stocked_filmsFiltered {fs : List Filter}
    (each : ∀ f ∈ fs, f.column.asText?.isSome ∧ f.operand.IsFrom stock) :
    (filmsFiltered fs).Stocked stock :=
  .intro ⟨List.forall_mem_nil _, each, List.forall_mem_nil _, rfl, rfl, List.forall_mem_nil _⟩
    (List.forall_mem_nil _)

/-- If equal queries make the same request, then so do the films of equal numbers, and these numbers
are written alike. -/
theorem faithful_of_sameRequest (same : ∀ q r : Query, q.Stocked stock → r.Stocked stock →
    q.equal r = .ok true → q.SameRequest r) : Faithful stock := by
  intro v w stored stored' equal write write'
  obtain ⟨s, text⟩ := Value.operandText_succeeds write stored.1
  obtain ⟨t, text'⟩ := Value.operandText_succeeds write' stored'.1
  have made := encoded_filmsNumbered stored.1 text
  have made' := encoded_filmsNumbered stored'.1 text'
  have stocked {v : Value} (stored : v.isScalar ∧ stock v) : (filmsNumbered v).Stocked stock :=
    stocked_filmsFiltered (List.forall_mem_singleton.2 ⟨rfl, Value.IsFrom.of_scalar stored⟩)
  have request := same _ _ (stocked stored) (stocked stored') (filmsNumbered_equal equal)
  rcases request.encoded write write' with ⟨u, one, other⟩ | ⟨e, _, failed, _⟩
  · -- The value of the parameter can be read off the query string.
    have strings := Except.ok.inj ((made.symm.trans one).trans (other.symm.trans made'))
    have pairs := congrArg QueryString.decode? strings
    rw [QueryString.decode?_pieces, QueryString.decode?_pieces] at pairs
    have values := congrArg Prod.snd (List.cons.inj (Option.some.inj pairs)).1
    rw [text, text', (String.append_right_inj _).1 values]
  · rw [made] at failed
    cases failed

end Films

/-- A stock of operands is faithful exactly if equal queries with operands from it make the same
request. -/
theorem equal_requests (stock : Value → Prop) :
    Faithful stock ↔ ∀ q r : Query, q.Stocked stock → r.Stocked stock → q.equal r = .ok true →
      q.SameRequest r :=
  ⟨fun faithful _ _ left right equal =>
    (Likeness.equal_kept faithful).sameRequest ⟨equal, left, right⟩, faithful_of_sameRequest⟩

/-- Films before 1990, of one rating. -/
def filmsOfRating (rating : Value) : Query :=
  filmsFiltered [⟨.eq, .text "rating", rating, false⟩, ⟨.lt, .text "year", .int 1990, false⟩]

/-- A word in two kinds makes equal queries with one query string. -/
theorem equal_requests_filmsOfRating :
    (filmsOfRating (.text "exact")).equal (filmsOfRating (.token (.count .exact))) = .ok true ∧
      ∃ t, (filmsOfRating (.text "exact")).encoded (fun _ => .ok "") = .ok t ∧
        (filmsOfRating (.token (.count .exact))).encoded (fun _ => .ok "") = .ok t := by
  have text {v w : Value} {s : String} (read : v.asText? = some s) (read' : w.asText? = some s) :
      v.equal w = .ok true := by
    rw [Value.equal_of_asText? read read', beq_self_eq_true]
  have year : (Value.int 1990).equal (.int 1990) = .ok true := by
    rw [Value.equal]
    rfl
  have equal : (filmsOfRating (.text "exact")).equal (filmsOfRating (.token (.count .exact))) =
      .ok true :=
    filmsFiltered_equal (.cons (Filter.equal_iff.2 ⟨rfl, text rfl rfl, text rfl rfl, rfl⟩)
      (.cons (Filter.equal_iff.2 ⟨rfl, text rfl rfl, year, rfl⟩) .nil))
  have stocked (v : Value) (scalar : v.IsFrom fun v => v.isWholeOrText) :
      (filmsOfRating v).Stocked fun v => v.isWholeOrText :=
    stocked_filmsFiltered
      (List.forall_mem_cons.2 ⟨⟨rfl, scalar⟩, List.forall_mem_singleton.2 ⟨rfl, rfl, rfl⟩⟩)
  have made : (filmsOfRating (.text "exact")).encoded (fun _ => .ok "") =
      .ok "rating=eq.exact&year=lt.1990" := by
    rw [filmsOfRating, encoded_filmsFiltered (by rw [Filter.arranged_eq]; rfl)]
    rfl
  have request := (equal_requests _).1 faithful_isWholeOrText _ _
    (stocked (.text "exact") ⟨rfl, rfl⟩) (stocked (.token (.count .exact)) ⟨rfl, rfl⟩) equal
  refine ⟨equal, ?_⟩
  rcases request.encoded (fun _ => .ok "") (fun _ => .ok "") with same | ⟨e, _, failed, _⟩
  · exact same
  · rw [made] at failed
    cases failed

end Query

/-- One and true are equal, so of two embeddings that ask for rows of different numbers the second
one is dropped. -/
theorem Call.select_drops_embedding :
    (Query.filmsNumbered (.int 1)).equal (.filmsNumbered (.bool true)) = .ok true ∧
      (Query.filmsNumbered (.int 1)).encoded (fun _ => .ok "") = .ok "id=eq.1" ∧
      (Query.filmsNumbered (.bool true)).encoded (fun _ => .ok "") = .ok "id=eq.true" ∧
      run (fun _ => .ok "") .null (.ofResource "actors" .many)
          [.select (.list [.query (.filmsNumbered (.int 1)),
            .query (.filmsNumbered (.bool true))])] =
        .ok { Query.ofResource "actors" .many with
          selectors := [.embedded (.filmsNumbered (.int 1)) .null] } := by
  have among : (Selector.embedded (.filmsNumbered (.bool true)) .null).among
      [.embedded (.filmsNumbered (.int 1)) .null] = .ok true := by
    rw [Selector.among, Selector.equal, Query.filmsNumbered_equal Value.equal_one_true,
      Value.equal_null]
    rfl
  have added : addSelectors [] (Selector.readAll (.list [.query (.filmsNumbered (.int 1)),
      .query (.filmsNumbered (.bool true))])) =
      .ok [.embedded (.filmsNumbered (.int 1)) .null] := by
    have read : Selector.readAll (.list [.query (.filmsNumbered (.int 1)),
        .query (.filmsNumbered (.bool true))]) = [.embedded (.filmsNumbered (.int 1)) .null,
          .embedded (.filmsNumbered (.bool true)) .null] := rfl
    have first : (Selector.embedded (.filmsNumbered (.int 1)) .null).among [] = .ok false := rfl
    simp only [addSelectors, read, List.foldlM_cons, List.foldlM_nil, first, ok_bind, pure_bind,
      Bool.false_eq_true, if_false, List.nil_append, among, if_true]
    rfl
  have one : (Value.int 1).operandText (fun _ => .ok "") = .ok "1" := rfl
  have truth : (Value.bool true).operandText (fun _ => .ok "") = .ok "true" := rfl
  refine ⟨Query.filmsNumbered_equal Value.equal_one_true, ?_, ?_, ?_⟩
  · rw [Query.encoded_filmsNumbered rfl one]
    rfl
  · rw [Query.encoded_filmsNumbered rfl truth]
    rfl
  · rw [run_cons, apply]
    rw [show (Query.ofResource "actors" .many).selectors = [] from rfl, added]
    rfl

end RestQuery
