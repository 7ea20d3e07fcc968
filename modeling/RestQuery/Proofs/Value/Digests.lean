import RestQuery.Call
import RestQuery.Proofs.Sequencing
import RestQuery.Proofs.Value.Equal

/-!
# Digests of equal values

A dictionary finds a value by its digest, so equal values should have the same one.  They do, up to
their unreadable selectors: these are equal if their payloads are, but they are digested by the
literals of the payloads, and equal payloads can have different literals.  `Query.unreadable` lists
the literals in the order in which they go into the digest, and by `Query.digest_eq_iff` the digests
of equal queries are the same exactly if these lists are.  `Call.select_digests_differ` is a pair of
equal queries with different digests.
-/

namespace RestQuery

open Verdict (both)

/-! ## Unreadable selectors -/

mutual

/-- The literals of the payloads of the unreadable selectors in a value, in the order in which the
value is digested. -/
def Value.unreadable : Value → List String
  | .tuple items => Value.allUnreadable items
  | .query q => q.unreadable
  | .selector s => s.unreadable
  | .sortKey k => k.unreadable
  | _ => []

def Value.allUnreadable : List Value → List String
  | [] => []
  | v :: vs => v.unreadable ++ Value.allUnreadable vs

def Selector.unreadable : Selector → List String
  | .column name => [name.unreadable].flatten
  | .modified column name cast =>
    [column.unreadable, name.unreadable, cast.unreadable].flatten
  | .path p => [p.unreadable].flatten
  | .embedded q name => [q.unreadable, name.unreadable].flatten
  | .misembedded content name => [content.unreadable, name.unreadable].flatten
  | .invalid payload => [payload.literal]
  | .wildcard => []
  | .unwritable _ => []

def Selector.allUnreadable : List Selector → List String
  | [] => []
  | s :: ss => s.unreadable ++ Selector.allUnreadable ss

def Filter.unreadable : Filter → List String
  | { column, operand, .. } => [column.unreadable, operand.unreadable].flatten

def Filter.allUnreadable : List Filter → List String
  | [] => []
  | f :: fs => f.unreadable ++ Filter.allUnreadable fs

def FilterGroup.unreadable : FilterGroup → List String
  | { queries, .. } => [Query.allUnreadable queries].flatten

def FilterGroup.allUnreadable : List FilterGroup → List String
  | [] => []
  | g :: gs => g.unreadable ++ FilterGroup.allUnreadable gs

def SortKey.unreadable : SortKey → List String
  | { column, top, .. } => [column.unreadable, top.unreadable].flatten

def SortKey.allUnreadable : List SortKey → List String
  | [] => []
  | k :: ks => k.unreadable ++ SortKey.allUnreadable ks

def Query.allUnreadable : List Query → List String
  | [] => []
  | q :: qs => q.unreadable ++ Query.allUnreadable qs

/-- The literals of the payloads of the unreadable selectors at any depth of a query. -/
def Query.unreadable : Query → List String
  | { selectors, filters, conjunctions, disjunctions, ordering, schema, onConflict, columns, .. } =>
    [Selector.allUnreadable selectors, Filter.allUnreadable filters,
      FilterGroup.allUnreadable conjunctions, FilterGroup.allUnreadable disjunctions,
      SortKey.allUnreadable ordering, schema.unreadable, onConflict.unreadable,
      Value.allUnreadable columns].flatten

end

/-! ## Digests that differ in literals alone -/

/-- Two digests of one length are the same exactly if two lists of literals of one length are. -/
structure Tracks (d e : Digest) (xs ys : List String) : Prop where
  marks : d.length = e.length
  literals : xs.length = ys.length
  same : d = e ↔ xs = ys

/-- The same of the digests of some parts, put together. -/
structure TracksAll (ds es : List Digest) (xs ys : List String) : Prop where
  parts : ds.length = es.length
  flat : Tracks ds.flatten es.flatten xs ys

section Tracking

variable {d e : Digest} {ds es : List Digest} {xs ys xs' ys' : List String}

theorem Tracks.same_digest (d : Digest) : Tracks d d [] [] := ⟨rfl, rfl, iff_of_true rfl rfl⟩

theorem TracksAll.nil : TracksAll [] [] [] [] := ⟨rfl, .same_digest []⟩

theorem TracksAll.cons (first : Tracks d e xs ys) (rest : TracksAll ds es xs' ys') :
    TracksAll (d :: ds) (e :: es) (xs ++ xs') (ys ++ ys') := by
  refine ⟨congrArg (· + 1) rest.parts, ?_, ?_, ?_⟩
  · rw [List.flatten_cons, List.flatten_cons, List.length_append, List.length_append,
      first.marks, rest.flat.marks]
  · rw [List.length_append, List.length_append, first.literals, rest.flat.literals]
  · rw [List.flatten_cons, List.flatten_cons,
      List.append_eq_append_iff_of_size_eq_left first.marks,
      List.append_eq_append_iff_of_size_eq_left first.literals, first.same, rest.flat.same]

/-- A part that is the same on both sides has no literals. -/
theorem TracksAll.same (d : Digest) (rest : TracksAll ds es xs ys) :
    TracksAll (d :: ds) (d :: es) xs ys :=
  .cons (.same_digest d) rest

theorem TracksAll.compound (all : TracksAll ds es xs ys) :
    Tracks (.compound ds) (.compound es) xs ys := by
  refine ⟨congrArg (· + 1) all.flat.marks, all.flat.literals, ?_⟩
  rw [Digest.compound, Digest.compound, all.parts, List.cons_inj_right, all.flat.same]

/-- A digest that is the word for a literal. -/
theorem Tracks.literal (s t : String) : Tracks (.ofText s) (.ofText t) [s] [t] := by
  refine ⟨rfl, rfl, ?_⟩
  simp [Digest.ofText]

/-- Two steps give digests that track the literals, if both give one. -/
def Tracked (x y : Except Error Digest) (xs ys : List String) : Prop :=
  ∀ d e, x = .ok d → y = .ok e → Tracks d e xs ys

def TrackedAll (x y : Except Error (List Digest)) (xs ys : List String) : Prop :=
  ∀ ds es, x = .ok ds → y = .ok es → TracksAll ds es xs ys

theorem Tracked.same_digest (d : Digest) : Tracked (.ok d) (.ok d) [] [] := by
  rintro _ _ ⟨⟩ ⟨⟩
  exact .same_digest d

theorem TrackedAll.nil : TrackedAll (.ok []) (.ok []) [] [] := by
  rintro _ _ ⟨⟩ ⟨⟩
  exact .nil

theorem TrackedAll.cons {x y : Except Error Digest} {a b : Except Error (List Digest)}
    (first : Tracked x y xs ys) (rest : TrackedAll a b xs' ys') :
    TrackedAll (do return (← x) :: (← a)) (do return (← y) :: (← b)) (xs ++ xs') (ys ++ ys') := by
  intro ds es made made'
  obtain ⟨d, own, made⟩ := bind_eq_ok.1 made
  obtain ⟨ds, others, ⟨⟩⟩ := bind_eq_ok.1 made
  obtain ⟨e, own', made'⟩ := bind_eq_ok.1 made'
  obtain ⟨es, others', ⟨⟩⟩ := bind_eq_ok.1 made'
  exact .cons (first d e own own') (rest ds es others others')

theorem TrackedAll.compound {a b : Except Error (List Digest)} (all : TrackedAll a b xs ys) :
    Tracked (do return .compound (← a)) (do return .compound (← b)) xs ys := by
  intro d e made made'
  obtain ⟨ds, parts, ⟨⟩⟩ := bind_eq_ok.1 made
  obtain ⟨es, parts', ⟨⟩⟩ := bind_eq_ok.1 made'
  exact (all ds es parts parts').compound

end Tracking

theorem Value.digest_of_quantity? {v : Value} {x : Quantity} (number : v.quantity? = some x)
    {d : Digest} (digested : v.digest = .ok d) : d = [.number x] := by
  cases v with
  | bool b | int i | float y =>
    cases number
    cases digested
    rfl
  | decimal y =>
    cases number
    rw [digest] at digested
    split at digested
    · cases digested
    · cases digested
      rfl
  | _ => cases number

theorem Value.unreadable_of_quantity? {v : Value} {x : Quantity} (number : v.quantity? = some x) :
    v.unreadable = [] := by
  cases v with
  | bool b | int i | float y | decimal y => rfl
  | _ => cases number

theorem Value.unreadable_of_asText? {v : Value} {s : String} (text : v.asText? = some s) :
    v.unreadable = [] := by
  cases v with
  | text t | token t => rfl
  | _ => cases text

/-- Equal numbers and equal texts have one digest, whatever their kinds. -/
theorem Value.tracked_of_equalPlain {v w : Value} (equal : v.equalPlain w = .ok true) :
    Tracked v.digest w.digest v.unreadable w.unreadable := by
  intro d e digested digested'
  rcases same_of_equalPlain equal with ⟨x, number, number'⟩ | ⟨s, text, text'⟩
  · rw [unreadable_of_quantity? number, unreadable_of_quantity? number',
      digest_of_quantity? number digested, digest_of_quantity? number' digested']
    exact .same_digest _
  · rw [digest_of_asText? text] at digested
    rw [digest_of_asText? text'] at digested'
    cases digested
    cases digested'
    rw [unreadable_of_asText? text, unreadable_of_asText? text']
    exact .same_digest _

/-! ## Equal values -/

mutual

theorem Value.tracked_of_equal (v w : Value) (equal : v.equal w = .ok true) :
    Tracked v.digest w.digest v.unreadable w.unreadable := by
  cases v with
  | list vs | dict es => exact fun _ _ digested => nomatch digested
  | null =>
    unfold Value.equal at equal
    split at equal
    next => exact .same_digest _
    next => cases equal
  | bytes bs | negation q serial =>
    unfold Value.equal at equal
    split at equal
    next =>
      cases eq_of_beq (Except.ok.inj equal)
      exact .same_digest _
    next => cases equal
  | tuple vs =>
    unfold Value.equal at equal
    split at equal
    next ws => exact (Value.trackedAll_of_equal vs ws equal).compound
    next => cases equal
  | query q =>
    unfold Value.equal at equal
    split at equal
    next r => exact q.tracked_of_equal r equal
    next => cases equal
  | selector s =>
    unfold Value.equal at equal
    split at equal
    next t => exact s.tracked_of_equal t equal
    next => cases equal
  | sortKey k =>
    unfold Value.equal at equal
    split at equal
    next l => exact k.tracked_of_equal l equal
    next => cases equal
  | bool b | int i | float x | decimal x | text s | token t =>
    unfold Value.equal at equal
    exact Value.tracked_of_equalPlain equal
termination_by structural v

theorem Value.trackedAll_of_equal (vs ws : List Value) (equal : Value.equalAll vs ws = .ok true) :
    TrackedAll (Value.digests vs) (Value.digests ws) (Value.allUnreadable vs)
      (Value.allUnreadable ws) := by
  cases vs with
  | nil =>
    unfold Value.equalAll at equal
    cases List.isEmpty_iff.1 (Except.ok.inj equal)
    exact .nil
  | cons v vs =>
    unfold Value.equalAll at equal
    split at equal
    next => cases equal
    next w ws =>
      obtain ⟨first, rest⟩ := Verdict.both_eq_ok_true.1 equal
      exact .cons (v.tracked_of_equal w first) (Value.trackedAll_of_equal vs ws rest)
termination_by structural vs

theorem Selector.tracked_of_equal (s t : Selector) (equal : s.equal t = .ok true) :
    Tracked s.digest t.digest s.unreadable t.unreadable := by
  cases s with
  | wildcard =>
    unfold Selector.equal at equal
    split at equal
    next => exact .same_digest _
    next => cases equal
  | unwritable serial =>
    unfold Selector.equal at equal
    split at equal
    next =>
      cases eq_of_beq (Except.ok.inj equal)
      exact .same_digest _
    next => cases equal
  | column v | path v =>
    unfold Selector.equal at equal
    split at equal
    next w =>
      intro d e digested digested'
      obtain ⟨d, own, ⟨⟩⟩ := bind_eq_ok.1 digested
      obtain ⟨e, own', ⟨⟩⟩ := bind_eq_ok.1 digested'
      exact (TracksAll.cons (v.tracked_of_equal w equal d e own own') .nil).compound
    next => cases equal
  | modified column name cast =>
    unfold Selector.equal at equal
    split at equal
    next column' name' cast' =>
      simp only [Verdict.both_eq_ok_true] at equal
      obtain ⟨columns, names, casts⟩ := equal
      intro d e digested digested'
      simp only [Selector.digest, bind_eq_ok] at digested digested'
      obtain ⟨d₁, own₁, d₂, own₂, d₃, own₃, ⟨⟩⟩ := digested
      obtain ⟨e₁, own₁', e₂, own₂', e₃, own₃', ⟨⟩⟩ := digested'
      exact (TracksAll.cons (column.tracked_of_equal column' columns _ _ own₁ own₁')
        (.cons (name.tracked_of_equal name' names _ _ own₂ own₂')
          (.cons (cast.tracked_of_equal cast' casts _ _ own₃ own₃') .nil))).compound
    next => cases equal
  | embedded q name =>
    unfold Selector.equal at equal
    split at equal
    next r name' =>
      obtain ⟨queries, names⟩ := Verdict.both_eq_ok_true.1 equal
      intro d e digested digested'
      simp only [Selector.digest, bind_eq_ok] at digested digested'
      obtain ⟨d₁, own₁, d₂, own₂, ⟨⟩⟩ := digested
      obtain ⟨e₁, own₁', e₂, own₂', ⟨⟩⟩ := digested'
      exact (TracksAll.cons (q.tracked_of_equal r queries _ _ own₁ own₁')
        (.cons (name.tracked_of_equal name' names _ _ own₂ own₂') .nil)).compound
    next => cases equal
  | misembedded v name =>
    unfold Selector.equal at equal
    split at equal
    next w name' =>
      obtain ⟨contents, names⟩ := Verdict.both_eq_ok_true.1 equal
      intro d e digested digested'
      simp only [Selector.digest, bind_eq_ok] at digested digested'
      obtain ⟨d₁, own₁, d₂, own₂, ⟨⟩⟩ := digested
      obtain ⟨e₁, own₁', e₂, own₂', ⟨⟩⟩ := digested'
      exact (TracksAll.cons (v.tracked_of_equal w contents _ _ own₁ own₁')
        (.cons (name.tracked_of_equal name' names _ _ own₂ own₂') .nil)).compound
    next => cases equal
  | invalid v =>
    unfold Selector.equal at equal
    split at equal
    next w =>
      rintro _ _ ⟨⟩ ⟨⟩
      exact .literal _ _
    next => cases equal
termination_by structural s

theorem Selector.trackedAll_of_equal (ss ts : List Selector)
    (equal : Selector.equalAll ss ts = .ok true) :
    TrackedAll (Selector.digests ss) (Selector.digests ts) (Selector.allUnreadable ss)
      (Selector.allUnreadable ts) := by
  cases ss with
  | nil =>
    unfold Selector.equalAll at equal
    cases List.isEmpty_iff.1 (Except.ok.inj equal)
    exact .nil
  | cons s ss =>
    unfold Selector.equalAll at equal
    split at equal
    next => cases equal
    next t ts =>
      obtain ⟨first, rest⟩ := Verdict.both_eq_ok_true.1 equal
      exact .cons (s.tracked_of_equal t first) (Selector.trackedAll_of_equal ss ts rest)
termination_by structural ss

theorem Filter.tracked_of_equal (f g : Filter) (equal : f.equal g = .ok true) :
    Tracked f.digest g.digest f.unreadable g.unreadable := by
  rcases f with ⟨operator, column, operand, negated⟩
  rcases g with ⟨operator', column', operand', negated'⟩
  simp only [Filter.equal, Verdict.both_eq_ok_true, Except.ok.injEq, beq_iff_eq] at equal
  obtain ⟨rfl, columns, operands, rfl⟩ := equal
  intro d e digested digested'
  simp only [Filter.digest, bind_eq_ok] at digested digested'
  obtain ⟨d₁, own₁, d₂, own₂, ⟨⟩⟩ := digested
  obtain ⟨e₁, own₁', e₂, own₂', ⟨⟩⟩ := digested'
  exact (TracksAll.same _ (.cons (column.tracked_of_equal column' columns _ _ own₁ own₁')
    (.cons (operand.tracked_of_equal operand' operands _ _ own₂ own₂') (.same _ .nil)))).compound
termination_by structural f

theorem Filter.trackedAll_of_equal (fs gs : List Filter)
    (equal : Filter.equalAll fs gs = .ok true) :
    TrackedAll (Filter.digests fs) (Filter.digests gs) (Filter.allUnreadable fs)
      (Filter.allUnreadable gs) := by
  cases fs with
  | nil =>
    unfold Filter.equalAll at equal
    cases List.isEmpty_iff.1 (Except.ok.inj equal)
    exact .nil
  | cons f fs =>
    unfold Filter.equalAll at equal
    split at equal
    next => cases equal
    next g gs =>
      obtain ⟨first, rest⟩ := Verdict.both_eq_ok_true.1 equal
      exact .cons (f.tracked_of_equal g first) (Filter.trackedAll_of_equal fs gs rest)
termination_by structural fs

theorem FilterGroup.tracked_of_equal (g h : FilterGroup) (equal : g.equal h = .ok true) :
    Tracked g.digest h.digest g.unreadable h.unreadable := by
  rcases g with ⟨connective, queries, negated⟩
  rcases h with ⟨connective', queries', negated'⟩
  simp only [FilterGroup.equal, Verdict.both_eq_ok_true, Except.ok.injEq, beq_iff_eq] at equal
  obtain ⟨rfl, members, rfl⟩ := equal
  intro d e digested digested'
  obtain ⟨ds, own, ⟨⟩⟩ := bind_eq_ok.1 digested
  obtain ⟨es, own', ⟨⟩⟩ := bind_eq_ok.1 digested'
  have tracks := (Query.trackedAll_of_equal queries queries' members _ _ own own').compound
  exact (TracksAll.same _ (.cons tracks (.same _ .nil))).compound
termination_by structural g

theorem FilterGroup.trackedAll_of_equal (gs hs : List FilterGroup)
    (equal : FilterGroup.equalAll gs hs = .ok true) :
    TrackedAll (FilterGroup.digests gs) (FilterGroup.digests hs) (FilterGroup.allUnreadable gs)
      (FilterGroup.allUnreadable hs) := by
  cases gs with
  | nil =>
    unfold FilterGroup.equalAll at equal
    cases List.isEmpty_iff.1 (Except.ok.inj equal)
    exact .nil
  | cons g gs =>
    unfold FilterGroup.equalAll at equal
    split at equal
    next => cases equal
    next h hs =>
      obtain ⟨first, rest⟩ := Verdict.both_eq_ok_true.1 equal
      exact .cons (g.tracked_of_equal h first) (FilterGroup.trackedAll_of_equal gs hs rest)
termination_by structural gs

theorem SortKey.tracked_of_equal (k l : SortKey) (equal : k.equal l = .ok true) :
    Tracked k.digest l.digest k.unreadable l.unreadable := by
  rcases k with ⟨column, direction, nulls, top⟩
  rcases l with ⟨column', direction', nulls', top'⟩
  simp only [SortKey.equal, Verdict.both_eq_ok_true, Except.ok.injEq, Bool.and_eq_true,
    beq_iff_eq] at equal
  obtain ⟨columns, ⟨rfl, rfl⟩, tops⟩ := equal
  intro d e digested digested'
  simp only [SortKey.digest, bind_eq_ok] at digested digested'
  obtain ⟨d₁, own₁, d₂, own₂, ⟨⟩⟩ := digested
  obtain ⟨e₁, own₁', e₂, own₂', ⟨⟩⟩ := digested'
  exact (TracksAll.cons (column.tracked_of_equal column' columns _ _ own₁ own₁')
    (.same _ (.same _ (.cons (top.tracked_of_equal top' tops _ _ own₂ own₂') .nil)))).compound
termination_by structural k

theorem SortKey.trackedAll_of_equal (ks ls : List SortKey)
    (equal : SortKey.equalAll ks ls = .ok true) :
    TrackedAll (SortKey.digests ks) (SortKey.digests ls) (SortKey.allUnreadable ks)
      (SortKey.allUnreadable ls) := by
  cases ks with
  | nil =>
    unfold SortKey.equalAll at equal
    cases List.isEmpty_iff.1 (Except.ok.inj equal)
    exact .nil
  | cons k ks =>
    unfold SortKey.equalAll at equal
    split at equal
    next => cases equal
    next l ls =>
      obtain ⟨first, rest⟩ := Verdict.both_eq_ok_true.1 equal
      exact .cons (k.tracked_of_equal l first) (SortKey.trackedAll_of_equal ks ls rest)
termination_by structural ks

theorem Query.trackedAll_of_equal (qs rs : List Query) (equal : Query.equalAll qs rs = .ok true) :
    TrackedAll (Query.digests qs) (Query.digests rs) (Query.allUnreadable qs)
      (Query.allUnreadable rs) := by
  cases qs with
  | nil =>
    unfold Query.equalAll at equal
    cases List.isEmpty_iff.1 (Except.ok.inj equal)
    exact .nil
  | cons q qs =>
    unfold Query.equalAll at equal
    split at equal
    next => cases equal
    next r rs =>
      obtain ⟨first, rest⟩ := Verdict.both_eq_ok_true.1 equal
      exact .cons (q.tracked_of_equal r first) (Query.trackedAll_of_equal qs rs rest)
termination_by structural qs

theorem Query.tracked_of_equal (q r : Query) (equal : q.equal r = .ok true) :
    Tracked q.digest r.digest q.unreadable r.unreadable := by
  rcases q with ⟨resource, cardinality, selectors, filters, conjunctions, disjunctions, ordering,
    window, preferences, schema, onConflict, columns, inner⟩
  rcases r with ⟨resource', cardinality', selectors', filters', conjunctions', disjunctions',
    ordering', window', preferences', schema', onConflict', columns', inner'⟩
  simp only [Query.equal, Verdict.both_eq_ok_true, Except.ok.injEq, Bool.and_eq_true,
    beq_iff_eq] at equal
  obtain ⟨⟨rfl, rfl⟩, selected, filtered, conjoined, disjoined, ordered, ⟨rfl, rfl⟩, schemas,
    conflicts, written, rfl⟩ := equal
  intro d e digested digested'
  simp only [Query.digest, bind_eq_ok] at digested digested'
  obtain ⟨d₁, own₁, d₂, own₂, d₃, own₃, d₄, own₄, d₅, own₅, d₆, own₆, d₇, own₇, d₈, own₈, ⟨⟩⟩ :=
    digested
  obtain ⟨e₁, own₁', e₂, own₂', e₃, own₃', e₄, own₄', e₅, own₅', e₆, own₆', e₇, own₇', e₈, own₈',
    ⟨⟩⟩ := digested'
  have selectors := (Selector.trackedAll_of_equal _ _ selected _ _ own₁ own₁').compound
  have filters := (Filter.trackedAll_of_equal _ _ filtered _ _ own₂ own₂').compound
  have conjunctions := (FilterGroup.trackedAll_of_equal _ _ conjoined _ _ own₃ own₃').compound
  have disjunctions := (FilterGroup.trackedAll_of_equal _ _ disjoined _ _ own₄ own₄').compound
  have ordering := (SortKey.trackedAll_of_equal _ _ ordered _ _ own₅ own₅').compound
  have schema := schema.tracked_of_equal _ schemas _ _ own₆ own₆'
  have onConflict := onConflict.tracked_of_equal _ conflicts _ _ own₇ own₇'
  have columns := (Value.trackedAll_of_equal _ _ written _ _ own₈ own₈').compound
  exact (TracksAll.same _ (.same _ (.cons selectors (.cons filters (.cons conjunctions
    (.cons disjunctions (.cons ordering (.same _ (.same _ (.same _ (.same _ (.same _ (.same _
      (.cons schema (.cons onConflict (.cons columns (.same _ .nil))))))))))))))))).compound
termination_by structural q

end

/-! ## Equal queries as keys -/

/-- Two equal queries with digests have the same one, and are one key of a dictionary, exactly if
their unreadable selectors have payloads with the same literals.  The kinds of all other equal
values do not matter. -/
theorem Query.digest_eq_iff {q r : Query} (equal : q.equal r = .ok true) {d e : Digest}
    (digested : q.digest = .ok d) (digested' : r.digest = .ok e) :
    (d = e ↔ q.unreadable = r.unreadable) ∧
      q.isSameKey r = .ok (decide (q.unreadable = r.unreadable)) := by
  have tracks := q.tracked_of_equal r equal d e digested digested'
  refine ⟨tracks.same, ?_⟩
  have digests : (Value.query q).sameDigest (.query r) = decide (d = e) := by
    rw [Value.sameDigest, Value.digest, Value.digest, digested, digested', Bool.eq_iff_iff]
    simp
  have contents : (Value.query q).equal (.query r) = .ok true := by
    rw [Value.equal, equal]
  rw [isSameKey, Value.isSameKey, digests, contents, decide_eq_decide.2 tracks.same]
  cases decide (q.unreadable = r.unreadable) <;> rfl

/-- A query with an unreadable selector alone. -/
def Query.selectingOnly (payload : Value) (q : Query) : Query :=
  { q with selectors := [.invalid payload] }

theorem Query.selectingOnly_equal {v w : Value} (payloads : v.equal w = .ok true) {q r : Query}
    (equal : q.equal r = .ok true) :
    (q.selectingOnly v).equal (r.selectingOnly w) = .ok true := by
  have selectors : (Selector.invalid v).equal (.invalid w) = .ok true := by
    rw [Selector.equal, payloads]
  exact equal_iff.2 { equal_iff.1 equal with selectors := .cons selectors .nil }

/-- One and true are equal numbers.  As the number of a film they make one key, and as selectors
they make two. -/
theorem Query.digest_eq_iff_filmsNumbered :
    (((filmsNumbered (.int 1)).selectingOnly (.int 1)).equal
        ((filmsNumbered (.bool true)).selectingOnly (.int 1)) = .ok true ∧
      ((filmsNumbered (.int 1)).selectingOnly (.int 1)).isSameKey
        ((filmsNumbered (.bool true)).selectingOnly (.int 1)) = .ok true) ∧
    (((filmsNumbered (.int 1)).selectingOnly (.int 1)).equal
        ((filmsNumbered (.bool true)).selectingOnly (.bool true)) = .ok true ∧
      ((filmsNumbered (.int 1)).selectingOnly (.int 1)).isSameKey
        ((filmsNumbered (.bool true)).selectingOnly (.bool true)) = .ok false) := by
  have same : (Value.int 1).equal (.int 1) = .ok true := by
    rw [Value.equal]
    rfl
  have numbers := filmsNumbered_equal Value.equal_one_true
  have alike := selectingOnly_equal same numbers
  have unlike := selectingOnly_equal Value.equal_one_true numbers
  exact ⟨⟨alike, (digest_eq_iff alike rfl rfl).2⟩, unlike, (digest_eq_iff unlike rfl rfl).2⟩

/-- Films with an unreadable selector. -/
def Query.filmsSelecting (payload : Value) : Query :=
  { ofResource "films" .many with selectors := [.invalid payload] }

/-- One and true as selectors make equal queries that are two keys. -/
theorem Call.select_digests_differ :
    run (fun _ => .ok "") .null (.ofResource "films" .many) [.select (.int 1)] =
        .ok (.filmsSelecting (.int 1)) ∧
      run (fun _ => .ok "") .null (.ofResource "films" .many) [.select (.bool true)] =
        .ok (.filmsSelecting (.bool true)) ∧
      (Query.filmsSelecting (.int 1)).equal (.filmsSelecting (.bool true)) = .ok true ∧
      (Query.filmsSelecting (.int 1)).isSameKey (.filmsSelecting (.bool true)) = .ok false ∧
      ∃ d e, (Query.filmsSelecting (.int 1)).digest = .ok d ∧
        (Query.filmsSelecting (.bool true)).digest = .ok e ∧ d ≠ e := by
  have equal : (Query.filmsSelecting (.int 1)).equal (.filmsSelecting (.bool true)) = .ok true :=
    Query.selectingOnly_equal Value.equal_one_true (Query.filmsFiltered_equal .nil)
  have digests : (Value.query (.filmsSelecting (.int 1))).sameDigest
      (.query (.filmsSelecting (.bool true))) = false := rfl
  have keys : (Query.filmsSelecting (.int 1)).isSameKey (.filmsSelecting (.bool true)) =
      .ok false := by
    rw [Query.isSameKey, Value.isSameKey, digests]
    rfl
  exact ⟨rfl, rfl, equal, keys, _, _, rfl, rfl, by decide⟩

end RestQuery
