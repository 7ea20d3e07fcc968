import RestQuery.Proofs.Value.Equates

/-!
# Equality of regular values

A value is `Value.Regular` if all numbers anywhere in it are numbers, and the keys of every mapping
in it can be looked up and are no two the same.  On regular values equality never fails and is an
equivalence, and so it is on regular selectors, groups and queries: `Selector.equal_equates`.  The
induction is on the size of what is compared, for all sorts at once (`Comparable`).
-/

namespace RestQuery

open Verdict (both both_eq_ok_true Equates RunsThrough)

/-! ## Regular values -/

def Binary64.isNumber : Binary64 → Bool
  | .nan _ => false
  | _ => true

def Decimal.isNumber : Decimal → Bool
  | .nan _ _ _ _ => false
  | _ => true

/-- The entries have keys with a digest, no two of which are one key. -/
structure Value.KeysDistinct (entries : List (Value × Value)) : Prop where
  digested : ∀ e ∈ entries, Succeeds e.1.digest
  distinct : entries.Pairwise fun e f => e.1.isSameKey f.1 = .ok false

mutual

/-- Nothing in the value fails to be a number, and its mappings have distinct keys. -/
inductive Value.Regular : Value → Prop
  | null : Value.Regular .null
  | bool (b : Bool) : Value.Regular (.bool b)
  | int (i : Int) : Value.Regular (.int i)
  | float {x : Binary64} (number : x.isNumber) : Value.Regular (.float x)
  | decimal {d : Decimal} (number : d.isNumber) : Value.Regular (.decimal d)
  | text (s : String) : Value.Regular (.text s)
  | bytes (bs : List UInt8) : Value.Regular (.bytes bs)
  | token (t : Token) : Value.Regular (.token t)
  | list {items : List Value} (each : ∀ v ∈ items, v.Regular) : Value.Regular (.list items)
  | tuple {items : List Value} (each : ∀ v ∈ items, v.Regular) : Value.Regular (.tuple items)
  | dict {entries : List (Value × Value)} (keys : ∀ e ∈ entries, e.1.Regular)
      (values : ∀ e ∈ entries, e.2.Regular) (distinct : Value.KeysDistinct entries) :
      Value.Regular (.dict entries)
  | query {q : Query} (regular : q.Regular) : Value.Regular (.query q)
  | negation (q : Query) (serial : Nat) : Value.Regular (.negation q serial)
  | selector {s : Selector} (regular : s.Regular) : Value.Regular (.selector s)
  | sortKey {k : SortKey} (regular : k.Regular) : Value.Regular (.sortKey k)

inductive Selector.Regular : Selector → Prop
  | wildcard : Selector.Regular .wildcard
  | column {name : Value} (regular : name.Regular) : Selector.Regular (.column name)
  | modified {column name cast : Value} (columns : column.Regular) (names : name.Regular)
      (casts : cast.Regular) : Selector.Regular (.modified column name cast)
  | path {p : Value} (regular : p.Regular) : Selector.Regular (.path p)
  | embedded {q : Query} {name : Value} (regular : q.Regular) (names : name.Regular) :
      Selector.Regular (.embedded q name)
  | misembedded {content name : Value} (regular : content.Regular) (names : name.Regular) :
      Selector.Regular (.misembedded content name)
  | invalid {payload : Value} (regular : payload.Regular) : Selector.Regular (.invalid payload)
  | unwritable (serial : Nat) : Selector.Regular (.unwritable serial)

inductive Filter.Regular : Filter → Prop
  | intro {f : Filter} (column : f.column.Regular) (operand : f.operand.Regular) : f.Regular

inductive FilterGroup.Regular : FilterGroup → Prop
  | intro {g : FilterGroup} (queries : ∀ q ∈ g.queries, q.Regular) : g.Regular

inductive SortKey.Regular : SortKey → Prop
  | intro {k : SortKey} (column : k.column.Regular) (top : k.top.Regular) : k.Regular

inductive Query.Regular : Query → Prop
  | intro {q : Query} (selectors : ∀ s ∈ q.selectors, s.Regular)
      (filters : ∀ f ∈ q.filters, f.Regular) (conjunctions : ∀ g ∈ q.conjunctions, g.Regular)
      (disjunctions : ∀ g ∈ q.disjunctions, g.Regular) (ordering : ∀ k ∈ q.ordering, k.Regular)
      (schema : q.schema.Regular) (onConflict : q.onConflict.Regular)
      (columns : ∀ v ∈ q.columns, v.Regular) : q.Regular

end

/-! ## Mappings -/

/-- Whether the first entry with a key has a value that is equal to another one. -/
def Value.hasEntry (key v : Value) : List (Value × Value) → Verdict
  | [] => .ok false
  | f :: fs =>
    match key.isSameKey f.1 with
    | .ok true => v.equal f.2
    | .ok false => hasEntry key v fs
    | .error e => .error e

theorem Value.within_cons (key v : Value) (es fs : List (Value × Value)) :
    within ((key, v) :: es) fs = both (hasEntry key v fs) (within es fs) := by
  rw [within]
  congr 1
  induction fs with
  | nil => rfl
  | cons f fs ih =>
    rw [List.foldr_cons, ih]
    rfl

/-- If all elements of a list have images, no two the same one, in another list that is no longer,
then all elements of this are images. -/
theorem exists_source_of_images {α β : Type} {R : α → β → Prop} {xs : List α} {ys : List β}
    (length : ys.length ≤ xs.length)
    (apart : xs.Pairwise fun x x' => ∀ y ∈ ys, R x y → ¬R x' y)
    (images : ∀ x ∈ xs, ∃ y ∈ ys, R x y) : ∀ y ∈ ys, ∃ x ∈ xs, R x y := by
  induction xs generalizing ys with
  | nil =>
    cases List.length_eq_zero_iff.1 (Nat.le_zero.1 length)
    exact List.forall_mem_nil _
  | cons x xs ih =>
    obtain ⟨⟨y, member, related⟩, others⟩ := List.forall_mem_cons.1 images
    obtain ⟨first, rest⟩ := List.pairwise_cons.1 apart
    obtain ⟨before, after, rfl⟩ := List.append_of_mem member
    have kept {z : β} (inside : z ∈ before ++ y :: after) (different : z ≠ y) :
        z ∈ before ++ after := by
      simpa [different] using inside
    -- The image of the first element is none of the others, so it can be left out.
    have remaining : ∀ x' ∈ xs, ∃ z ∈ before ++ after, R x' z := by
      intro x' later
      obtain ⟨z, inside, related'⟩ := others x' later
      refine ⟨z, kept inside fun same => ?_, related'⟩
      exact first x' later y member related (same ▸ related')
    have shorter : (before ++ after).length ≤ xs.length := by
      simp only [List.length_append, List.length_cons] at length ⊢
      omega
    have within : ∀ z ∈ before ++ after, z ∈ before ++ y :: after := by
      intro z inside
      rcases List.mem_append.1 inside with earlier | later
      · exact List.mem_append_left _ earlier
      · exact List.mem_append_right _ (List.mem_cons_of_mem y later)
    have found := ih shorter (rest.imp fun apart z inside => apart z (within z inside)) remaining
    intro z inside
    by_cases same : z = y
    · exact ⟨x, List.mem_cons_self, same ▸ related⟩
    · obtain ⟨x', later, related'⟩ := found z (kept inside same)
      exact ⟨x', List.mem_cons_of_mem x later, related'⟩

section Mappings

variable {K V : Value → Prop}

/-- Values that have a digest are one key if the digests are the same and the values equal. -/
theorem Value.isSameKey_equates (equates : Equates V Value.equal) :
    Equates (fun v => V v ∧ Succeeds v.digest) isSameKey := by
  have digests : Equates (fun v => V v ∧ Succeeds v.digest)
      fun v w : Value => .ok (v.sameDigest w) := by
    refine (Equates.field (S := fun _ => True) id).comap (f := fun v : Value => v.digest.toOption)
      (fun _ _ => trivial) fun v w left right => ?_
    obtain ⟨d, digested⟩ := left.2
    obtain ⟨e, digested'⟩ := right.2
    rw [sameDigest, digested, digested']
    rfl
  exact digests.both (equates.mono fun v own => own.1)

/-- The entries have keys and values of two sets, and no two keys are the same. -/
structure Value.EntriesIn (K V : Value → Prop) (entries : List (Value × Value)) : Prop where
  keys : ∀ e ∈ entries, K e.1
  values : ∀ e ∈ entries, V e.2
  distinct : entries.Pairwise fun e f => e.1.isSameKey f.1 = .ok false

theorem Value.EntriesIn.tail {e : Value × Value} {es : List (Value × Value)}
    (entries : EntriesIn K V (e :: es)) : EntriesIn K V es :=
  ⟨(List.forall_mem_cons.1 entries.keys).2, (List.forall_mem_cons.1 entries.values).2,
    (List.pairwise_cons.1 entries.distinct).2⟩

/-- Two entries with one key and equal values. -/
def Value.SameEntry (e f : Value × Value) : Prop :=
  e.1.isSameKey f.1 = .ok true ∧ e.2.equal f.2 = .ok true

variable (keys : Equates K Value.isSameKey) (values : Equates V Value.equal)
include keys values

theorem Value.hasEntry_total {e : Value × Value} {fs : List (Value × Value)} (key : K e.1)
    (value : V e.2) (entries : EntriesIn K V fs) : Succeeds (hasEntry e.1 e.2 fs) := by
  induction fs with
  | nil => exact ⟨false, rfl⟩
  | cons f fs ih =>
    obtain ⟨same, told⟩ := keys.total key (entries.keys f List.mem_cons_self)
    rw [hasEntry, told]
    cases same with
    | true => exact values.total value (entries.values f List.mem_cons_self)
    | false => exact ih entries.tail

omit values in
theorem Value.hasEntry_iff {e : Value × Value} {fs : List (Value × Value)} (key : K e.1)
    (entries : EntriesIn K V fs) :
    hasEntry e.1 e.2 fs = .ok true ↔ ∃ f ∈ fs, SameEntry e f := by
  induction fs with
  | nil => simp [hasEntry]
  | cons f fs ih =>
    have first := entries.keys f List.mem_cons_self
    obtain ⟨same, told⟩ := keys.total key first
    rw [hasEntry, told]
    cases same with
    | true =>
      refine ⟨fun equal => ⟨f, List.mem_cons_self, told, equal⟩, ?_⟩
      rintro ⟨f', member, key', value'⟩
      rcases List.mem_cons.1 member with rfl | later
      · exact value'
      · -- A later entry with this key would have the key of the first one.
        have other := entries.keys f' member
        have repeated := keys.trans first key other (keys.symm key first told) key'
        cases repeated.symm.trans ((List.pairwise_cons.1 entries.distinct).1 f' later)
    | false =>
      refine (ih entries.tail).trans ⟨?_, ?_⟩
      · rintro ⟨f', member, same⟩
        exact ⟨f', List.mem_cons_of_mem f member, same⟩
      · rintro ⟨f', member, same⟩
        rcases List.mem_cons.1 member with rfl | later
        · cases told.symm.trans same.1
        · exact ⟨f', later, same⟩

theorem Value.within_total {es fs : List (Value × Value)} (left : EntriesIn K V es)
    (right : EntriesIn K V fs) : Succeeds (within es fs) := by
  induction es with
  | nil => exact ⟨true, by rw [within]⟩
  | cons e es ih =>
    have key := left.keys e List.mem_cons_self
    obtain ⟨found, told⟩ :=
      hasEntry_total keys values key (left.values e List.mem_cons_self) right
    rw [within_cons, told]
    cases found with
    | true => exact ih left.tail
    | false => exact ⟨false, rfl⟩

omit values in
theorem Value.within_iff {es fs : List (Value × Value)} (left : EntriesIn K V es)
    (right : EntriesIn K V fs) :
    within es fs = .ok true ↔ ∀ e ∈ es, ∃ f ∈ fs, SameEntry e f := by
  induction es with
  | nil => simp [within]
  | cons e es ih =>
    rw [within_cons, both_eq_ok_true, ih left.tail, List.forall_mem_cons,
      hasEntry_iff keys (left.keys e List.mem_cons_self) right]

/-- Mappings are compared without regard to order. -/
theorem Value.entries_equate : Equates (EntriesIn K V)
    fun es fs => both (.ok (es.length == fs.length)) (within es fs) where
  total {es fs} left right := by
    cases es.length == fs.length with
    | true => exact within_total keys values left right
    | false => exact ⟨false, rfl⟩
  refl {es} own := by
    rw [both_eq_ok_true, within_iff keys own own]
    refine ⟨by rw [beq_self_eq_true], fun e member => ?_⟩
    exact ⟨e, member, keys.refl (own.keys e member), values.refl (own.values e member)⟩
  symm {es fs} left right same := by
    rw [both_eq_ok_true, Verdict.ok_beq_eq_ok_true, within_iff keys left right] at same
    rw [both_eq_ok_true, Verdict.ok_beq_eq_ok_true, within_iff keys right left]
    -- Two entries with one and the same counterpart would have one key.
    have apart : es.Pairwise fun e e' => ∀ f ∈ fs, SameEntry e f → ¬SameEntry e' f := by
      refine left.distinct.imp_of_mem fun {e e'} member member' distinct f inside same same' => ?_
      have own := left.keys e member
      have own' := left.keys e' member'
      have other := right.keys f inside
      have repeated := keys.trans own other own' same.1 (keys.symm own' other same'.1)
      cases repeated.symm.trans distinct
    have sources := exists_source_of_images (Nat.le_of_eq same.1.symm) apart same.2
    refine ⟨same.1.symm, fun f inside => ?_⟩
    obtain ⟨e, member, key, value⟩ := sources f inside
    exact ⟨e, member, keys.symm (left.keys e member) (right.keys f inside) key,
      values.symm (left.values e member) (right.values f inside) value⟩
  trans {es fs gs} first second third same same' := by
    rw [both_eq_ok_true, Verdict.ok_beq_eq_ok_true, within_iff keys first second] at same
    rw [both_eq_ok_true, Verdict.ok_beq_eq_ok_true, within_iff keys second third] at same'
    rw [both_eq_ok_true, Verdict.ok_beq_eq_ok_true, within_iff keys first third]
    refine ⟨same.1.trans same'.1, fun e member => ?_⟩
    obtain ⟨f, inside, key, value⟩ := same.2 e member
    obtain ⟨g, inside', key', value'⟩ := same'.2 f inside
    have one := keys.trans (first.keys e member) (second.keys f inside) (third.keys g inside')
    have other :=
      values.trans (first.values e member) (second.values f inside) (third.values g inside')
    exact ⟨g, inside', one key key', other value value'⟩

end Mappings

/-! ## Numbers and texts -/

/-- The kinds of values that can be equal to each other: numbers and texts of all kinds are compared
by what they stand for. -/
inductive Value.Kind where
  | plain | null | bytes | list | tuple | dict | query | negation | selector | sortKey

def Value.kind : Value → Value.Kind
  | .null => .null
  | .bytes _ => .bytes
  | .list _ => .list
  | .tuple _ => .tuple
  | .dict _ => .dict
  | .query _ => .query
  | .negation _ _ => .negation
  | .selector _ => .selector
  | .sortKey _ => .sortKey
  | .bool _ | .int _ | .float _ | .decimal _ | .text _ | .token _ => .plain

theorem Value.equal_of_kind_ne {v w : Value} (different : v.kind ≠ w.kind) :
    v.equal w = .ok false := by
  cases v with
  | bool b | int i | float x | decimal d | text s | token t =>
    rw [equal]
    cases w <;> first | exact absurd rfl different | rfl
  | _ =>
    unfold equal
    split
    next => exact absurd rfl different
    next => rfl

/-- A plain value is a number or a text, and not both. -/
theorem Value.number_or_text {v : Value} (plain : v.kind = .plain) :
    (∃ x, v.quantity? = some x ∧ v.asText? = none) ∨
      ∃ s, v.quantity? = none ∧ v.asText? = some s := by
  cases v with
  | bool b | int i | float x | decimal d => exact .inl ⟨_, rfl, rfl⟩
  | text s | token t => exact .inr ⟨_, rfl, rfl⟩
  | _ => cases plain

/-- Regular plain values are equal if they are the same number or the same text. -/
theorem Value.equal_of_plain {v w : Value} (plain : v.kind = .plain) (plain' : w.kind = .plain)
    (regular : v.Regular) (regular' : w.Regular) :
    v.equal w = .ok ((v.quantity?, v.asText?) == (w.quantity?, w.asText?)) := by
  have proper {u : Value} (regular : u.Regular) : u.isSignaling = false := by
    cases regular with
    | @decimal d number => cases d <;> first | rfl | cases number
    | _ => rfl
  have compared : v.equal w = v.equalPlain w := by
    cases v with
    | bool b | int i | float x | decimal d | text s | token t => rw [equal]
    | _ => cases plain
  rw [compared, equalPlain, proper regular, proper regular']
  rcases number_or_text plain with ⟨x, number, none⟩ | ⟨s, none, text⟩
  · rcases number_or_text plain' with ⟨y, number', none'⟩ | ⟨t, none', text'⟩
    · rw [number, number', none, none']
      by_cases same : x = y <;> simp [same]
    · rw [number, none, none', text']
      rfl
  · rcases number_or_text plain' with ⟨y, number', none'⟩ | ⟨t, none', text'⟩
    · rw [none, text, number', none']
      rfl
    · rw [none, text, none', text']
      rfl

/-! ## One size up -/

/-- What is regular and below a size. -/
def Below {α : Type} [SizeOf α] (regular : α → Prop) (n : Nat) (x : α) : Prop :=
  regular x ∧ sizeOf x < n

theorem Below.each {α : Type} [SizeOf α] {regular : α → Prop} {n : Nat} {xs : List α}
    (each : ∀ x ∈ xs, regular x) (size : sizeOf xs < n) : ∀ x ∈ xs, Below regular n x :=
  fun x member => ⟨each x member, Nat.lt_trans (List.sizeOf_lt_of_mem member) size⟩

/-- The keys and the values of a mapping are below it. -/
theorem Value.entriesIn_below {n : Nat} {entries : List (Value × Value)}
    (keys : ∀ e ∈ entries, e.1.Regular) (values : ∀ e ∈ entries, e.2.Regular)
    (distinct : KeysDistinct entries) (size : sizeOf entries < n) :
    EntriesIn (fun v => Below Value.Regular n v ∧ Succeeds v.digest) (Below Value.Regular n)
      entries := by
  have sizes {e : Value × Value} (member : e ∈ entries) : sizeOf e.1 < n ∧ sizeOf e.2 < n := by
    have small := List.sizeOf_lt_of_mem member
    rcases e with ⟨key, value⟩
    simp only [Prod.mk.sizeOf_spec] at small
    dsimp only
    omega
  refine ⟨fun e member => ?_, fun e member => ?_, distinct.distinct⟩
  · exact ⟨⟨keys e member, (sizes member).1⟩, distinct.digested e member⟩
  · exact ⟨values e member, (sizes member).2⟩

/-- Equality is an equivalence on all that is regular and below a size. -/
structure Comparable (n : Nat) : Prop where
  values : Equates (Below Value.Regular n) Value.equal
  selectors : Equates (Below Selector.Regular n) Selector.equal
  filters : Equates (Below Filter.Regular n) Filter.equal
  groups : Equates (Below FilterGroup.Regular n) FilterGroup.equal
  keys : Equates (Below SortKey.Regular n) SortKey.equal
  queries : Equates (Below Query.Regular n) Query.equal

/-- What a query is compared by is regular and below a size. -/
structure Query.PartsBelow (n : Nat) (q : Query) : Prop where
  selectors : ∀ s ∈ q.selectors, Below Selector.Regular n s
  filters : ∀ f ∈ q.filters, Below Filter.Regular n f
  conjunctions : ∀ g ∈ q.conjunctions, Below FilterGroup.Regular n g
  disjunctions : ∀ g ∈ q.disjunctions, Below FilterGroup.Regular n g
  ordering : ∀ k ∈ q.ordering, Below SortKey.Regular n k
  schema : Below Value.Regular n q.schema
  onConflict : Below Value.Regular n q.onConflict
  columns : ∀ v ∈ q.columns, Below Value.Regular n v

theorem Query.partsBelow {n : Nat} {q : Query} (below : Below Query.Regular (n + 1) q) :
    q.PartsBelow n := by
  obtain ⟨⟨selectors, filters, conjunctions, disjunctions, ordering, schema, onConflict, columns⟩,
    size⟩ := below
  cases q
  simp only [Query.mk.sizeOf_spec] at size
  exact
    { selectors := Below.each selectors (by dsimp only; omega)
      filters := Below.each filters (by dsimp only; omega)
      conjunctions := Below.each conjunctions (by dsimp only; omega)
      disjunctions := Below.each disjunctions (by dsimp only; omega)
      ordering := Below.each ordering (by dsimp only; omega)
      schema := ⟨schema, by dsimp only; omega⟩
      onConflict := ⟨onConflict, by dsimp only; omega⟩
      columns := Below.each columns (by dsimp only; omega) }

namespace Comparable

variable {n : Nat} (smaller : Comparable n)
include smaller

theorem filter : Equates (Below Filter.Regular (n + 1)) Filter.equal := by
  have parts (f : Filter) (below : Below Filter.Regular (n + 1) f) :
      Below Value.Regular n f.column ∧ Below Value.Regular n f.operand := by
    obtain ⟨⟨column, operand⟩, size⟩ := below
    cases f
    simp only [Filter.mk.sizeOf_spec] at size
    exact ⟨⟨column, by dsimp only; omega⟩, operand, by dsimp only; omega⟩
  have equal : Filter.equal = fun f g => both (.ok (f.operator == g.operator))
      (both (f.column.equal g.column)
        (both (f.operand.equal g.operand) (.ok (f.negated == g.negated)))) := by
    funext f g
    cases f
    rw [Filter.equal]
  rw [equal]
  refine .both (.field Filter.operator) (.both ?_ (.both ?_ (.field Filter.negated)))
  · exact smaller.values.on Filter.column fun f below => (parts f below).1
  · exact smaller.values.on Filter.operand fun f below => (parts f below).2

theorem group : Equates (Below FilterGroup.Regular (n + 1)) FilterGroup.equal := by
  have parts (g : FilterGroup) (below : Below FilterGroup.Regular (n + 1) g) :
      ∀ q ∈ g.queries, Below Query.Regular n q := by
    obtain ⟨⟨queries⟩, size⟩ := below
    cases g
    simp only [FilterGroup.mk.sizeOf_spec] at size
    exact Below.each queries (by dsimp only; omega)
  have equal : FilterGroup.equal = fun g h => both (.ok (g.connective == h.connective))
      (both (Query.equalAll g.queries h.queries) (.ok (g.negated == h.negated))) := by
    funext g h
    cases g
    rw [FilterGroup.equal]
  rw [equal]
  refine .both (.field FilterGroup.connective) (.both ?_ (.field FilterGroup.negated))
  exact (smaller.queries.runs Query.equalAll_runs).on FilterGroup.queries parts

theorem key : Equates (Below SortKey.Regular (n + 1)) SortKey.equal := by
  have parts (k : SortKey) (below : Below SortKey.Regular (n + 1) k) :
      Below Value.Regular n k.column ∧ Below Value.Regular n k.top := by
    obtain ⟨⟨column, top⟩, size⟩ := below
    cases k
    simp only [SortKey.mk.sizeOf_spec] at size
    exact ⟨⟨column, by dsimp only; omega⟩, top, by dsimp only; omega⟩
  have equal : SortKey.equal = fun k l => both (k.column.equal l.column)
      (both (.ok ((k.direction, k.nulls) == (l.direction, l.nulls))) (k.top.equal l.top)) := by
    funext k l
    cases k
    rw [SortKey.equal]
    rfl
  rw [equal]
  refine .both ?_ (.both (.field fun k : SortKey => (k.direction, k.nulls)) ?_)
  · exact smaller.values.on SortKey.column fun k below => (parts k below).1
  · exact smaller.values.on SortKey.top fun k below => (parts k below).2

theorem query : Equates (Below Query.Regular (n + 1)) Query.equal := by
  have equal : Query.equal = fun q r =>
      both (.ok ((q.resource, q.cardinality) == (r.resource, r.cardinality)))
        (both (Selector.equalAll q.selectors r.selectors)
          (both (Filter.equalAll q.filters r.filters)
            (both (FilterGroup.equalAll q.conjunctions r.conjunctions)
              (both (FilterGroup.equalAll q.disjunctions r.disjunctions)
                (both (SortKey.equalAll q.ordering r.ordering)
                  (both (.ok ((q.window, q.preferences) == (r.window, r.preferences)))
                    (both (q.schema.equal r.schema)
                      (both (q.onConflict.equal r.onConflict)
                        (both (Value.equalAll q.columns r.columns)
                          (.ok (q.inner == r.inner))))))))))) := by
    funext q r
    cases q
    rw [Query.equal]
    rfl
  have parts {q : Query} := Query.partsBelow (n := n) (q := q)
  have selectors := smaller.selectors.runs Selector.equalAll_runs
  have groups := smaller.groups.runs FilterGroup.equalAll_runs
  rw [equal]
  refine .both (.field fun q : Query => (q.resource, q.cardinality)) (.both ?_ (.both ?_ (.both ?_
    (.both ?_ (.both ?_ (.both (.field fun q : Query => (q.window, q.preferences)) (.both ?_
      (.both ?_ (.both ?_ (.field Query.inner))))))))))
  · exact selectors.on _ fun _ below => (parts below).selectors
  · exact (smaller.filters.runs Filter.equalAll_runs).on _ fun _ below => (parts below).filters
  · exact groups.on _ fun _ below => (parts below).conjunctions
  · exact groups.on _ fun _ below => (parts below).disjunctions
  · exact (smaller.keys.runs SortKey.equalAll_runs).on _ fun _ below => (parts below).ordering
  · exact smaller.values.on _ fun _ below => (parts below).schema
  · exact smaller.values.on _ fun _ below => (parts below).onConflict
  · exact (smaller.values.runs Value.equalAll_runs).on _ fun _ below => (parts below).columns

theorem selector : Equates (Below Selector.Regular (n + 1)) Selector.equal := by
  refine .of_kinds Selector.ctorIdx (fun {s t} _ _ different => ?_) fun s below => ?_
  · unfold Selector.equal
    split <;> split <;> first | rfl | exact absurd rfl different
  have values := smaller.values
  -- Selectors of one constructor are the images of what it is applied to.
  cases s with
  | wildcard =>
    refine .image (.field (S := fun _ : Unit => True) id) (fun _ => .wildcard) ?_ fun _ _ => ?_
    · rintro t ⟨⟨regular, size⟩, kind⟩
      cases regular with
      | wildcard => exact ⟨(), trivial, rfl⟩
      | _ => cases kind
    · rw [Selector.equal]
      rfl
  | column name =>
    refine .image values .column ?_ fun _ _ => by rw [Selector.equal]
    rintro t ⟨⟨regular, size⟩, kind⟩
    cases regular with
    | column name =>
      simp only [Selector.column.sizeOf_spec] at size
      exact ⟨_, ⟨name, by omega⟩, rfl⟩
    | _ => cases kind
  | modified column name cast =>
    refine .image (values.prod (values.prod values)) (fun p => .modified p.1 p.2.1 p.2.2) ?_
      fun _ _ => by rw [Selector.equal]
    rintro t ⟨⟨regular, size⟩, kind⟩
    cases regular with
    | modified columns names casts =>
      simp only [Selector.modified.sizeOf_spec] at size
      refine ⟨⟨_, _, _⟩, ⟨⟨columns, ?_⟩, ⟨names, ?_⟩, casts, ?_⟩, rfl⟩ <;> dsimp only <;> omega
    | _ => cases kind
  | path p =>
    refine .image values .path ?_ fun _ _ => by rw [Selector.equal]
    rintro t ⟨⟨regular, size⟩, kind⟩
    cases regular with
    | path regular =>
      simp only [Selector.path.sizeOf_spec] at size
      exact ⟨_, ⟨regular, by omega⟩, rfl⟩
    | _ => cases kind
  | embedded q name =>
    refine .image (smaller.queries.prod values) (fun p => .embedded p.1 p.2) ?_
      fun _ _ => by rw [Selector.equal]
    rintro t ⟨⟨regular, size⟩, kind⟩
    cases regular with
    | embedded regular names =>
      simp only [Selector.embedded.sizeOf_spec] at size
      refine ⟨⟨_, _⟩, ⟨⟨regular, ?_⟩, names, ?_⟩, rfl⟩ <;> dsimp only <;> omega
    | _ => cases kind
  | misembedded content name =>
    refine .image (values.prod values) (fun p => .misembedded p.1 p.2) ?_
      fun _ _ => by rw [Selector.equal]
    rintro t ⟨⟨regular, size⟩, kind⟩
    cases regular with
    | misembedded regular names =>
      simp only [Selector.misembedded.sizeOf_spec] at size
      refine ⟨⟨_, _⟩, ⟨⟨regular, ?_⟩, names, ?_⟩, rfl⟩ <;> dsimp only <;> omega
    | _ => cases kind
  | invalid payload =>
    refine .image values .invalid ?_ fun _ _ => by rw [Selector.equal]
    rintro t ⟨⟨regular, size⟩, kind⟩
    cases regular with
    | invalid regular =>
      simp only [Selector.invalid.sizeOf_spec] at size
      exact ⟨_, ⟨regular, by omega⟩, rfl⟩
    | _ => cases kind
  | unwritable serial =>
    refine .image (.field (S := fun _ : Nat => True) id) .unwritable ?_ fun _ _ => by
      rw [Selector.equal]
      rfl
    rintro t ⟨⟨regular, size⟩, kind⟩
    cases regular with
    | unwritable serial => exact ⟨serial, trivial, rfl⟩
    | _ => cases kind

theorem value : Equates (Below Value.Regular (n + 1)) Value.equal := by
  refine .of_kinds Value.kind (fun _ _ => Value.equal_of_kind_ne) fun v below => ?_
  have values := smaller.values
  have items := values.runs Value.equalAll_runs
  -- Plain values are compared across constructors, the others are images as selectors are.
  cases kind : v.kind with
  | plain =>
    refine (Equates.field (S := fun _ => True) id).comap (f := fun v => (v.quantity?, v.asText?))
      (fun _ _ => trivial) fun v w left right => ?_
    exact Value.equal_of_plain left.2 right.2 left.1.1 right.1.1
  | null =>
    refine .image (.field (S := fun _ : Unit => True) id) (fun _ => .null) ?_ fun _ _ => ?_
    · rintro w ⟨⟨regular, size⟩, kind⟩
      cases regular with
      | null => exact ⟨(), trivial, rfl⟩
      | _ => cases kind
    · rw [Value.equal]
      rfl
  | bytes =>
    refine .image (.field (S := fun _ : List UInt8 => True) id) .bytes ?_ fun _ _ => by
      rw [Value.equal]
      rfl
    rintro w ⟨⟨regular, size⟩, kind⟩
    cases regular with
    | bytes bs => exact ⟨bs, trivial, rfl⟩
    | _ => cases kind
  | list =>
    refine .image (.both (.field List.length) items) .list ?_ fun _ _ => by rw [Value.equal]
    rintro w ⟨⟨regular, size⟩, kind⟩
    cases regular with
    | list each =>
      simp only [Value.list.sizeOf_spec] at size
      exact ⟨_, Below.each each (by omega), rfl⟩
    | _ => cases kind
  | tuple =>
    refine .image items .tuple ?_ fun _ _ => by rw [Value.equal]
    rintro w ⟨⟨regular, size⟩, kind⟩
    cases regular with
    | tuple each =>
      simp only [Value.tuple.sizeOf_spec] at size
      exact ⟨_, Below.each each (by omega), rfl⟩
    | _ => cases kind
  | dict =>
    refine .image (Value.entries_equate (Value.isSameKey_equates values) values) .dict ?_
      fun _ _ => by rw [Value.equal]
    rintro w ⟨⟨regular, size⟩, kind⟩
    cases regular with
    | dict keys values distinct =>
      simp only [Value.dict.sizeOf_spec] at size
      exact ⟨_, Value.entriesIn_below keys values distinct (by omega), rfl⟩
    | _ => cases kind
  | query =>
    refine .image smaller.queries .query ?_ fun _ _ => by rw [Value.equal]
    rintro w ⟨⟨regular, size⟩, kind⟩
    cases regular with
    | query regular =>
      simp only [Value.query.sizeOf_spec] at size
      exact ⟨_, ⟨regular, by omega⟩, rfl⟩
    | _ => cases kind
  | negation =>
    refine .image (.field (S := fun _ : Query × Nat => True) Prod.snd)
      (fun p => .negation p.1 p.2) ?_ fun _ _ => by rw [Value.equal]
    rintro w ⟨⟨regular, size⟩, kind⟩
    cases regular with
    | negation q serial => exact ⟨(q, serial), trivial, rfl⟩
    | _ => cases kind
  | selector =>
    refine .image smaller.selectors .selector ?_ fun _ _ => by rw [Value.equal]
    rintro w ⟨⟨regular, size⟩, kind⟩
    cases regular with
    | selector regular =>
      simp only [Value.selector.sizeOf_spec] at size
      exact ⟨_, ⟨regular, by omega⟩, rfl⟩
    | _ => cases kind
  | sortKey =>
    refine .image smaller.keys .sortKey ?_ fun _ _ => by rw [Value.equal]
    rintro w ⟨⟨regular, size⟩, kind⟩
    cases regular with
    | sortKey regular =>
      simp only [Value.sortKey.sizeOf_spec] at size
      exact ⟨_, ⟨regular, by omega⟩, rfl⟩
    | _ => cases kind

end Comparable

theorem comparable (n : Nat) : Comparable n := by
  induction n with
  | zero =>
    have none {α : Type} [SizeOf α] {regular : α → Prop} {compare : α → α → Verdict} :
        Equates (Below regular 0) compare := by
      have empty {x : α} (below : Below regular 0 x) : False := Nat.not_lt_zero _ below.2
      exact ⟨fun below => (empty below).elim, fun below => (empty below).elim,
        fun below => (empty below).elim, fun below => (empty below).elim⟩
    exact ⟨none, none, none, none, none, none⟩
  | succ n smaller =>
    exact
      { values := smaller.value
        selectors := smaller.selector
        filters := smaller.filter
        groups := smaller.group
        keys := smaller.key
        queries := smaller.query }

/-! ## All sizes -/

theorem Verdict.Equates.of_below {α : Type} [SizeOf α] {regular : α → Prop}
    {compare : α → α → Verdict} (each : ∀ n, Equates (Below regular n) compare) :
    Equates regular compare where
  total {x y} left right :=
    (each (sizeOf x + sizeOf y + 1)).total ⟨left, by omega⟩ ⟨right, by omega⟩
  refl {x} own := (each (sizeOf x + 1)).refl ⟨own, by omega⟩
  symm {x y} left right :=
    (each (sizeOf x + sizeOf y + 1)).symm ⟨left, by omega⟩ ⟨right, by omega⟩
  trans {x y z} first second third :=
    (each (sizeOf x + sizeOf y + sizeOf z + 1)).trans ⟨first, by omega⟩ ⟨second, by omega⟩
      ⟨third, by omega⟩

/-- Equality is an equivalence on regular values. -/
theorem Value.equal_equates : Equates Value.Regular Value.equal :=
  .of_below fun n => (comparable n).values

/-- Equality is an equivalence on regular queries. -/
theorem Query.equal_equates : Equates Query.Regular Query.equal :=
  .of_below fun n => (comparable n).queries

/-- Equality is an equivalence on regular selectors. -/
theorem Selector.equal_equates : Equates Selector.Regular Selector.equal :=
  .of_below fun n => (comparable n).selectors

end RestQuery
