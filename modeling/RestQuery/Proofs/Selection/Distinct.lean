import RestQuery.Proofs.Call.Selection
import RestQuery.Proofs.Selection.Shapes
import RestQuery.Proofs.Value.Equivalence

/-!
# Distinct selectors

Selectors that are read from regular values are regular, so they can all be compared
(`Call.regular_of_selection`).  Of all that is read, a query keeps the first occurrences: what is
equal to nothing that was read before it (`Selector.FirstOccurrences`).  By
`Call.selectors_firstOccurrences` this holds after every run of calls, no two selectors of a query
are equal, and selecting again what was selected once changes nothing.
-/

namespace RestQuery

/-! ## Regular selectors -/

namespace Value.Regular

variable {v : Value}

theorem payloadOf (regular : v.Regular) : (Selector.payloadOf v).Regular := by
  unfold Selector.payloadOf
  split
  · cases regular with
    | list each => exact .tuple each
  · exact regular

theorem givenOrNull (regular : v.Regular) : v.givenOrNull.Regular := by
  rw [Value.givenOrNull]
  split
  · exact regular
  · exact .null

theorem member {entries : List (Value × Value)} (values : ∀ e ∈ entries, e.2.Regular)
    (name : String) : (member entries name).Regular := by
  rw [Value.member, member?]
  cases found : entries.find? fun e => e.1.isKey name with
  | none => exact .null
  | some e => exact values e (List.mem_of_find?_eq_some found)

theorem items {items : List Value} (run : v.IsSequence items) (regular : v.Regular) :
    ∀ i ∈ items, i.Regular := by
  rcases run with rfl | rfl
  · cases regular with
    | list each => exact each
  · cases regular with
    | tuple each => exact each

/-- The values that a modifier gives are regular. -/
theorem modifier {target : Value} {entries : List (Value × Value)}
    (modified : v.IsModified target entries) (regular : v.Regular) :
    target.Regular ∧ ∀ name, (Value.member entries name).Regular := by
  have parts := items modified.pair regular
  have entered : (Value.dict entries).Regular := parts _ (by simp)
  cases entered with
  | dict keys values distinct => exact ⟨parts target (by simp), member values⟩

end Value.Regular

/-- A list of one item is no modified item. -/
theorem Value.not_isModified_singleton {v : Value} (target : Value)
    (entries : List (Value × Value)) : ¬(Value.list [v]).IsModified target entries := by
  intro modified
  rcases modified.pair with pair | pair <;> cases pair

namespace Selector

variable {given : Value}

theorem regular_readText (regular : given.Regular) (s : String) : (readText given s).Regular :=
  readText_cases given s .wildcard (.path regular) (.column regular)

theorem regular_readModified {target : Value} {entries : List (Value × Value)}
    (modified : given.IsModified target entries) (regular : given.Regular) :
    (readModified given target entries).Regular := by
  obtain ⟨targeted, members⟩ := regular.modifier modified
  have unreadable : (invalid (payloadOf given)).Regular := .invalid regular.payloadOf
  cases targeted with
  | query queried =>
    rw [readModified]
    split
    · exact .embedded queried (members "name").givenOrNull
    · exact unreadable
  | text s | token t =>
    simp only [readModified, Value.asText?]
    split
    · exact unreadable
    · exact .modified (by constructor) (members "name").givenOrNull (members "cast").givenOrNull
  | _ => exact unreadable

theorem regular_of_selector {s : Selector} (regular : (Value.selector s).Regular) : s.Regular := by
  cases regular with
  | selector regular => exact regular

theorem regular_read (regular : given.Regular) : (read given).Regular := by
  refine read_cases ?_ ?_ (fun s _ => regular_readText regular s)
    (fun target entries modified => regular_readModified modified regular)
    (.invalid regular.payloadOf)
  · rintro s rfl
    exact regular_of_selector regular
  · rintro q rfl
    cases regular with
    | query regular => exact .embedded regular .null

theorem regular_readJson (regular : given.Regular) {s : Selector}
    (made : readJson given = .ok s) : s.Regular := by
  refine readJson_cases made ?_ (fun t _ => regular_readText regular t) (.invalid regular.payloadOf)
  rintro rfl
  exact regular_of_selector regular

theorem readAllJson_of_sequence {items : List Value} (run : given.IsSequence items)
    (unmodified : ∀ target entries, ¬given.IsModified target entries) :
    readAllJson given = items.mapM readJson := by
  rw [readAllJson, itemsOf, Value.sequence?_eq_some.2 run, Value.modifierPair?_eq_none.2 unmodified]

/-! ## First occurrences -/

/-- What is kept of selectors that come after others: the first of all that are equal. -/
inductive FirstOccurrences : List Selector → List Selector → List Selector → Prop
  | nil (before : List Selector) : FirstOccurrences before [] []
  | first {before ss kept : List Selector} {s : Selector}
    (new : ∀ t ∈ before, t.equal s = .ok false) (rest : FirstOccurrences (before ++ [s]) ss kept) :
    FirstOccurrences before (s :: ss) (s :: kept)
  | repeated {before ss kept : List Selector} {s t : Selector} (earlier : t ∈ before)
    (same : t.equal s = .ok true) (rest : FirstOccurrences (before ++ [s]) ss kept) :
    FirstOccurrences before (s :: ss) kept

namespace FirstOccurrences

variable {before ss kept : List Selector}

theorem subset (firsts : FirstOccurrences before ss kept) : ∀ s ∈ kept, s ∈ ss := by
  induction firsts with
  | nil => exact fun s none => none
  | first _ _ ih =>
    refine List.forall_mem_cons.2 ⟨List.mem_cons_self, fun s member => ?_⟩
    exact List.mem_cons_of_mem _ (ih s member)
  | repeated _ _ _ ih => exact fun s member => List.mem_cons_of_mem _ (ih s member)

/-- What is kept is equal neither to anything before it nor to one another. -/
theorem different (firsts : FirstOccurrences before ss kept) :
    (∀ t ∈ before, ∀ s ∈ kept, t.equal s = .ok false) ∧
      kept.Pairwise fun s t => s.equal t = .ok false := by
  induction firsts with
  | nil => exact ⟨fun _ _ _ none => absurd none List.not_mem_nil, .nil⟩
  | first new _ ih =>
    obtain ⟨apart, among⟩ := ih
    refine ⟨fun t earlier => List.forall_mem_cons.2 ⟨new t earlier, ?_⟩, .cons ?_ among⟩
    · exact apart t (List.mem_append_left _ earlier)
    · exact apart _ (List.mem_append_right _ (List.mem_singleton.2 rfl))
  | repeated _ _ _ ih =>
    obtain ⟨apart, among⟩ := ih
    exact ⟨fun t earlier => apart t (List.mem_append_left _ earlier), among⟩

/-- Nothing is lost: all that comes is equal to something that is kept or was there before. -/
theorem represented (firsts : FirstOccurrences before ss kept)
    (regular : ∀ s ∈ before, s.Regular) (regular' : ∀ s ∈ ss, s.Regular) :
    ∀ s ∈ ss, ∃ t ∈ before ++ kept, t.equal s = .ok true := by
  induction firsts with
  | nil => exact List.forall_mem_nil _
  | @first before ss kept s new rest ih =>
    obtain ⟨own, others⟩ := List.forall_mem_cons.1 regular'
    refine List.forall_mem_cons.2 ⟨⟨s, by simp, equal_equates.refl own⟩, ?_⟩
    simpa using ih (List.forall_mem_append.2 ⟨regular, List.forall_mem_singleton.2 own⟩) others
  | @repeated before ss kept s u earlier same rest ih =>
    obtain ⟨own, others⟩ := List.forall_mem_cons.1 regular'
    refine List.forall_mem_cons.2 ⟨⟨u, List.mem_append_left _ earlier, same⟩, fun s' later => ?_⟩
    obtain ⟨t, member, equal⟩ :=
      ih (List.forall_mem_append.2 ⟨regular, List.forall_mem_singleton.2 own⟩) others s' later
    rw [List.append_assoc, List.mem_append, List.mem_append, List.mem_singleton] at member
    rcases member with inside | rfl | inside
    · exact ⟨t, List.mem_append_left _ inside, equal⟩
    · -- What is left out is equal to something before it.
      have linked := equal_equates.trans (regular u earlier) own (others s' later) same equal
      exact ⟨u, List.mem_append_left _ earlier, linked⟩
    · exact ⟨t, List.mem_append_right _ inside, equal⟩

end FirstOccurrences

/-! ## Looking for a selector -/

section Among

variable {s : Selector} {present : List Selector}

theorem not_among (absent : s.among present = .ok false) :
    ∀ t ∈ present, t.equal s = .ok false := by
  induction present with
  | nil => exact List.forall_mem_nil _
  | cons t ts ih =>
    rw [among] at absent
    split at absent
    next different => exact List.forall_mem_cons.2 ⟨different, ih absent⟩
    next other => exact absurd absent (other ·)

variable (regular : ∀ t ∈ present, t.Regular) (own : s.Regular)
include regular own

theorem among_total : Succeeds (s.among present) := by
  induction present with
  | nil => exact ⟨false, rfl⟩
  | cons t ts ih =>
    obtain ⟨first, others⟩ := List.forall_mem_cons.1 regular
    obtain ⟨same, told⟩ := equal_equates.total first own
    rw [among, told]
    cases same with
    | true => exact ⟨true, rfl⟩
    | false => exact ih others

theorem among_iff : s.among present = .ok true ↔ ∃ t ∈ present, t.equal s = .ok true := by
  induction present with
  | nil => simp [among]
  | cons t ts ih =>
    obtain ⟨first, others⟩ := List.forall_mem_cons.1 regular
    obtain ⟨same, told⟩ := equal_equates.total first own
    simp only [among, told, List.mem_cons, exists_eq_or_imp]
    cases same with
    | true => simp
    | false => simpa using ih others

end Among

end Selector

/-! ## Adding selectors -/

namespace Call

open Selector (FirstOccurrences among_total among_iff not_among equal_equates)

variable {write : QueryText} {pageSize : Value} {q r : Query}

theorem addSelectors_repeated {present further : List Selector} {s : Selector}
    (repeated : s.among present = .ok true) :
    addSelectors present (s :: further) = addSelectors present further := by
  rw [addSelectors_cons, repeated]
  rfl

theorem addSelectors_new {present further : List Selector} {s : Selector}
    (new : s.among present = .ok false) :
    addSelectors present (s :: further) = addSelectors (present ++ [s]) further := by
  rw [addSelectors_cons, new]
  rfl

/-- If some selectors stand for all that was read before, the first occurrences of what is read next
are added to them. -/
theorem addSelectors_firstOccurrences {before present further : List Selector}
    (regular : ∀ s ∈ before, s.Regular) (regular' : ∀ s ∈ further, s.Regular)
    (within : ∀ t ∈ present, t ∈ before)
    (represented : ∀ s ∈ before, ∃ t ∈ present, t.equal s = .ok true) :
    ∃ new, addSelectors present further = .ok (present ++ new) ∧
      FirstOccurrences before further new := by
  induction further generalizing before present with
  | nil => exact ⟨[], by rw [addSelectors_nil, List.append_nil], .nil before⟩
  | cons s further ih =>
    obtain ⟨own, others⟩ := List.forall_mem_cons.1 regular'
    have known : ∀ t ∈ present, t.Regular := fun t member => regular t (within t member)
    have read := List.forall_mem_append.2 ⟨regular, List.forall_mem_singleton.2 own⟩
    obtain ⟨repeated, told⟩ := among_total known own
    cases repeated with
    | true =>
      obtain ⟨t, member, same⟩ := (among_iff known own).1 told
      have stand : ∀ s' ∈ before ++ [s], ∃ t ∈ present, t.equal s' = .ok true :=
        List.forall_mem_append.2 ⟨represented, List.forall_mem_singleton.2 ⟨t, member, same⟩⟩
      obtain ⟨new, added, firsts⟩ := ih read others
        (fun t member => List.mem_append_left _ (within t member)) stand
      rw [addSelectors_repeated told]
      exact ⟨new, added, .repeated (within t member) same firsts⟩
    | false =>
      have different := not_among told
      have fresh : ∀ b ∈ before, b.equal s = .ok false := by
        intro b earlier
        refine equal_equates.eq_ok_false (regular b earlier) own fun same => ?_
        obtain ⟨t, member, equal⟩ := represented b earlier
        have linked := equal_equates.trans (known t member) (regular b earlier) own equal same
        cases linked.symm.trans (different t member)
      have stand : ∀ s' ∈ before ++ [s], ∃ t ∈ present ++ [s], t.equal s' = .ok true := by
        refine List.forall_mem_append.2 ⟨fun b earlier => ?_, List.forall_mem_singleton.2 ?_⟩
        · obtain ⟨t, member, equal⟩ := represented b earlier
          exact ⟨t, List.mem_append_left _ member, equal⟩
        · exact ⟨s, by simp, equal_equates.refl own⟩
      have inside : ∀ t ∈ present ++ [s], t ∈ before ++ [s] :=
        List.forall_mem_append.2 ⟨fun t member => List.mem_append_left _ (within t member),
          fun t last => List.mem_append_right _ last⟩
      obtain ⟨new, added, firsts⟩ := ih read others inside stand
      refine ⟨s :: new, ?_, .first fresh firsts⟩
      rw [addSelectors_new told, added, List.append_assoc]
      rfl

/-- Regular selectors can be added to regular ones. -/
theorem addSelectors_total {present further : List Selector} (regular : ∀ s ∈ present, s.Regular)
    (regular' : ∀ s ∈ further, s.Regular) : Succeeds (addSelectors present further) := by
  obtain ⟨new, added, _⟩ := addSelectors_firstOccurrences regular regular' (fun _ member => member)
    fun s member => ⟨s, member, equal_equates.refl (regular s member)⟩
  exact ⟨_, added⟩

/-- What is represented already is not added. -/
theorem addSelectors_of_represented {present further : List Selector}
    (regular : ∀ s ∈ present, s.Regular) (regular' : ∀ s ∈ further, s.Regular)
    (represented : ∀ s ∈ further, ∃ t ∈ present, t.equal s = .ok true) :
    addSelectors present further = .ok present := by
  induction further with
  | nil => rfl
  | cons s further ih =>
    obtain ⟨own, others⟩ := List.forall_mem_cons.1 regular'
    obtain ⟨found, rest⟩ := List.forall_mem_cons.1 represented
    rw [addSelectors_repeated ((among_iff regular own).2 found)]
    exact ih others rest

/-! ## Calls -/

/-- A call that selects adds what it reads. -/
theorem apply_of_selection {c : Call} (selecting : c.channel = .selection) :
    apply write pageSize q c = (do
      return { q with selectors := ← addSelectors q.selectors (← c.selection) }) := by
  cases c with
  | select given => rfl
  | selectJson given => rfl
  | group connective children negated => cases connective <;> cases selecting
  | _ => cases selecting

/-- What is read from regular values is regular. -/
theorem regular_of_selection {c : Call} (regular : ∀ v ∈ c.selects, v.Regular)
    {read : List Selector} (parsed : c.selection = .ok read) : ∀ s ∈ read, s.Regular := by
  cases c with
  | select given =>
    cases parsed
    intro s member
    obtain ⟨v, item, rfl⟩ := List.mem_map.1 member
    exact Selector.regular_read (regular v item)
  | selectJson given =>
    have each v (item : v ∈ Selector.itemsOf given) s (made : Selector.readJson v = .ok s) :=
      Selector.regular_readJson (regular v item) made
    exact forall_of_mapM_eq_ok each parsed
  | _ =>
    cases parsed
    exact List.forall_mem_nil _

theorem with_own_selectors {ss : List Selector} (own : ss = q.selectors) :
    { q with selectors := ss } = q := by
  subst own
  cases q
  rfl

/-- Selecting items at once is selecting them one by one, as lists of one item. -/
theorem run_select_each (items : List Value) :
    run write pageSize q (items.map fun v => .select (.list [v])) = (do
      return { q with selectors := ← addSelectors q.selectors (items.map Selector.read) }) := by
  induction items generalizing q with
  | nil => exact congrArg Except.ok (with_own_selectors rfl).symm
  | cons v items ih =>
    have single : apply write pageSize q (.select (.list [v])) = (do
        return { q with selectors := ← addSelectors q.selectors [Selector.read v] }) := by
      rw [apply, Selector.readAll_of_sequence (.inl rfl) Value.not_isModified_singleton]
      rfl
    have split : Selector.read v :: items.map Selector.read =
        [Selector.read v] ++ items.map Selector.read := rfl
    rw [List.map_cons, run_cons, single, List.map_cons, split, addSelectors_append]
    cases addSelectors q.selectors [Selector.read v] with
    | error cause => rfl
    | ok kept => exact ih

/-- So it is where only some items are let through, if what is read can be compared. -/
theorem run_selectJson_each {items : List Value} (regular : ∀ v ∈ items, v.Regular)
    (selected : ∀ s ∈ q.selectors, s.Regular) :
    run write pageSize q (items.map fun v => .selectJson (.list [v])) = (do
      return { q with
        selectors := ← addSelectors q.selectors (← items.mapM Selector.readJson) }) := by
  induction items generalizing q with
  | nil => exact congrArg Except.ok (with_own_selectors rfl).symm
  | cons v items ih =>
    obtain ⟨own, others⟩ := List.forall_mem_cons.1 regular
    have single : apply write pageSize q (.selectJson (.list [v])) = (do
        return { q with selectors := ← addSelectors q.selectors [← Selector.readJson v] }) := by
      rw [apply, Selector.readAllJson_of_sequence (.inl rfl) Value.not_isModified_singleton]
      cases made : Selector.readJson v <;> simp [made]
    rw [List.map_cons, run_cons, single, List.mapM_cons]
    cases made : Selector.readJson v with
    | error cause => rfl
    | ok s =>
      have read := List.forall_mem_singleton.2 (Selector.regular_readJson own made)
      obtain ⟨kept, added⟩ := addSelectors_total selected read
      have known : ∀ t ∈ kept, t.Regular := by
        intro t member
        rcases mem_of_addSelectors added member with before | new
        · exact selected t before
        · exact read t new
      have rest := ih (q := { q with selectors := kept }) others known
      simp only [ok_bind, added, pure_bind, bind_assoc] at rest ⊢
      refine rest.trans ?_
      congr 1
      funext ss
      have split : s :: ss = [s] ++ ss := rfl
      rw [split, addSelectors_append, added]
      rfl

/-! ## Runs -/

/-- The selectors of a query are the first occurrences of what was read, all of it regular. -/
structure Collected (q : Query) (read : List Selector) : Prop where
  regular : ∀ s ∈ read, s.Regular
  firsts : FirstOccurrences [] read q.selectors

theorem collected_of_run {resource : String} {cardinality : Cardinality} {calls : List Call}
    (regular : ∀ c ∈ calls, ∀ v ∈ c.selects, v.Regular)
    (made : run write pageSize (.ofResource resource cardinality) calls = .ok q) :
    ∃ read, calls.flatMapM selection = .ok read ∧ Collected q read := by
  obtain ⟨read, parsed, added⟩ := selectors_of_run made
  have known : ∀ s ∈ read, s.Regular :=
    forall_of_flatMapM_eq_ok (fun c member own => regular_of_selection (regular c member)) parsed
  have none {motive : Selector → Prop} :
      ∀ s ∈ (Query.ofResource resource cardinality).selectors, motive s :=
    List.forall_mem_nil _
  obtain ⟨kept, added', firsts⟩ := addSelectors_firstOccurrences none known none none
  obtain rfl : q.selectors = kept := Except.ok.inj (added.symm.trans added')
  exact ⟨read, parsed, known, firsts⟩

namespace Collected

variable {read : List Selector} (collected : Collected q read)
include collected

theorem selected : ∀ s ∈ q.selectors, s.Regular :=
  fun s member => collected.regular s (collected.firsts.subset s member)

theorem represented : ∀ s ∈ read, ∃ t ∈ q.selectors, t.equal s = .ok true :=
  collected.firsts.represented (List.forall_mem_nil _) collected.regular

theorem different :
    q.selectors.Pairwise fun s t => s.equal t = .ok false ∧ t.equal s = .ok false := by
  refine collected.firsts.different.2.imp_of_mem fun {s t} left right apart => ⟨apart, ?_⟩
  have known := collected.selected
  exact equal_equates.eq_ok_false_comm (known s left) (known t right) apart

/-- What can be read can be selected. -/
theorem apply_succeeds {c : Call} (selecting : c.channel = .selection)
    (regular : ∀ v ∈ c.selects, v.Regular) (parses : Succeeds c.selection) :
    Succeeds (apply write pageSize q c) := by
  obtain ⟨own, parsed⟩ := parses
  rw [apply_of_selection selecting, parsed, ok_bind]
  have total := addSelectors_total collected.selected (regular_of_selection regular parsed)
  exact total.bind fun kept => .pure _

/-- What was read already is not selected again. -/
theorem apply_again {c : Call} (selecting : c.channel = .selection) {own : List Selector}
    (parsed : c.selection = .ok own) (within : ∀ s ∈ own, s ∈ read) :
    apply write pageSize q c = .ok q := by
  have regular : ∀ s ∈ own, s.Regular := fun s member => collected.regular s (within s member)
  have again := addSelectors_of_represented collected.selected regular
    fun s member => collected.represented s (within s member)
  rw [apply_of_selection selecting, parsed, ok_bind, again]
  exact congrArg Except.ok (with_own_selectors rfl)

end Collected

/-- After a run of calls that select regular values, the selectors of a fresh query are the first
occurrences of all that the calls read, in order: nothing is lost, and no two of them are equal.
Any further selection succeeds if its values can be read; one that was made already changes nothing,
and a list or a tuple that is no modified item can be selected item by item. -/
theorem selectors_firstOccurrences {resource : String} {cardinality : Cardinality}
    {calls : List Call} (regular : ∀ c ∈ calls, ∀ v ∈ c.selects, v.Regular)
    (made : run write pageSize (.ofResource resource cardinality) calls = .ok q) :
    (∃ read, calls.flatMapM selection = .ok read ∧ FirstOccurrences [] read q.selectors ∧
      ∀ s ∈ read, ∃ t ∈ q.selectors, t.equal s = .ok true) ∧
    (q.selectors.Pairwise fun s t => s.equal t = .ok false ∧ t.equal s = .ok false) ∧
    (∀ c : Call, c.channel = .selection → (∀ v ∈ c.selects, v.Regular) → Succeeds c.selection →
      Succeeds (apply write pageSize q c)) ∧
    (∀ c ∈ calls, c.channel = .selection → apply write pageSize q c = .ok q) ∧
    ∀ given items, given.IsSequence items → (∀ target entries, ¬given.IsModified target entries) →
      apply write pageSize q (.select given) =
        run write pageSize q (items.map fun v => .select (.list [v])) ∧
      ((∀ v ∈ items, v.Regular) → apply write pageSize q (.selectJson given) =
        run write pageSize q (items.map fun v => .selectJson (.list [v]))) := by
  obtain ⟨read, parsed, collected⟩ := collected_of_run regular made
  refine ⟨⟨read, parsed, collected.firsts, collected.represented⟩, collected.different, ?_, ?_, ?_⟩
  · intro c selecting values parses
    exact collected.apply_succeeds selecting values parses
  · intro c member selecting
    obtain ⟨own, parsed', within⟩ := exists_of_flatMapM_eq_ok parsed member
    exact collected.apply_again selecting parsed' within
  · intro given items sequence unmodified
    refine ⟨?_, fun values => ?_⟩
    · rw [run_select_each, apply, Selector.readAll_of_sequence sequence unmodified]
    · rw [run_selectJson_each values collected.selected, apply,
        Selector.readAllJson_of_sequence sequence unmodified]

/-- The numbers and the titles of films. -/
def filmTitles : Query :=
  { Query.ofResource "films" .many with
    selectors := [.column (.text "id"), .column (.text "title")] }

/-- A number that is selected twice stays once, and so do both columns when selected again. -/
theorem selectors_firstOccurrences_filmTitles :
    run (fun _ => .ok "") .null (.ofResource "films" .many)
        [.select (.list [.text "id", .text "title"]), .selectJson (.text "id")] = .ok filmTitles ∧
      FirstOccurrences [] [.column (.text "id"), .column (.text "title"), .column (.text "id")]
        filmTitles.selectors ∧
      apply (fun _ => .ok "") .null filmTitles (.select (.list [.text "id", .text "title"])) =
        .ok filmTitles := by
  have compared (s t : String) : (Selector.column (.text s)).equal (.column (.text t)) =
      .ok (s == t) := by
    rw [Selector.equal, Value.equal_of_asText? rfl rfl]
  have title : (Selector.column (.text "title")).among [.column (.text "id")] = .ok false := by
    rw [Selector.among, compared]
    rfl
  have id : (Selector.column (.text "id")).among [.column (.text "id"), .column (.text "title")] =
      .ok true := by
    rw [Selector.among, compared]
    rfl
  have both : addSelectors [] [.column (.text "id"), .column (.text "title")] =
      .ok filmTitles.selectors := by
    rw [addSelectors_new rfl, List.nil_append, addSelectors_new title, addSelectors_nil]
    rfl
  have first : apply (fun _ => .ok "") .null (.ofResource "films" .many)
      (.select (.list [.text "id", .text "title"])) = .ok filmTitles :=
    congrArg (fun added => do
      return { Query.ofResource "films" .many with selectors := ← added }) both
  have second : apply (fun _ => .ok "") .null filmTitles (.selectJson (.text "id")) =
      .ok filmTitles :=
    congrArg (fun added => do return { filmTitles with selectors := ← added })
      (addSelectors_repeated id)
  have made : run (fun _ => .ok "") .null (.ofResource "films" .many)
      [.select (.list [.text "id", .text "title"]), .selectJson (.text "id")] = .ok filmTitles := by
    rw [run_cons, first, ok_bind, run_cons, second]
    rfl
  have regular : ∀ c ∈ [Call.select (.list [.text "id", .text "title"]), .selectJson (.text "id")],
      ∀ v ∈ c.selects, v.Regular :=
    List.forall_mem_cons.2
      ⟨List.forall_mem_cons.2 ⟨.text "id", List.forall_mem_singleton.2 (.text "title")⟩,
        List.forall_mem_singleton.2 (List.forall_mem_singleton.2 (.text "id"))⟩
  obtain ⟨⟨read, parsed, firsts, _⟩, _, _, again, _⟩ := selectors_firstOccurrences regular made
  cases parsed
  exact ⟨made, firsts, again _ List.mem_cons_self rfl⟩

end Call

end RestQuery
