import RestQuery.Proofs.Sequencing
import RestQuery.Selector

/-!
# The shapes that can be selected

`Value.IsModified` says which values are one item with its modifier, and `Value.Item` which shapes a
single selector has.  They are what `Selector.read` goes by: it gives a readable selector exactly
for an item (`Selector.read_readable_iff`), and by `Selector.readAll_shapes` a selection is readable
exactly if it is an item or a run of items.
-/

namespace RestQuery

/-- The selector is not an unreadable one. -/
def Selector.Readable (s : Selector) : Prop := ∀ payload, s ≠ .invalid payload

namespace Value

/-- The value is a list or a tuple with these items. -/
def IsSequence (v : Value) (items : List Value) : Prop := v = .list items ∨ v = .tuple items

/-- The value is a pair of a target and a mapping that gives a name or a cast. -/
structure IsModified (v target : Value) (entries : List (Value × Value)) : Prop where
  pair : v.IsSequence [target, .dict entries]
  modifies : (member entries "name").isGiven ∨ (member entries "cast").isGiven

/-- The shapes of a single selector: a text, a query, a selector that is not an unreadable one, a
column with a modifier, and a query with a name and no cast. -/
inductive Item : Value → Prop
  | text {v : Value} {s : String} (text : v.asText? = some s) : Item v
  | query (q : Query) : Item (.query q)
  | selector {s : Selector} (readable : s.Readable) : Item (.selector s)
  | column {v target : Value} {entries : List (Value × Value)} {s : String}
    (modified : v.IsModified target entries) (text : target.asText? = some s) (single : s ≠ "*") :
    Item v
  | renamed {v : Value} {q : Query} {entries : List (Value × Value)}
    (modified : v.IsModified (.query q) entries) (named : (member entries "name").isGiven)
    (uncast : (member entries "cast").isGiven = false) : Item v

theorem sequence?_eq_some {v : Value} {items : List Value} :
    v.sequence? = some items ↔ v.IsSequence items := by
  constructor
  · intro run
    cases v with
    | list is => exact .inl (congrArg list (Option.some.inj run))
    | tuple is => exact .inr (congrArg tuple (Option.some.inj run))
    | _ => cases run
  · rintro (rfl | rfl) <;> rfl

theorem modifierPair?_eq_some {v target : Value} {entries : List (Value × Value)} :
    v.modifierPair? = some (target, entries) ↔ v.IsModified target entries := by
  rw [modifierPair?]
  constructor
  · intro pair
    split at pair
    next target' entries' run =>
      split at pair
      next modifies =>
        cases pair
        exact ⟨sequence?_eq_some.1 run, Bool.or_eq_true_iff.1 modifies⟩
      next => cases pair
    next => cases pair
  · intro modified
    rw [sequence?_eq_some.2 modified.pair]
    exact if_pos (Bool.or_eq_true_iff.2 modified.modifies)

theorem modifierPair?_eq_none {v : Value} :
    v.modifierPair? = none ↔ ∀ target entries, ¬v.IsModified target entries := by
  simp only [Option.eq_none_iff_forall_ne_some, ne_eq, ← modifierPair?_eq_some, Prod.forall]

theorem IsSequence.unique {v : Value} {items items' : List Value} (run : v.IsSequence items)
    (run' : v.IsSequence items') : items = items' :=
  Option.some.inj ((sequence?_eq_some.2 run).symm.trans (sequence?_eq_some.2 run'))

theorem IsModified.unique {v target target' : Value} {entries entries' : List (Value × Value)}
    (modified : v.IsModified target entries) (modified' : v.IsModified target' entries') :
    target = target' ∧ entries = entries' :=
  Prod.mk.inj (Option.some.inj
    ((modifierPair?_eq_some.2 modified).symm.trans (modifierPair?_eq_some.2 modified')))

/-- A list or a tuple is neither a text nor a query nor a selector. -/
theorem IsSequence.item_iff {v : Value} {items : List Value} (run : v.IsSequence items) :
    v.Item ↔ (∃ target entries s, v.IsModified target entries ∧ target.asText? = some s ∧ s ≠ "*") ∨
      ∃ q entries, v.IsModified (.query q) entries ∧ (member entries "name").isGiven ∧
        (member entries "cast").isGiven = false := by
  constructor
  · intro item
    cases item with
    | text text => rcases run with rfl | rfl <;> cases text
    | query q => rcases run with run | run <;> cases run
    | selector readable => rcases run with run | run <;> cases run
    | column modified text single => exact .inl ⟨_, _, _, modified, text, single⟩
    | renamed modified named uncast => exact .inr ⟨_, _, modified, named, uncast⟩
  · rintro (⟨_, _, _, modified, text, single⟩ | ⟨_, _, modified, named, uncast⟩)
    · exact .column modified text single
    · exact .renamed modified named uncast

theorem IsSequence.not_item {v : Value} {items : List Value} (run : v.IsSequence items)
    (unmodified : ∀ target entries, ¬v.IsModified target entries) : ¬v.Item := by
  rw [run.item_iff]
  rintro (⟨target, entries, _, modified, _⟩ | ⟨q, entries, modified, _⟩)
  · exact unmodified target entries modified
  · exact unmodified (.query q) entries modified

theorem isGiven_givenOrNull (v : Value) : v.givenOrNull.isGiven = v.isGiven := by
  rw [givenOrNull]
  split
  · rfl
  next none => simpa [isGiven] using none

end Value

namespace Selector

/-! ## Reading one item -/

variable {given : Value}

theorem read_of_asText? {s : String} (text : given.asText? = some s) :
    read given = readText given s := by
  cases given with
  | text t | token t =>
    cases text
    rfl
  | _ => cases text

theorem read_of_modifierPair? {target : Value} {entries : List (Value × Value)}
    (pair : given.modifierPair? = some (target, entries)) :
    read given = readModified given target entries := by
  cases given with
  | list items | tuple items => simp only [read, Value.asText?, pair]
  | _ => cases pair

theorem read_of_sequence {items : List Value} (run : given.IsSequence items)
    (none : given.modifierPair? = none) : read given = .invalid (payloadOf given) := by
  rcases run with rfl | rfl <;> simp only [read, Value.asText?, none]

/-- A single item is the selector that it is, an embedding, a text, an item with its modifier, or
nothing that can be read. -/
theorem read_cases {motive : Selector → Prop} (selector : ∀ s, given = .selector s → motive s)
    (query : ∀ q, given = .query q → motive (.embedded q .null))
    (text : ∀ s, given.asText? = some s → motive (readText given s))
    (modified : ∀ target entries, given.IsModified target entries →
      motive (readModified given target entries))
    (unreadable : motive (.invalid (payloadOf given))) : motive (read given) := by
  have sequence {items : List Value} (run : given.IsSequence items) : motive (read given) := by
    cases pair : given.modifierPair? with
    | none =>
      rw [read_of_sequence run pair]
      exact unreadable
    | some modifier =>
      rw [read_of_modifierPair? pair]
      exact modified _ _ (Value.modifierPair?_eq_some.1 pair)
  cases given with
  | selector s => exact selector s rfl
  | query q => exact query q rfl
  | text s => exact text s rfl
  | token t => exact text t.word rfl
  | list items => exact sequence (.inl rfl)
  | tuple items => exact sequence (.inr rfl)
  | _ => exact unreadable

/-- Where only some items are let through, one that can be read is the selector that it is or a
text. -/
theorem readJson_cases {motive : Selector → Prop} {s : Selector} (made : readJson given = .ok s)
    (selector : given = .selector s → motive s)
    (text : ∀ t, given.asText? = some t → motive (readText given t))
    (unreadable : motive (.invalid (payloadOf given))) : motive s := by
  cases given with
  | selector s' =>
    cases s' with
    | column name =>
      cases made
      exact selector rfl
    | path p =>
      obtain ⟨asText, _, made⟩ := bind_eq_ok.1 made
      cases asText <;> cases made
      · exact selector rfl
      · exact unreadable
    | _ =>
      cases made
      exact unreadable
  | text t | token t =>
    cases made
    rw [readJsonText]
    split
    · exact unreadable
    · exact text _ rfl
  | _ =>
    cases made
    exact unreadable

/-- A text asks for all columns, for a path or for a column. -/
theorem readText_cases {motive : Selector → Prop} (given : Value) (s : String)
    (wildcard : motive .wildcard) (path : motive (.path given)) (column : motive (.column given)) :
    motive (readText given s) := by
  rw [readText]
  split
  · exact wildcard
  · split
    · exact path
    · exact column

theorem not_readable_invalid (payload : Value) : ¬(invalid payload).Readable :=
  fun readable => readable payload rfl

theorem readable_readText (given : Value) (s : String) : (readText given s).Readable :=
  readText_cases given s (fun _ => Selector.noConfusion) (fun _ => Selector.noConfusion)
    fun _ => Selector.noConfusion

/-- A modified item is readable if it is a column, or a query that is renamed and not cast. -/
theorem readModified_readable_iff {target : Value} {entries : List (Value × Value)} :
    (readModified given target entries).Readable ↔
      (∃ s, target.asText? = some s ∧ s ≠ "*") ∨
        ∃ q, target = .query q ∧ (Value.member entries "name").isGiven ∧
          (Value.member entries "cast").isGiven = false := by
  have invalid (other : ∀ q, target ≠ .query q) (untext : ∀ s, target.asText? = some s → s = "*") :
      ¬((∃ s, target.asText? = some s ∧ s ≠ "*") ∨
        ∃ q, target = .query q ∧ (Value.member entries "name").isGiven ∧
          (Value.member entries "cast").isGiven = false) := by
    rintro (⟨s, text, single⟩ | ⟨q, same, _⟩)
    · exact single (untext s text)
    · exact other q same
  cases target with
  | query q =>
    have renamed : (∃ s, (Value.query q).asText? = some s ∧ s ≠ "*") ∨
        (∃ q', Value.query q = .query q' ∧ (Value.member entries "name").isGiven ∧
          (Value.member entries "cast").isGiven = false) ↔
        ((Value.member entries "name").isGiven && !(Value.member entries "cast").isGiven) := by
      simp [Value.asText?]
    rw [renamed]
    simp only [readModified, Value.isGiven_givenOrNull]
    split
    next given => exact iff_of_true (fun _ same => nomatch same) given
    next absent => exact iff_of_false (not_readable_invalid _) absent
  | text s | token t =>
    simp only [readModified, Value.asText?]
    split
    next all =>
      refine iff_of_false (not_readable_invalid _) (invalid (fun _ same => nomatch same) ?_)
      exact fun s text => (Option.some.inj text).symm.trans all
    next single =>
      exact iff_of_true (fun _ same => nomatch same) (.inl ⟨_, rfl, single⟩)
  | _ =>
    exact iff_of_false (not_readable_invalid _)
      (invalid (fun _ same => nomatch same) fun _ text => nomatch text)

theorem read_readable_iff_of_sequence {items : List Value} (run : given.IsSequence items) :
    (read given).Readable ↔ given.Item := by
  cases pair : given.modifierPair? with
  | none =>
    rw [read_of_sequence run pair]
    exact iff_of_false (not_readable_invalid _) (run.not_item (Value.modifierPair?_eq_none.1 pair))
  | some modifier =>
    obtain ⟨target, entries⟩ := modifier
    have modified := Value.modifierPair?_eq_some.1 pair
    rw [read_of_modifierPair? pair, readModified_readable_iff, run.item_iff]
    constructor
    · rintro (⟨s, text, single⟩ | ⟨q, rfl, named⟩)
      · exact .inl ⟨target, entries, s, modified, text, single⟩
      · exact .inr ⟨q, entries, modified, named⟩
    · rintro (⟨target', entries', s, modified', read⟩ | ⟨q, entries', modified', read⟩)
      · obtain ⟨rfl, rfl⟩ := modified.unique modified'
        exact .inl ⟨s, read⟩
      · obtain ⟨rfl, rfl⟩ := modified.unique modified'
        exact .inr ⟨q, rfl, read⟩

/-- A single item is readable exactly if it has one of the shapes of a selector. -/
theorem read_readable_iff (v : Value) : (read v).Readable ↔ v.Item := by
  cases v with
  | text s | token t =>
    rw [read_of_asText? rfl]
    exact iff_of_true (readable_readText _ _) (.text rfl)
  | query q => exact iff_of_true (fun _ same => nomatch same) (.query q)
  | selector s =>
    refine ⟨.selector, fun item => ?_⟩
    cases item with
    | text text => cases text
    | selector readable => exact readable
    | column modified => rcases modified.pair with pair | pair <;> cases pair
    | renamed modified => rcases modified.pair with pair | pair <;> cases pair
  | list items => exact read_readable_iff_of_sequence (.inl rfl)
  | tuple items => exact read_readable_iff_of_sequence (.inr rfl)
  | _ =>
    refine iff_of_false (not_readable_invalid _) fun item => ?_
    cases item with
    | text text => cases text
    | column modified => rcases modified.pair with pair | pair <;> cases pair
    | renamed modified => rcases modified.pair with pair | pair <;> cases pair

/-! ## Reading a selection -/

theorem readAll_of_sequence {items : List Value} (run : given.IsSequence items)
    (unmodified : ∀ target entries, ¬given.IsModified target entries) :
    readAll given = items.map read := by
  rw [readAll, itemsOf, Value.sequence?_eq_some.2 run, Value.modifierPair?_eq_none.2 unmodified]

theorem readAll_of_single
    (single : (∀ items, ¬given.IsSequence items) ∨
      ∃ target entries, given.IsModified target entries) :
    readAll given = [read given] := by
  rw [readAll, itemsOf]
  split
  next items run none =>
    refine absurd single (not_or.2 ⟨fun other => ?_, ?_⟩)
    · exact other items (Value.sequence?_eq_some.1 run)
    · simpa using Value.modifierPair?_eq_none.1 none
  next => rfl

/-- A list or a tuple that is no modified item is read item by item, and anything else as one item.
What is read is readable exactly if the value is an item, or such a list or tuple with items
throughout. -/
theorem readAll_shapes (v : Value) :
    (∀ items, v.IsSequence items → (∀ target entries, ¬v.IsModified target entries) →
      readAll v = items.map read ∧ (readAll v).length = items.length) ∧
    ((∀ items, ¬v.IsSequence items) ∨ (∃ target entries, v.IsModified target entries) →
      readAll v = [read v] ∧ (readAll v).length = 1) ∧
    ((∀ s ∈ readAll v, s.Readable) ↔ v.Item ∨
      ∃ items, v.IsSequence items ∧ (∀ target entries, ¬v.IsModified target entries) ∧
        ∀ i ∈ items, i.Item) := by
  refine ⟨fun items run unmodified => ?_, fun single => ?_, ?_⟩
  · rw [readAll_of_sequence run unmodified, List.length_map]
    exact ⟨rfl, rfl⟩
  · rw [readAll_of_single single]
    exact ⟨rfl, rfl⟩
  · by_cases single : (∀ items, ¬v.IsSequence items) ∨ ∃ target entries, v.IsModified target entries
    · rw [readAll_of_single single, List.forall_mem_singleton, read_readable_iff]
      refine (or_iff_left ?_).symm
      rintro ⟨items, run, unmodified, _⟩
      rcases single with other | ⟨target, entries, modified⟩
      · exact other items run
      · exact unmodified target entries modified
    · obtain ⟨other, unmodified⟩ := not_or.1 single
      simp only [not_forall, not_not] at other
      simp only [not_exists] at unmodified
      obtain ⟨items, run⟩ := other
      rw [readAll_of_sequence run unmodified, List.forall_mem_map,
        or_iff_right (run.not_item unmodified)]
      simp only [read_readable_iff]
      refine ⟨fun each => ⟨items, run, unmodified, each⟩, ?_⟩
      rintro ⟨items', run', _, each⟩
      rwa [run.unique run']

/-- A mapping that gives nothing is no modifier but a second item. -/
example : readAll (.list [.text "id", .dict [(.text "name", .text "")]]) =
    [.column (.text "id"), .invalid (.dict [(.text "name", .text "")])] := rfl

end Selector

end RestQuery
