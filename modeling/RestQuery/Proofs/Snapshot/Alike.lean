import RestQuery.Proofs.Filter.Arrangement
import RestQuery.Proofs.Snapshot.Fields
import RestQuery.Proofs.Value.TextKey

/-!
# Alike queries

Two queries can be written alike although they differ: in the selector by which a text was selected,
in the order in which filters of different operators were added, or in whether an operand was a text
or a decimal number.  What has to be the same is said setting by setting, by `Query.Agree` and the
relations for the parts of a query.  They leave open by which `Likeness` the queries inside are
compared; it is kept by a query if these queries are alike again (`Likeness.Kept`).

One likeness is that of typed queries whose snapshots have one tree, `Query.Alike`.
-/

namespace RestQuery

/-! ## What agrees -/

/-- Which queries count as alike, and which causes why a selector cannot be written. -/
structure Likeness where
  queries : Query → Query → Prop
  causes : Error → Error → Prop

/-- The same texts. -/
def Value.SameText (v w : Value) : Prop := ∃ s, v.asText? = some s ∧ w.asText? = some s

/-- Texts, or nothing, that are given alike. -/
structure Value.SameName (v w : Value) : Prop where
  left : v.isOptionalText
  right : w.isOptionalText
  given : v.givenText? = w.givenText?

/-- The text of a selector that embeds nothing. -/
def Selector.ownText? : Selector → Option String
  | .wildcard => some "*"
  | .column name => name.asText?
  | .modified base name cast => base.asText?.map fun s =>
    (name.givenText?.elim "" (· ++ ":")) ++ s ++ (cast.givenText?.elim "" ("::" ++ ·))
  | .path p => p.asText?
  | _ => none

/-- The cause why a selector cannot be written, whatever the text of a query is. -/
def Selector.refusal? : Selector → Option Error
  | .misembedded _ _ => some .noOperation
  | .invalid payload => some (.invalidSelect payload)
  | .unwritable _ => some .unwritable
  | _ => none

/-- Filters of one operator whose operands are written alike, wherever they stand. -/
structure Filter.Agree (f g : Filter) : Prop where
  operator : f.operator = g.operator
  negated : f.negated = g.negated
  column : f.column.SameText g.column
  operandText : ∀ write write' inGroup,
    f.operandText write inGroup = g.operandText write' inGroup

/-- Ordering keys that differ at most in how the column is a text and the mark is set. -/
structure SortKey.Agree (k l : SortKey) : Prop where
  column : k.column.SameText l.column
  direction : k.direction = l.direction
  nulls : k.nulls = l.nulls
  isTop : k.isTop = l.isTop

section Parts

variable (L : Likeness)

/-- Selectors of one text, or of alike queries under one name, or without any text. -/
inductive Selector.Agree : Selector → Selector → Prop
  | text {s s' : Selector} {t : String} :
    s.isTyped → s'.isTyped → s.ownText? = some t → s'.ownText? = some t → Agree s s'
  | embedded {q r : Query} {name name' : Value} :
    L.queries q r → name.SameName name' → Agree (.embedded q name) (.embedded r name')
  | refused {s s' : Selector} {e e' : Error} :
    s.refusal? = some e → s'.refusal? = some e' → L.causes e e' → Agree s s'

/-- Groups of one name with alike queries. -/
structure FilterGroup.Agree (g h : FilterGroup) : Prop where
  key : g.key = h.key
  queries : List.Forall₂ L.queries g.queries h.queries

/-- Queries that agree setting by setting. -/
structure Query.Agree (q r : Query) : Prop where
  resource : q.resource = r.resource
  cardinality : q.cardinality = r.cardinality
  selectors : List.Forall₂ (Selector.Agree L) q.selectors r.selectors
  filters : List.Forall₂ Filter.Agree (Filter.arranged q.filters) (Filter.arranged r.filters)
  groups : List.Forall₂ (FilterGroup.Agree L) q.groups r.groups
  ordering : List.Forall₂ SortKey.Agree q.ordering r.ordering
  window : q.window = r.window
  preferences : q.preferences = r.preferences
  schema : q.schema.SameName r.schema
  onConflict : q.onConflict.SameName r.onConflict
  columns : List.Forall₂ Value.SameText q.columns r.columns
  inner : q.inner = r.inner

/-- Alike queries agree, and what is inside them is alike again. -/
structure Likeness.Kept : Prop where
  agree : ∀ {q r : Query}, L.queries q r → q.Agree L r

end Parts

/-- Typed queries whose snapshots have one tree. -/
structure Query.Alike (q r : Query) : Prop where
  left : q.Typed
  right : r.Typed
  shown : ∃ v w, q.snapshot = .ok v ∧ r.snapshot = .ok w ∧ v.tree = w.tree

/-- The likeness of queries that are shown alike.  All their selectors can be written. -/
def Likeness.shown : Likeness := ⟨Query.Alike, fun _ _ => False⟩

attribute [ext] Window Preferences

/-! ## Values -/

theorem Value.tree_of_asText? {v : Value} {s : String} (text : v.asText? = some s) :
    v.tree = .text s := by
  cases v with
  | text t | token t =>
    cases text
    rfl
  | _ => cases text

theorem Value.SameText.of_tree {v w : Value} (left : v.asText?.isSome) (right : w.asText?.isSome)
    (same : v.tree = w.tree) : v.SameText w := by
  obtain ⟨s, text⟩ := Option.isSome_iff_exists.1 left
  obtain ⟨t, text'⟩ := Option.isSome_iff_exists.1 right
  rw [tree_of_asText? text, tree_of_asText? text'] at same
  cases same
  exact ⟨s, text, text'⟩

theorem Value.int_of_tree (i j : Int) (same : (int i).tree = (int j).tree) : i = j := by
  simp only [tree, Json.Tree.number.injEq, Json.Numeral.mk.injEq, decide_eq_decide, and_true]
    at same
  omega

/-- What is shown where it is set is set alike. -/
theorem option_of_tree {α : Type} {f : α → Value}
    (shown : ∀ a b, (f a).tree = (f b).tree → a = b) {a b : Option α}
    (same : (a.map f).map Value.tree = (b.map f).map Value.tree) : a = b := by
  have injective : Function.Injective (Value.tree ∘ f) := shown
  rw [Option.map_map, Option.map_map] at same
  exact Option.map_injective injective same

theorem word_of_tree {α : Type} [Vocabulary α] [LawfulVocabulary α] (a b : α)
    (same : (Value.text (word a)).tree = (Value.text (word b)).tree) : a = b := by
  rw [Value.tree, Value.tree, Json.Tree.text.injEq] at same
  exact LawfulVocabulary.word_injective a b same

theorem Value.givenText?_of_asText? {v : Value} {s : String} (text : v.asText? = some s) :
    v.givenText? = if s.isEmpty then none else some s := by
  rw [givenText?, isGiven_of_asText? text, text]
  cases s.isEmpty <;> rfl

theorem Value.SameText.sameName {v w : Value} (same : v.SameText w) : v.SameName w := by
  obtain ⟨s, text, text'⟩ := same
  refine ⟨?_, ?_, by rw [givenText?_of_asText? text, givenText?_of_asText? text']⟩
  · cases v <;> simp_all [asText?, isOptionalText]
  · cases w <;> simp_all [asText?, isOptionalText]

theorem Value.SameName.null : SameName .null .null := ⟨rfl, rfl, rfl⟩

/-- The value of a field that is left out where there is nothing. -/
def Value.ofField : Value → Option Value
  | .null => none
  | v => some v

/-- Texts, or nothing, that are shown as one field are given alike. -/
theorem Value.SameName.of_field {v w : Value} (left : v.isOptionalText) (right : w.isOptionalText)
    (same : v.ofField.map tree = w.ofField.map tree) : v.SameName w := by
  have text : ∀ {u : Value}, u.isOptionalText → u = .null ∧ u.ofField = none ∨
      u.asText?.isSome ∧ u.ofField = some u := by
    intro u typed
    cases u <;> first | exact .inl ⟨rfl, rfl⟩ | exact .inr ⟨typed, rfl⟩
  rcases text left with ⟨rfl, absent⟩ | ⟨given, shown⟩ <;>
    rcases text right with ⟨rfl, absent'⟩ | ⟨given', shown'⟩
  · exact .null
  · rw [absent, shown'] at same
    cases same
  · rw [shown, absent'] at same
    cases same
  · rw [shown, shown'] at same
    exact (SameText.of_tree given given' (Option.some.inj same)).sameName

/-- Texts, or nothing, that are shown where they are given are given alike. -/
theorem Value.SameName.of_given {v w : Value} (left : v.isOptionalText) (right : w.isOptionalText)
    (same : (if v.isGiven then some v else none).map tree =
      (if w.isGiven then some w else none).map tree) : v.SameName w := by
  refine ⟨left, right, ?_⟩
  cases given : v.isGiven <;> cases given' : w.isGiven
  · rw [givenText?, givenText?, given, given']
    rfl
  · simp [given, given'] at same
  · simp [given, given'] at same
  · simp only [given, given', if_true, Option.map_some, Option.some.injEq] at same
    have text := SameText.of_tree (isSome_of_isGiven left given)
      (isSome_of_isGiven right given') same
    exact text.sameName.given

/-- Neither of two names is given, or both are, as the same text. -/
theorem Value.SameName.given_or_not {v w : Value} (same : v.SameName w) :
    (v.isGiven = false ∧ w.isGiven = false) ∨ (v.isGiven ∧ w.isGiven ∧ v.SameText w) := by
  have given := same.given
  rcases givenText?_of_isOptionalText same.left with
    ⟨absent, none⟩ | ⟨present, s, text, some⟩ <;>
  rcases givenText?_of_isOptionalText same.right with
    ⟨absent', none'⟩ | ⟨present', t, text', some'⟩
  · exact .inl ⟨absent, absent'⟩
  · rw [none, some'] at given
    cases given
  · rw [some, none'] at given
    cases given
  · rw [some, some'] at given
    cases given
    exact .inr ⟨present, present', s, text, text'⟩

end RestQuery
