import RestQuery.Proofs.Group.Readable

/-!
# The content of a group is unambiguous

The quotes in an item stand behind a dot, a comma or a parenthesis, never behind a backslash
(`GroupItem.Proper.placed`).  So the content of a group has one reading as lexemes, and these have
one reading as items: `FilterGroup.content_unambiguous` says that groups with the same content have
the same items.
-/

namespace RestQuery

open Lexeme

/-! ## Where quotes stand -/

namespace Lexeme

/-- The lexemes can stand behind any character but a backslash and before any but a quote. -/
def Placed (ls : List Lexeme) : Prop :=
  ∀ before after rest, before ≠ '\\' → after ≠ '"' → Separated after rest →
    Separated before (ls ++ plain after :: rest)

theorem placed_plains {s : String} (inner : (plains s).all isInner) : Placed (plains s) := by
  have free : ∀ c ∈ s.toList, c ≠ '"' := by
    rintro c member rfl
    have quote := List.all_eq_true.1 inner _ (List.mem_map_of_mem member)
    exact absurd quote (by decide)
  intro before after rest behind afterPlain separated
  rw [plains]
  generalize s.toList = cs at free
  -- Plain characters stand behind any character, a backslash among them.
  clear behind
  induction cs generalizing before with
  | nil => exact ⟨afterPlain, separated⟩
  | cons c cs ih =>
    obtain ⟨first, free⟩ := List.forall_mem_cons.1 free
    exact ⟨first, ih c free⟩

theorem placed_shielded (s : String) : Placed (shielded s) := by
  rw [shielded]
  split
  next => exact fun before after rest behind afterPlain separated =>
    ⟨behind, afterPlain, separated⟩
  next free => exact placed_plains (inner_plains (Bool.eq_false_iff.2 free))

theorem Placed.append {ls ms : List Lexeme} (first : Placed ls) (second : Placed ms) {c : Char}
    (noQuote : c ≠ '"') (noBackslash : c ≠ '\\') : Placed (ls ++ plain c :: ms) := by
  intro before after rest behind afterPlain separated
  rw [List.append_assoc, List.cons_append]
  exact first before c _ behind noQuote (second c after rest noBackslash afterPlain separated)

theorem placed_marked {s : String} (word : IsWord s) (negated : Bool) :
    Placed (marked negated s) := by
  have plain := placed_plains word.1
  cases negated with
  | false => exact plain
  | true => exact (placed_plains (by decide)).append plain (by decide) (by decide)

theorem separated_continued {ps : List (List Lexeme)} (each : ∀ p ∈ ps, Placed p) {p : List Lexeme}
    (first : Placed p) {before : Char} (behind : before ≠ '\\') {rest : List Lexeme}
    (separated : Separated ')' rest) : Separated before (p ++ (continued ps ++ rest)) := by
  induction ps generalizing p before with
  | nil => exact first before ')' rest behind (by decide) separated
  | cons p' ps ih =>
    obtain ⟨next, each⟩ := List.forall_mem_cons.1 each
    rw [continued, List.cons_append, List.append_assoc]
    exact first before ',' _ behind (by decide) (ih each next (by decide))

theorem separated_inside {ps : List (List Lexeme)} (each : ∀ p ∈ ps, Placed p) {before : Char}
    (behind : before ≠ '\\') {rest : List Lexeme} (separated : Separated ')' rest) :
    Separated before (inside ps ++ rest) := by
  cases ps with
  | nil => exact ⟨by decide, separated⟩
  | cons p ps =>
    obtain ⟨first, each⟩ := List.forall_mem_cons.1 each
    rw [inside, List.append_assoc]
    exact separated_continued each first behind separated

theorem placed_inside {ps : List (List Lexeme)} (each : ∀ p ∈ ps, Placed p) :
    Placed (inside ps) := fun _ _ _ behind afterPlain separated =>
  separated_inside each behind ⟨afterPlain, separated⟩

theorem placed_enclosed {ps : List (List Lexeme)} (each : ∀ p ∈ ps, Placed p) :
    Placed (enclosed ps) := by
  have nothing : Placed [] := fun _ _ _ _ afterPlain separated => ⟨afterPlain, separated⟩
  exact nothing.append (placed_inside each) (by decide) (by decide)

/-- Items between parentheses are written so that their quotes can be told apart. -/
theorem separated_enclosed {ps : List (List Lexeme)} (each : ∀ p ∈ ps, Placed p) (before : Char) :
    Separated before (enclosed ps) := by
  have closed : Separated '(' (inside ps ++ []) := separated_inside each (by decide) trivial
  rw [List.append_nil] at closed
  exact ⟨by decide, closed⟩

end Lexeme

theorem OperandTexts.placed (t : OperandTexts) : Placed t.lexemes := by
  cases t with
  | single s => exact placed_shielded s
  | several texts proper =>
    refine placed_enclosed fun p member => ?_
    obtain ⟨s, _, rfl⟩ := List.mem_map.1 member
    exact placed_shielded s

theorem GroupItem.Proper.placed {i : GroupItem} (proper : i.Proper) : Placed i.lexemes := by
  induction proper with
  | condition bare operator negated operand =>
    have words := (placed_marked (isWord_operator operator) negated).append operand.placed
      (c := '.') (by decide) (by decide)
    rw [lexemes]
    exact (placed_plains (inner_column bare)).append words (by decide) (by decide)
  | group connective negated each ih =>
    have items : Placed (inside (List.map lexemes _)) := placed_inside fun p member => by
      obtain ⟨i, stored, rfl⟩ := List.mem_map.1 member
      exact ih i stored
    rw [lexemes]
    exact (placed_marked (isWord_connective connective) negated).append items (by decide)
      (by decide)

/-- Items between parentheses are determined by their text. -/
theorem GroupItem.text_injective {is js : List GroupItem} (left : ∀ i ∈ is, i.Proper)
    (right : ∀ j ∈ js, j.Proper)
    (same : asText (Lexeme.enclosed (is.map lexemes)) = asText (Lexeme.enclosed (js.map lexemes))) :
    is = js := by
  have placed {items : List GroupItem} (proper : ∀ i ∈ items, i.Proper) :
      ∀ p ∈ items.map lexemes, Placed p := fun p member => by
    obtain ⟨i, stored, rfl⟩ := List.mem_map.1 member
    exact (proper i stored).placed
  -- The same text has the same lexemes, and these have the same items.
  have reading := spelled_injective (separated_enclosed (placed left) ' ')
    (separated_enclosed (placed right) ' ') (String.ofList_injective same)
  have readable : Readable lexemes is js := fun i member j member' r s follows follows' same =>
    (left i member).lexemes_break (right j member') follows follows' same
  exact (inside_break (r := []) (s := []) readable (visible_items left) (visible_items right)
    (congrArg (· ++ []) (List.cons.inj reading).2)).1

/-! ## The content of a group -/

/-- Whether the filter is typed, and its column has no reserved character. -/
def Filter.isPlain (f : Filter) : Bool :=
  f.column.asText?.any Value.isBare && f.operand.isOperand

theorem Filter.isTyped_of_isPlain {f : Filter} (plain : f.isPlain) : f.isTyped := by
  obtain ⟨bare, operand⟩ := Bool.and_eq_true_iff.1 plain
  obtain ⟨column, read, _⟩ := (Option.any_eq_true _ _).1 bare
  have text : f.column.asText?.isSome := Option.isSome_iff_exists.2 ⟨column, read⟩
  exact Bool.and_eq_true_iff.2 ⟨text, operand⟩

theorem Filter.proper_item {write : QueryText} {f : Filter} (plain : f.isPlain) {i : GroupItem}
    (made : f.item write = .ok i) : i.Proper := by
  obtain ⟨bare, _⟩ := Bool.and_eq_true_iff.1 plain
  obtain ⟨column, read, bare⟩ := (Option.any_eq_true _ _).1 bare
  rw [item, Value.plain_of_asText? read, ok_bind] at made
  obtain ⟨operand, _, made⟩ := bind_eq_ok.1 made
  cases made
  exact .condition bare _ _ operand

theorem FilterGroup.proper_contents {write : QueryText} {g : FilterGroup}
    (plain : ∀ f ∈ g.conditions, f.isPlain) {items : List GroupItem}
    (made : g.contents write = .ok items) : ∀ i ∈ items, i.Proper :=
  g.flattened_forall (fun h _ each => .group h.connective h.negated each)
    (fun f member _ made => Filter.proper_item (plain f member) made) items made

/-- Groups whose columns have no reserved character have the same content exactly when they have the
same items, whatever texts they compare with.  The items are those of all filters and groups inside,
and nothing is lost in them but what tells a list of the empty text alone from an empty list. -/
theorem FilterGroup.content_unambiguous (write : QueryText) {g h : FilterGroup}
    (left : ∀ f ∈ g.conditions, f.isPlain) (right : ∀ f ∈ h.conditions, f.isPlain) :
    (∃ s t is js, g.content write = .ok s ∧ h.content write = .ok t ∧
      g.contents write = .ok is ∧ h.contents write = .ok js ∧ (s = t ↔ is = js)) ∧
    (∀ k : FilterGroup, k.contents write = k.queries.flatMapM fun q => do
      return (← (Filter.byOperator q.filters).mapM (Filter.item write)) ++
        (← (q.conjunctions ++ q.disjunctions).mapM fun l =>
          GroupItem.group l.connective l.negated <$> l.contents write)) ∧
    ∀ xs ys, OperandTexts.ofList xs = OperandTexts.ofList ys ↔
      xs = ys ∨ xs ∈ [[], [""]] ∧ ys ∈ [[], [""]] := by
  obtain ⟨is, items⟩ := g.contents_succeeds write fun f member =>
    Filter.isTyped_of_isPlain (left f member)
  obtain ⟨js, items'⟩ := h.contents_succeeds write fun f member =>
    Filter.isTyped_of_isPlain (right f member)
  have text : g.content write = .ok (asText (Lexeme.enclosed (is.map GroupItem.lexemes))) := by
    rw [content_eq, items]
    rfl
  have text' : h.content write = .ok (asText (Lexeme.enclosed (js.map GroupItem.lexemes))) := by
    rw [content_eq, items']
    rfl
  refine ⟨⟨_, _, is, js, text, text', items, items', fun same => ?_, fun same => ?_⟩,
    contents_eq write, fun xs ys => OperandTexts.ofList_eq_iff⟩
  · exact GroupItem.text_injective (proper_contents left items) (proper_contents right items') same
  · rw [same]

/-- The group that asks for one of some titles. -/
def FilterGroup.ofTitles (titles : List String) : FilterGroup where
  connective := .or
  queries := [{ Query.ofResource "films" .many with
    filters := [⟨.isIn, .text "title", .tuple (titles.map .text), false⟩] }]
  negated := false

/-- A title that ends in a backslash and another title are not taken for one title with quotes. -/
theorem FilterGroup.content_unambiguous_backslash :
    (∀ f ∈ (ofTitles ["a,\\", "b."]).conditions, f.isPlain) ∧
    (∀ f ∈ (ofTitles ["a,\",\"b."]).conditions, f.isPlain) ∧
    ∃ s t is js, (ofTitles ["a,\\", "b."]).content (fun _ => .ok "") = .ok s ∧
      (ofTitles ["a,\",\"b."]).content (fun _ => .ok "") = .ok t ∧
      (ofTitles ["a,\\", "b."]).contents (fun _ => .ok "") = .ok is ∧
      (ofTitles ["a,\",\"b."]).contents (fun _ => .ok "") = .ok js ∧ (s = t ↔ is = js) :=
  ⟨by decide, by decide, (content_unambiguous (fun _ => .ok "") (by decide) (by decide)).1⟩

end RestQuery
