import RestQuery.Proofs.Group.Contents

/-!
# Items can be read off their lexemes

A reserved character ends every column, every word and every operand, and what follows an item is a
comma or a closing parenthesis.  So an item is determined by its lexemes whatever follows it:
`GroupItem.Proper.lexemes_break`, by induction over the items inside.
-/

namespace RestQuery

namespace Lexeme

/-! ## Where a run of lexemes ends -/

/-- Whether a lexeme is no part of the grammar: text between quotes, or a character that is not
reserved. -/
def isInner : Lexeme → Bool
  | plain c => !Value.reserved.contains c
  | quoted _ => true

theorem dot_ends : (plain '.').isInner = false := rfl

theorem comma_ends : (plain ',').isInner = false := rfl

theorem opening_ends : (plain '(').isInner = false := rfl

theorem closing_ends : (plain ')').isInner = false := rfl

/-- Two runs of inner lexemes that end in the same text end at the same place. -/
theorem inner_break {ls ms r s : List Lexeme} {x y : Lexeme} (left : ls.all isInner)
    (right : ms.all isInner) (endLeft : x.isInner = false) (endRight : y.isInner = false)
    (same : ls ++ x :: r = ms ++ y :: s) : ls = ms ∧ x = y ∧ r = s := by
  induction ls generalizing ms with
  | nil =>
    cases ms with
    | nil =>
      obtain ⟨ends, rest⟩ := List.cons.inj same
      exact ⟨rfl, ends, rest⟩
    | cons m ms =>
      obtain ⟨rfl, _⟩ := List.cons.inj same
      have inner := (Bool.and_eq_true_iff.1 right).1
      rw [endLeft] at inner
      cases inner
  | cons l ls ih =>
    have inner := Bool.and_eq_true_iff.1 left
    cases ms with
    | nil =>
      obtain ⟨rfl, _⟩ := List.cons.inj same
      rw [endRight] at inner
      cases inner.1
    | cons m ms =>
      obtain ⟨rfl, rest⟩ := List.cons.inj same
      obtain ⟨rfl, ends, rest⟩ := ih inner.2 (Bool.and_eq_true_iff.1 right).2 rest
      exact ⟨rfl, ends, rest⟩

/-- Inner lexemes before a text that begins with the grammar are none. -/
theorem inner_start {ls r s : List Lexeme} {x y : Lexeme} (inner : ls.all isInner)
    (endLeft : x.isInner = false) (endRight : y.isInner = false) (same : ls ++ x :: r = y :: s) :
    ls = [] ∧ x = y := by
  have nothing : ls ++ x :: r = [] ++ y :: s := same
  obtain ⟨empty, ends, _⟩ := inner_break inner rfl endLeft endRight nothing
  exact ⟨empty, ends⟩

theorem plains_injective {s t : String} (same : plains s = plains t) : s = t := by
  have chars : s.toList = t.toList :=
    (List.map_inj_right fun _ _ => plain.inj).1 same
  exact String.toList_inj.1 chars

theorem inner_plains {s : String} (free : s.toList.any Value.reserved.contains = false) :
    (plains s).all isInner := by
  rw [plains, List.all_map, List.all_eq_true]
  intro c member
  have unreserved := List.any_eq_false.1 free c member
  simpa [isInner] using unreserved

theorem inner_shielded (s : String) : (shielded s).all isInner := by
  rw [shielded]
  split
  next => rfl
  next free => exact inner_plains (Bool.eq_false_iff.2 free)

theorem shielded_injective {s t : String} (same : shielded s = shielded t) : s = t := by
  rw [shielded, shielded] at same
  split at same
  next =>
    split at same
    next =>
      obtain ⟨same, _⟩ := List.cons.inj same
      exact String.toList_inj.1 (quoted.inj same)
    next =>
      rw [plains] at same
      cases chars : t.toList <;> rw [chars] at same <;> cases same
  next =>
    split at same
    next =>
      rw [plains] at same
      cases chars : s.toList <;> rw [chars] at same <;> cases same
    next => exact plains_injective same

/-! ## Words -/

/-- The text is a word of the grammar other than the mark of negation. -/
def IsWord (s : String) : Prop := (plains s).all isInner ∧ s ≠ "not"

theorem isWord_operator (o : Operator) : IsWord (word o) := by
  cases o <;> exact ⟨by decide, by decide⟩

theorem isWord_connective (l : Connective) : IsWord (word l) := by
  cases l <;> exact ⟨by decide, by decide⟩

theorem marked_break {n m : Bool} {v w : String} {x y : Lexeme} {r s : List Lexeme}
    (left : IsWord v) (right : IsWord w) (endLeft : x.isInner = false)
    (endRight : y.isInner = false) (same : marked n v ++ x :: r = marked m w ++ y :: s) :
    n = m ∧ v = w ∧ x = y ∧ r = s := by
  have negation : (plains "not").all isInner := by decide
  cases n with
  | false =>
    cases m with
    | false =>
      obtain ⟨words, ends, rest⟩ := inner_break left.1 right.1 endLeft endRight same
      exact ⟨rfl, plains_injective words, ends, rest⟩
    | true =>
      simp only [marked, if_true, List.append_assoc, List.cons_append] at same
      obtain ⟨words, _⟩ := inner_break left.1 negation endLeft dot_ends same
      exact absurd (plains_injective words) left.2
  | true =>
    simp only [marked, if_true, List.append_assoc, List.cons_append] at same
    cases m with
    | false =>
      obtain ⟨words, _⟩ := inner_break negation right.1 dot_ends endRight same
      exact absurd (plains_injective words).symm right.2
    | true =>
      simp only [if_true, List.append_assoc, List.cons_append] at same
      obtain ⟨_, _, same⟩ := inner_break negation negation dot_ends dot_ends same
      obtain ⟨words, ends, rest⟩ := inner_break left.1 right.1 endLeft endRight same
      exact ⟨rfl, plains_injective words, ends, rest⟩

/-! ## Items between parentheses -/

/-- What follows an item: a comma or a closing parenthesis. -/
inductive Follows : List Lexeme → Prop
  | comma (r : List Lexeme) : Follows (plain ',' :: r)
  | close (r : List Lexeme) : Follows (plain ')' :: r)

theorem Follows.continued (ps : List (List Lexeme)) (r : List Lexeme) :
    Follows (continued ps ++ r) := by
  cases ps with
  | nil => exact .close _
  | cons p ps => exact .comma _

/-- What follows an item ends a run of inner lexemes, and opens no parenthesis. -/
theorem Follows.ends {r : List Lexeme} (follows : Follows r) :
    ∃ x r', r = x :: r' ∧ x.isInner = false ∧ x ≠ plain '(' := by
  cases follows with
  | comma r => exact ⟨_, r, rfl, comma_ends, by decide⟩
  | close r => exact ⟨_, r, rfl, closing_ends, by decide⟩

section Enclosed

variable {α : Type} {render : α → List Lexeme} {xs ys : List α} {r s : List Lexeme}

/-- The items of the one list can be told from those of the other, whatever follows them. -/
def Readable (render : α → List Lexeme) (xs ys : List α) : Prop :=
  ∀ x ∈ xs, ∀ y ∈ ys, ∀ r s, Follows r → Follows s → render x ++ r = render y ++ s → x = y ∧ r = s

/-- No item but an empty one begins like the end of the items, and no empty one stands alone. -/
def Visible (render : α → List Lexeme) (xs : List α) : Prop :=
  xs.map render ≠ [[]] ∧
    ∀ x ∈ xs, ∀ r s, Follows s → render x ++ s = plain ')' :: r → render x = []

theorem continued_break (readable : Readable render xs ys)
    (same : continued (xs.map render) ++ r = continued (ys.map render) ++ s) : xs = ys ∧ r = s := by
  induction xs generalizing ys with
  | nil =>
    cases ys with
    | nil => exact ⟨rfl, (List.cons.inj same).2⟩
    | cons y ys => cases (List.cons.inj same).1
  | cons x xs ih =>
    cases ys with
    | nil => cases (List.cons.inj same).1
    | cons y ys =>
      simp only [List.map_cons, continued, List.cons_append, List.append_assoc] at same
      obtain ⟨rfl, rest⟩ := readable x List.mem_cons_self y List.mem_cons_self _ _
        (.continued _ r) (.continued _ s) (List.cons.inj same).2
      have further : Readable render xs ys := fun x' left y' right =>
        readable x' (List.mem_cons_of_mem _ left) y' (List.mem_cons_of_mem _ right)
      obtain ⟨rfl, behind⟩ := ih further rest
      exact ⟨rfl, behind⟩

theorem Visible.not_closed {x : α} (visible : Visible render (x :: xs)) :
    inside ((x :: xs).map render) ++ s ≠ plain ')' :: r := by
  intro same
  rw [List.map_cons, inside, List.append_assoc] at same
  have empty := visible.2 x List.mem_cons_self _ _ (.continued _ s) same
  rw [empty, List.nil_append] at same
  cases xs with
  | nil => exact visible.1 (by rw [List.map_cons, empty, List.map_nil])
  | cons x' xs => cases (List.cons.inj same).1

theorem inside_break (readable : Readable render xs ys) (left : Visible render xs)
    (right : Visible render ys)
    (same : inside (xs.map render) ++ r = inside (ys.map render) ++ s) : xs = ys ∧ r = s := by
  cases xs with
  | nil =>
    cases ys with
    | nil => exact ⟨rfl, (List.cons.inj same).2⟩
    | cons y ys => exact absurd same.symm right.not_closed
  | cons x xs =>
    cases ys with
    | nil => exact absurd same left.not_closed
    | cons y ys =>
      -- The first items can be read like those behind a comma.
      exact continued_break readable (congrArg (plain ',' :: ·) same)

end Enclosed

end Lexeme

open Lexeme

/-! ## Operands -/

namespace OperandTexts

theorem shielded_break {a b : String} {r s : List Lexeme} (left : Follows r) (right : Follows s)
    (same : shielded a ++ r = shielded b ++ s) : a = b ∧ r = s := by
  obtain ⟨x, r, rfl, endLeft, _⟩ := left.ends
  obtain ⟨y, s, rfl, endRight, _⟩ := right.ends
  obtain ⟨texts, rfl, rfl⟩ :=
    inner_break (inner_shielded a) (inner_shielded b) endLeft endRight same
  exact ⟨shielded_injective texts, rfl⟩

theorem visible_shielded {texts : List String} (proper : texts ≠ [""]) :
    Visible shielded texts := by
  refine ⟨fun lone => ?_, fun a _ r s follows same => ?_⟩
  · have empty : texts.map shielded = [""].map shielded := lone
    exact proper ((List.map_inj_right fun _ _ => shielded_injective).1 empty)
  · obtain ⟨x, s, rfl, ends, _⟩ := follows.ends
    exact (inner_start (inner_shielded a) ends closing_ends same).1

theorem single_ne_several {a : String} {texts : List String} {proper : texts ≠ [""]}
    {r s : List Lexeme} (follows : Follows r) :
    (single a).lexemes ++ r ≠ (several texts proper).lexemes ++ s := by
  intro same
  obtain ⟨x, r, rfl, ends, other⟩ := follows.ends
  exact other (inner_start (inner_shielded a) ends opening_ends same).2

/-- An operand is determined by how it is written, whatever follows. -/
theorem lexemes_break {t u : OperandTexts} {r s : List Lexeme} (left : Follows r)
    (right : Follows s) (same : t.lexemes ++ r = u.lexemes ++ s) : t = u ∧ r = s := by
  cases t with
  | single a =>
    cases u with
    | single b =>
      obtain ⟨rfl, rest⟩ := shielded_break left right same
      exact ⟨rfl, rest⟩
    | several texts proper => exact absurd same (single_ne_several left)
  | several texts proper =>
    cases u with
    | single b => exact absurd same.symm (single_ne_several right)
    | several texts' proper' =>
      have readable : Readable shielded texts texts' := fun _ _ _ _ _ _ => shielded_break
      obtain ⟨rfl, rest⟩ := inside_break readable (visible_shielded proper)
        (visible_shielded proper') (List.cons.inj same).2
      exact ⟨rfl, rest⟩

end OperandTexts

/-! ## Items -/

/-- Whether a text has no reserved character. -/
def Value.isBare (s : String) : Bool := !s.toList.any Value.reserved.contains

namespace GroupItem

/-- No column in the item has a reserved character. -/
inductive Proper : GroupItem → Prop
  | condition {column : String} (bare : Value.isBare column) (operator : Operator)
    (negated : Bool) (operand : OperandTexts) : Proper (condition column operator negated operand)
  | group (connective : Connective) (negated : Bool) {items : List GroupItem}
    (each : ∀ i ∈ items, Proper i) : Proper (group connective negated items)

theorem inner_column {column : String} (bare : Value.isBare column) :
    (plains column).all isInner := by
  rw [Value.isBare, Bool.not_eq_true'] at bare
  exact inner_plains bare

theorem condition_lexemes (column : String) (operator : Operator) (negated : Bool)
    (operand : OperandTexts) (r : List Lexeme) :
    (condition column operator negated operand).lexemes ++ r = plains column ++
      plain '.' :: (marked negated (word operator) ++ plain '.' :: (operand.lexemes ++ r)) := by
  simp only [lexemes, List.append_assoc, List.cons_append]

theorem group_lexemes (connective : Connective) (negated : Bool) (items : List GroupItem)
    (r : List Lexeme) :
    (group connective negated items).lexemes ++ r = marked negated (word connective) ++
      plain '(' :: (inside (items.map GroupItem.lexemes) ++ r) := by
  simp only [lexemes, Lexeme.enclosed, List.append_assoc, List.cons_append]

/-- A condition is no group: the word behind `not.` in a group ends in a parenthesis. -/
theorem condition_ne_group {column : String} (bare : Value.isBare column) {operator : Operator}
    {negated negated' : Bool} {operand : OperandTexts} {connective : Connective}
    {items : List GroupItem} {r s : List Lexeme} :
    (condition column operator negated operand).lexemes ++ r ≠
      (group connective negated' items).lexemes ++ s := by
  intro same
  rw [condition_lexemes, group_lexemes] at same
  have column := inner_column bare
  have operator := isWord_operator operator
  have connective := isWord_connective connective
  cases negated' with
  | false =>
    obtain ⟨_, ends, _⟩ := inner_break column connective.1 dot_ends opening_ends same
    cases ends
  | true =>
    simp only [marked, if_true, List.append_assoc, List.cons_append] at same
    obtain ⟨_, _, rest⟩ := inner_break column (by decide) dot_ends dot_ends same
    obtain ⟨_, _, ends, _⟩ :=
      marked_break (m := false) operator connective dot_ends opening_ends rest
    cases ends

/-- An item does not begin like the end of the items. -/
theorem Proper.not_closed {i : GroupItem} (proper : i.Proper) {r s : List Lexeme} :
    i.lexemes ++ s ≠ plain ')' :: r := by
  intro same
  cases proper with
  | condition bare operator negated operand =>
    rw [condition_lexemes] at same
    obtain ⟨_, ends⟩ := inner_start (inner_column bare) dot_ends closing_ends same
    cases ends
  | group connective negated each =>
    rw [group_lexemes] at same
    cases negated with
    | false =>
      obtain ⟨_, ends⟩ :=
        inner_start (isWord_connective connective).1 opening_ends closing_ends same
      cases ends
    | true =>
      simp only [marked, if_true, List.append_assoc, List.cons_append] at same
      obtain ⟨_, ends⟩ := inner_start (by decide) dot_ends closing_ends same
      cases ends

theorem visible_items {items : List GroupItem} (proper : ∀ i ∈ items, i.Proper) :
    Visible lexemes items := by
  refine ⟨fun lone => ?_, fun i member r s _ same => absurd same (proper i member).not_closed⟩
  cases items with
  | nil => cases lone
  | cons i items =>
    have empty : i.lexemes = [] := (List.cons.inj lone).1
    have first := proper i List.mem_cons_self
    exact first.not_closed (r := []) (s := [plain ')']) (by rw [empty, List.nil_append])

/-- An item is determined by how it is written, whatever follows. -/
theorem Proper.lexemes_break {i j : GroupItem} (proper : i.Proper) (proper' : j.Proper)
    {r s : List Lexeme} (left : Follows r) (right : Follows s)
    (same : i.lexemes ++ r = j.lexemes ++ s) : i = j ∧ r = s := by
  induction proper generalizing j r s with
  | condition bare operator negated operand =>
    cases proper' with
    | condition bare' operator' negated' operand' =>
      rw [condition_lexemes, condition_lexemes] at same
      obtain ⟨columns, _, same⟩ :=
        inner_break (inner_column bare) (inner_column bare') dot_ends dot_ends same
      obtain ⟨rfl, words, _, same⟩ := marked_break (isWord_operator operator)
        (isWord_operator operator') dot_ends dot_ends same
      obtain ⟨rfl, rest⟩ := OperandTexts.lexemes_break left right same
      rw [plains_injective columns, LawfulVocabulary.word_injective _ _ words]
      exact ⟨rfl, rest⟩
    | group connective negated' each => exact absurd same (condition_ne_group bare)
  | group connective negated each ih =>
    cases proper' with
    | condition bare' operator' negated' operand' =>
      exact absurd same.symm (condition_ne_group bare')
    | group connective' negated' each' =>
      rw [group_lexemes, group_lexemes] at same
      obtain ⟨rfl, words, _, same⟩ := marked_break (isWord_connective connective)
        (isWord_connective connective') opening_ends opening_ends same
      have readable : Readable lexemes _ _ := fun i member j member' r s left right same =>
        ih i member (each' j member') left right same
      obtain ⟨rfl, rest⟩ := inside_break readable (visible_items each) (visible_items each') same
      rw [LawfulVocabulary.word_injective _ _ words]
      exact ⟨rfl, rest⟩

end GroupItem

end RestQuery
