import RestQuery.Proofs.Filter.Arrangement
import RestQuery.Proofs.Group.Conditions
import RestQuery.Proofs.Group.Quoting

/-!
# What the content of a group says

`FilterGroup.contents` is what the content of a group is written from: its items in written order,
a condition with the texts of its operand or a group with items of its own.  `GroupItem.lexemes` is
the written form of an item as a list of lexemes, and `FilterGroup.content_eq` says that the content
of a group is these lexemes, spelled out.

A list whose only text is empty is written like a list without any texts, so `OperandTexts` knows
the latter alone.
-/

namespace RestQuery

/-! ## Items -/

/-- The texts of an operand, which is a single value or a list. -/
inductive OperandTexts where
  | single (s : String)
  | several (texts : List String) (proper : texts ≠ [""])
deriving DecidableEq

/-- The texts of a list; the empty text alone counts as none. -/
def OperandTexts.ofList (texts : List String) : OperandTexts :=
  if proper : texts ≠ [""] then several texts proper else several [] (by decide)

/-- Lists with the same texts are the same, but for the empty text alone. -/
theorem OperandTexts.ofList_eq_iff {xs ys : List String} :
    ofList xs = ofList ys ↔ xs = ys ∨ xs ∈ [[], [""]] ∧ ys ∈ [[], [""]] := by
  simp only [ofList, List.mem_cons, List.not_mem_nil, or_false]
  split
  next left =>
    split
    next right =>
      simp only [several.injEq, left, right, or_false]
      exact ⟨.inl, fun either => either.elim id fun empty => empty.1.trans empty.2.symm⟩
    next lone => simp [left, Decidable.not_not.1 lone]
  next lone =>
    rw [Decidable.not_not.1 lone]
    split
    next right => simp [right, right.symm, eq_comm]
    next lone' => simp [Decidable.not_not.1 lone']

/-- An item in the content of a group. -/
inductive GroupItem where
  | condition (column : String) (operator : Operator) (negated : Bool) (operand : OperandTexts)
  | group (connective : Connective) (negated : Bool) (items : List GroupItem)

namespace Filter

/-- The texts of the operand, none of them between quotes. -/
def operandTexts (write : QueryText) (f : Filter) : Except Error OperandTexts :=
  match f.operand with
  | .tuple items => do return .ofList (← items.mapM (Value.operandText write))
  | v => do return .single (← v.operandText write)

/-- The filter as an item. -/
def item (write : QueryText) (f : Filter) : Except Error GroupItem := do
  return .condition (← f.column.plain write) f.operator f.negated (← f.operandTexts write)

end Filter

/-- The items of a group in written order: those of each query after those of the query before it,
and in a query the filters, the conjunctions and the disjunctions. -/
def FilterGroup.contents (write : QueryText) (g : FilterGroup) : Except Error (List GroupItem) :=
  g.flattened (Filter.item write) fun h items => .group h.connective h.negated items

/-- Query by query, the filters operator by operator, and then the conjunctions and the disjunctions
with their own contents. -/
theorem FilterGroup.contents_eq (write : QueryText) (g : FilterGroup) :
    g.contents write = g.queries.flatMapM fun q => do
      return (← (Filter.byOperator q.filters).mapM (Filter.item write)) ++
        (← (q.conjunctions ++ q.disjunctions).mapM fun h =>
          GroupItem.group h.connective h.negated <$> h.contents write) := by
  rw [contents, flattened_eq]
  refine flatMapM_congr fun q _ => ?_
  rw [Query.flattened_eq, Filter.arranged_eq]
  rfl

/-! ## Lexemes -/

namespace Lexeme

/-- A text that stands for itself. -/
def plains (s : String) : List Lexeme := s.toList.map plain

/-- A text that stands between quotes if it has a reserved character. -/
def shielded (s : String) : List Lexeme :=
  if s.toList.any Value.reserved.contains then [quoted s.toList] else plains s

/-- A word behind `not.` if it is negated. -/
def marked (negated : Bool) (s : String) : List Lexeme :=
  if negated then plains "not" ++ plain '.' :: plains s else plains s

/-- What follows the first item between parentheses. -/
def continued : List (List Lexeme) → List Lexeme
  | [] => [plain ')']
  | p :: ps => plain ',' :: (p ++ continued ps)

/-- What follows the opening parenthesis. -/
def inside : List (List Lexeme) → List Lexeme
  | [] => [plain ')']
  | p :: ps => p ++ continued ps

/-- Items between parentheses, with commas between them. -/
def enclosed (ps : List (List Lexeme)) : List Lexeme := plain '(' :: inside ps

/-- Lexemes as a text. -/
def asText (ls : List Lexeme) : String := String.ofList (spelled ls)

end Lexeme

open Lexeme

def OperandTexts.lexemes : OperandTexts → List Lexeme
  | single s => shielded s
  | several texts _ => Lexeme.enclosed (texts.map shielded)

/-- An item as it is written. -/
def GroupItem.lexemes : GroupItem → List Lexeme
  | condition column operator negated operand =>
    plains column ++ plain '.' :: (marked negated (word operator) ++ plain '.' :: operand.lexemes)
  | group connective negated items =>
    marked negated (word connective) ++ Lexeme.enclosed (items.map GroupItem.lexemes)

/-! ## Lexemes as text -/

namespace Lexeme

theorem asText_append (ls ms : List Lexeme) : asText (ls ++ ms) = asText ls ++ asText ms := by
  rw [asText, spelled_append, String.ofList_append]
  rfl

theorem asText_plain_cons (c : Char) (ls : List Lexeme) :
    asText (plain c :: ls) = String.singleton c ++ asText ls := by
  rw [← List.singleton_append, asText_append]
  rfl

theorem asText_plains (s : String) : asText (plains s) = s := by
  have chars : spelled (plains s) = s.toList := by
    simp [spelled, plains, List.flatMap_map, chars]
  rw [asText, chars, String.ofList_toList]

theorem asText_shielded (s : String) : asText (shielded s) = Value.shielded s := by
  rw [shielded, Value.shielded]
  split
  next => simp [asText, spelled, chars]
  next => exact asText_plains s

theorem asText_marked (negated : Bool) (s : String) :
    asText (marked negated s) = (if negated then "not." else "") ++ s := by
  cases negated with
  | true =>
    simp only [marked, asText_append, asText_plain_cons, asText_plains, if_true,
      ← String.append_assoc]
    rfl
  | false => simp [marked, asText_plains]

theorem asText_continued (p : List Lexeme) (ps : List (List Lexeme)) :
    asText (p ++ continued ps) = ",".intercalate ((p :: ps).map asText) ++ ")" := by
  induction ps generalizing p with
  | nil =>
    rw [asText_append, List.map_cons, List.map_nil, String.intercalate_singleton]
    rfl
  | cons p' ps ih =>
    rw [continued, asText_append, asText_plain_cons, ih p']
    simp only [List.map_cons, String.intercalate_cons_cons, String.append_assoc]
    rfl

theorem asText_enclosed (ps : List (List Lexeme)) :
    asText (enclosed ps) = RestQuery.enclosed (ps.map asText) := by
  cases ps with
  | nil => rfl
  | cons p ps =>
    rw [enclosed, inside, asText_plain_cons, asText_continued, RestQuery.enclosed,
      String.append_assoc]
    rfl

end Lexeme

theorem OperandTexts.asText_ofList (texts : List String) :
    asText (ofList texts).lexemes = enclosed (texts.map Value.shielded) := by
  have spelled : asText (Lexeme.enclosed (texts.map shielded)) =
      enclosed (texts.map Value.shielded) := by
    rw [asText_enclosed, List.map_map]
    exact congrArg enclosed (List.map_congr_left fun s _ => asText_shielded s)
  rw [ofList]
  split
  next => exact spelled
  next lone =>
    -- The empty text has no lexemes, so it leaves no trace between the parentheses.
    rw [← spelled, Decidable.not_not.1 lone]
    rfl

/-! ## The content of a group -/

section Content

variable (write : QueryText)

theorem Value.shieldedOperand_eq (v : Value) :
    v.shieldedOperand write = Value.shielded <$> v.operandText write := by
  rw [shieldedOperand, map_eq_pure_bind]

/-- An operand in a group is written from its texts. -/
theorem Filter.operandText_eq (f : Filter) :
    f.operandText write true = (fun t => asText t.lexemes) <$> f.operandTexts write := by
  rcases f with ⟨operator, column, operand, negated⟩
  have single : operand.shieldedOperand write = (fun t => asText (OperandTexts.lexemes t)) <$>
      (do return .single (← operand.operandText write)) := by
    simp only [map_bind, map_pure, OperandTexts.lexemes, asText_shielded]
    exact rfl
  cases operand with
  | tuple items =>
    have each := funext (Value.shieldedOperand_eq write)
    simp only [operandText, operandTexts, Value.operandList, each, mapM_map_result, bind_map_left,
      map_bind, map_pure, OperandTexts.asText_ofList]
  | _ => exact single

/-- A filter in a group is written from its item. -/
theorem Filter.inline_eq (f : Filter) :
    f.inline write "" = (fun i => asText i.lexemes) <$> f.item write := by
  simp only [inline, written, item, operandText_eq, bind_map_left, map_bind, map_pure, bind_assoc,
    pure_bind, GroupItem.lexemes, asText_append, asText_plain_cons, asText_plains, asText_marked,
    String.empty_append, String.append_assoc]
  rfl

/-- The content of a group is written from its items. -/
theorem FilterGroup.content_eq (g : FilterGroup) :
    g.content write = (fun items => asText (Lexeme.enclosed (items.map GroupItem.lexemes))) <$>
      g.contents write := by
  have groups (h : FilterGroup) (items : List GroupItem) :
      h.key ++ enclosed (items.map fun i => asText i.lexemes) =
        asText (GroupItem.lexemes (.group h.connective h.negated items)) := by
    simp only [GroupItem.lexemes, asText_append, asText_marked, asText_enclosed, List.map_map, key,
      Function.comp_def]
  have items : g.flattened (fun f => f.inline write "") (fun h items => h.key ++ enclosed items) =
      List.map (fun i : GroupItem => asText i.lexemes) <$> g.contents write :=
    flattened_map (fun i : GroupItem => asText i.lexemes) (Filter.inline_eq write) groups g
  rw [content, items, bind_map_left, map_eq_pure_bind]
  simp only [asText_enclosed, List.map_map, Function.comp_def]

theorem Filter.operandTexts_succeeds {f : Filter} (typed : f.operand.isOperand) :
    Succeeds (f.operandTexts write) := by
  rcases f with ⟨operator, column, operand, negated⟩
  have single : operand.isScalar → Succeeds (OperandTexts.single <$> operand.operandText write) :=
    fun scalar => (Value.operandText_succeeds write scalar).map _
  cases operand with
  | tuple items =>
    have each := List.all_eq_true.1 typed
    exact (Succeeds.mapM fun v member => Value.operandText_succeeds write (each v member)).map _
  | _ => exact single typed

/-- A group of typed filters has contents. -/
theorem FilterGroup.contents_succeeds (g : FilterGroup) (typed : ∀ f ∈ g.conditions, f.isTyped) :
    Succeeds (g.contents write) := by
  refine g.flattened_succeeds fun f member => ?_
  have operand := (Bool.and_eq_true_iff.1 (typed f member)).2
  exact (f.column_succeeds write (Filter.isQueryFree_of_isTyped (typed f member))).bind fun _ =>
    (Filter.operandTexts_succeeds write operand).bind fun _ => .pure _

end Content

end RestQuery
