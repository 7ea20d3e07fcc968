import RestQuery.Proofs.Group.Contents
import RestQuery.Proofs.Json.Spelling

/-!
# Which quoted operands can be read back

The grammar of filters reads an item that opens with a quote up to the first quote that is not
escaped, where a backslash stands for the character behind it; any other item stands for itself.
Between quotes only a quote is written with a backslash before it, and a backslash is not, so a text
with a backslash is read as another text, and may even end before its quote.

`Operand.readQuoted?_escaped` reads back what has no backslash, and
`Operand.not_mem_of_readQuoted?` says that nothing else is read back, whatever stands behind it.
The lists follow: `Value.operands_read_back_iff`.
-/

namespace RestQuery

open Lexeme

namespace Operand

/-! ## The reader -/

/-- A character in front of what is read. -/
def behind (c : Char) (read : Option (List Char × List Char)) : Option (List Char × List Char) :=
  read.map fun (cs, rest) => (c :: cs, rest)

/-- What stands before the first quote that is not escaped, and what follows that quote; a backslash
stands for the character behind it. -/
def readQuoted? : List Char → Option (List Char × List Char)
  | [] => none
  | '"' :: cs => some ([], cs)
  | ['\\'] => none
  | '\\' :: c :: cs => behind c (readQuoted? cs)
  | c :: cs => behind c (readQuoted? cs)

/-- Whether a character belongs to an item without quotes. -/
def isLiteral (c : Char) : Bool := c ≠ ',' && c ≠ ')'

/-- The text of the first item, and what follows it. -/
def readItem? : List Char → Option (List Char × List Char)
  | '"' :: cs => readQuoted? cs
  | cs => some (cs.takeWhile isLiteral, cs.dropWhile isLiteral)

theorem behind_eq_some {c : Char} {read : Option (List Char × List Char)} {cs rest : List Char} :
    behind c read = some (cs, rest) ↔ ∃ ds, read = some (ds, rest) ∧ cs = c :: ds := by
  rcases read with - | ⟨ds, rest'⟩
  · simp [behind]
  · simp only [behind, Option.map_some, Option.some.injEq, Prod.mk.injEq]
    constructor
    · rintro ⟨rfl, rfl⟩
      exact ⟨ds, ⟨rfl, rfl⟩, rfl⟩
    · rintro ⟨_, ⟨rfl, rfl⟩, rfl⟩
      exact ⟨rfl, rfl⟩

theorem length_readQuoted? {cs item rest : List Char}
    (read : readQuoted? cs = some (item, rest)) : rest.length < cs.length := by
  fun_induction readQuoted? cs generalizing item with
  | case1 => cases read
  | case2 cs =>
    cases read
    exact Nat.lt_succ_self _
  | case3 => cases read
  | case4 c cs ih =>
    obtain ⟨ds, read, _⟩ := behind_eq_some.1 read
    exact Nat.lt_add_right 2 (ih read)
  | case5 c cs _ _ _ ih =>
    obtain ⟨ds, read, _⟩ := behind_eq_some.1 read
    exact Nat.lt_add_right 1 (ih read)

theorem length_readItem? {cs item rest : List Char} (read : readItem? cs = some (item, rest)) :
    rest.length ≤ cs.length := by
  fun_cases readItem? cs with
  | case1 cs => exact Nat.le_succ_of_le (Nat.le_of_lt (length_readQuoted? read))
  | case2 =>
    rw [readItem?] at read
    · cases read
      exact (List.dropWhile_sublist _).length_le
    · assumption

/-- The texts of the items before the closing parenthesis, behind which nothing may stand. -/
def readItems? (cs : List Char) : Option (List (List Char)) :=
  match _ : readItem? cs with
  | some (item, ',' :: rest) => (readItems? rest).map (item :: ·)
  | some (item, [')']) => some [item]
  | _ => none
termination_by cs.length
decreasing_by exact length_readItem? ‹_›

/-- The texts of the items of a list. -/
def readList? : List Char → Option (List (List Char))
  | ['(', ')'] => some []
  | '(' :: cs => readItems? cs
  | _ => none

theorem readQuoted?_plain {c : Char} (noQuote : c ≠ '"') (noBackslash : c ≠ '\\')
    (cs : List Char) : readQuoted? (c :: cs) = behind c (readQuoted? cs) := by
  rw [readQuoted?]
  · exact noQuote
  · exact fun backslash _ => noBackslash backslash
  · exact fun _ _ backslash _ => noBackslash backslash

/-- A quote is escaped by a backslash, and the reader takes the backslash away. -/
theorem readQuoted?_escaped_cons {c : Char} (noBackslash : c ≠ '\\') (cs rest : List Char) :
    readQuoted? (escaped (c :: cs) ++ rest) = behind c (readQuoted? (escaped cs ++ rest)) := by
  rw [escaped_cons]
  split
  next quote =>
    subst quote
    rfl
  next other => exact readQuoted?_plain other noBackslash _

/-- A character is never read as something else. -/
theorem behind_ne {c d : Char} (differ : c ≠ d) (read : Option (List Char × List Char))
    (cs rest : List Char) : behind c read ≠ some (d :: cs, rest) := by
  intro same
  obtain ⟨_, _, whole⟩ := behind_eq_some.1 same
  exact differ (List.cons.inj whole).1.symm

/-! ## Texts between quotes -/

/-- A text without a backslash is read back, up to its own closing quote. -/
theorem readQuoted?_escaped {cs : List Char} (free : '\\' ∉ cs) (rest : List Char) :
    readQuoted? (escaped cs ++ '"' :: rest) = some (cs, rest) := by
  induction cs with
  | nil => rfl
  | cons c cs ih =>
    have noBackslash : c ≠ '\\' := fun backslash => free (backslash ▸ List.mem_cons_self)
    rw [readQuoted?_escaped_cons noBackslash,
      ih fun member => free (List.mem_cons_of_mem c member)]
    rfl

/-- Some backslashes in front of a text. -/
def backslashed (n : Nat) (cs : List Char) : List Char := List.replicate n '\\' ++ cs

theorem backslashed_cons (n : Nat) (cs : List Char) :
    backslashed n ('\\' :: cs) = backslashed (n + 1) cs := by
  rw [backslashed, backslashed, List.replicate_succ', List.append_assoc, List.singleton_append]

/-- Once the reader has lost a backslash, it never catches up: neither from what is written for a
text nor from a backslash in front of that does it read backslashes and then the text. -/
theorem readQuoted?_ne_backslashed (cs rest : List Char) (n : Nat) :
    (∀ rest', readQuoted? (escaped cs ++ '"' :: rest) ≠ some (backslashed (n + 1) cs, rest')) ∧
    (∀ rest', readQuoted? ('\\' :: (escaped cs ++ '"' :: rest)) ≠
      some (backslashed (n + 1) cs, rest')) := by
  induction cs generalizing n with
  | nil =>
    have nothing : ([] : List Char) ≠ backslashed (n + 1) [] := (List.cons_ne_nil _ _).symm
    exact ⟨fun _ same => nothing (Prod.mk.inj (Option.some.inj same)).1,
      fun _ => behind_ne (by decide) _ _ _⟩
  | cons c cs ih =>
    by_cases backslash : c = '\\'
    · -- The two ways of falling behind follow each other from one backslash to the next.
      subst backslash
      refine ⟨fun rest' same => ?_, fun rest' same => ?_⟩
      · rw [backslashed_cons] at same
        exact (ih (n + 1)).2 rest' same
      · rw [backslashed_cons] at same
        obtain ⟨ds, read, whole⟩ := behind_eq_some.1 same
        obtain ⟨_, rfl⟩ := List.cons.inj whole
        exact (ih n).1 rest' read
    · refine ⟨fun rest' => ?_, fun rest' same => ?_⟩
      · rw [readQuoted?_escaped_cons backslash]
        exact behind_ne backslash _ _ _
      · by_cases quote : c = '"'
        · -- The backslash in front takes the one written for the quote, which then ends the text.
          subst quote
          obtain ⟨ds, read, whole⟩ := behind_eq_some.1 same
          obtain ⟨rfl, _⟩ := Prod.mk.inj (Option.some.inj read)
          cases n <;> cases (List.cons.inj whole).2
        · rw [escaped_cons, if_neg quote] at same
          exact behind_ne backslash _ _ _ same

/-- A text is read back only if it has no backslash, whatever stands behind it. -/
theorem not_mem_of_readQuoted? {cs rest rest' : List Char}
    (read : readQuoted? (escaped cs ++ '"' :: rest) = some (cs, rest')) : '\\' ∉ cs := by
  induction cs with
  | nil => exact List.not_mem_nil
  | cons c cs ih =>
    have noBackslash : c ≠ '\\' := by
      rintro rfl
      exact (readQuoted?_ne_backslashed cs rest 0).2 rest' read
    rw [readQuoted?_escaped_cons noBackslash] at read
    obtain ⟨ds, read, whole⟩ := behind_eq_some.1 read
    obtain ⟨_, rfl⟩ := List.cons.inj whole
    exact List.not_mem_cons_of_ne_of_not_mem noBackslash.symm (ih read)

/-! ## Items -/

/-- What follows an item: a comma or a closing parenthesis. -/
inductive EndsItem : List Char → Prop
  | comma (cs : List Char) : EndsItem (',' :: cs)
  | close (cs : List Char) : EndsItem (')' :: cs)

/-- The text has no backslash, if it stands between quotes. -/
def IsReadable (s : String) : Prop := s.toList.any Value.reserved.contains → '\\' ∉ s.toList

instance (s : String) : Decidable (IsReadable s) := inferInstanceAs (Decidable (_ → _))

theorem spelled_shielded (s : String) : spelled (shielded s) = (Value.shielded s).toList := by
  rw [← asText_shielded, asText, String.toList_ofList]

/-- A text without reserved characters stands for itself up to what follows it. -/
theorem readItem?_plain {cs rest : List Char} (free : cs.any Value.reserved.contains = false)
    (ends : EndsItem rest) : readItem? (cs ++ rest) = some (cs, rest) := by
  have unreserved : ∀ c ∈ cs, c ∉ Value.reserved := by simpa using free
  have literal : ∀ c ∈ cs, isLiteral c := by
    intro c member
    have other := unreserved c member
    simp only [Value.reserved, List.mem_cons, not_or] at other
    simp [isLiteral, other]
  have stops : rest.takeWhile isLiteral = [] ∧ rest.dropWhile isLiteral = rest := by
    cases ends <;> exact ⟨rfl, rfl⟩
  rw [readItem?]
  · rw [List.takeWhile_append_of_pos literal, List.dropWhile_append_of_pos literal, stops.1,
      stops.2, List.append_nil]
  · intro ds quote
    cases cs with
    | nil => cases ends <;> cases quote
    | cons c cs =>
      obtain ⟨rfl, _⟩ := List.cons.inj quote
      exact unreserved '"' List.mem_cons_self (by decide)

/-- An item is read back exactly if it is readable, and then up to what follows it. -/
theorem readItem?_shielded {s : String} (readable : IsReadable s) {rest : List Char}
    (ends : EndsItem rest) :
    readItem? (spelled (shielded s) ++ rest) = some (s.toList, rest) := by
  rw [spelled_shielded, Value.shielded]
  split
  next quoted =>
    rw [String.toList_ofList, Value.quote_eq, List.append_assoc]
    exact readQuoted?_escaped (readable quoted) rest
  next free => exact readItem?_plain (Bool.eq_false_iff.2 free) ends

theorem isReadable_of_readItem? {s : String} {rest rest' : List Char}
    (read : readItem? (spelled (shielded s) ++ rest) = some (s.toList, rest')) : IsReadable s := by
  intro quoted
  rw [spelled_shielded, Value.shielded, if_pos quoted, String.toList_ofList, Value.quote_eq,
    List.append_assoc] at read
  exact not_mem_of_readQuoted? read

/-! ## Lists -/

theorem readItems?_comma {cs item rest : List Char}
    (read : readItem? cs = some (item, ',' :: rest)) :
    readItems? cs = (readItems? rest).map (item :: ·) := by
  rw [readItems?]
  split <;> simp_all

theorem readItems?_close {cs item : List Char} (read : readItem? cs = some (item, [')'])) :
    readItems? cs = some [item] := by
  rw [readItems?]
  split <;> simp_all

theorem readItem?_of_readItems? {cs item : List Char} {items : List (List Char)}
    (read : readItems? cs = some (item :: items)) : ∃ rest, readItem? cs = some (item, rest) := by
  rw [readItems?] at read
  split at read
  next item' rest first =>
    obtain ⟨_, _, whole⟩ := Option.map_eq_some_iff.1 read
    obtain ⟨rfl, _⟩ := List.cons.inj whole
    exact ⟨_, first⟩
  next item' first =>
    obtain ⟨rfl, _⟩ := List.cons.inj (Option.some.inj read)
    exact ⟨_, first⟩
  next => cases read

/-- The text of some operands behind the opening parenthesis of their list. -/
def joined (s : String) (ss : List String) : List Char :=
  spelled (shielded s) ++ spelled (continued (ss.map shielded))

theorem spelled_continued_cons (s : String) (ss : List String) :
    spelled (continued ((s :: ss).map shielded)) = ',' :: joined s ss := by
  rw [joined, ← spelled_append]
  rfl

theorem endsItem_continued (ss : List String) :
    EndsItem (spelled (continued (ss.map shielded))) := by
  cases ss with
  | nil => exact .close []
  | cons s ss =>
    rw [spelled_continued_cons]
    exact .comma _

/-- Operands are read back exactly if each of them is readable. -/
theorem readItems?_joined_iff (s : String) (ss : List String) :
    readItems? (joined s ss) = some ((s :: ss).map String.toList) ↔
      ∀ t ∈ s :: ss, IsReadable t := by
  induction ss generalizing s with
  | nil =>
    rw [List.forall_mem_singleton]
    refine ⟨fun read => ?_, fun readable => ?_⟩
    · obtain ⟨_, first⟩ := readItem?_of_readItems? read
      exact isReadable_of_readItem? first
    · exact readItems?_close (readItem?_shielded readable (endsItem_continued []))
  | cons s' ss ih =>
    rw [List.forall_mem_cons, ← ih]
    have further (readable : IsReadable s) : readItems? (joined s (s' :: ss)) =
        (readItems? (joined s' ss)).map (s.toList :: ·) := by
      have first := readItem?_shielded readable (endsItem_continued (s' :: ss))
      rw [spelled_continued_cons] at first
      rw [joined, spelled_continued_cons, readItems?_comma first]
    refine ⟨fun read => ?_, fun ⟨readable, read⟩ => ?_⟩
    · obtain ⟨_, first⟩ := readItem?_of_readItems? read
      have readable := isReadable_of_readItem? first
      rw [further readable] at read
      obtain ⟨_, others, whole⟩ := Option.map_eq_some_iff.1 read
      exact ⟨readable, others.trans (congrArg some (List.cons.inj whole).2)⟩
    · rw [further readable, read]
      rfl

theorem eq_empty_of_spelled {s : String} (nothing : spelled (shielded s) = []) : s = "" := by
  rw [spelled_shielded, Value.shielded] at nothing
  split at nothing
  next => rw [String.toList_ofList] at nothing; cases nothing
  next => exact String.toList_eq_nil_iff.1 nothing

/-- Only the empty text alone is written like no items. -/
theorem joined_ne_close {s : String} {ss : List String} (proper : s :: ss ≠ [""]) :
    joined s ss ≠ [')'] := by
  intro closed
  rcases List.append_eq_singleton_iff.1 closed with ⟨nothing, rest⟩ | ⟨_, nothing⟩
  · cases ss with
    | nil => exact proper (congrArg (· :: []) (eq_empty_of_spelled nothing))
    | cons s' ss =>
      rw [spelled_continued_cons] at rest
      cases rest
  · have ends := endsItem_continued ss
    rw [nothing] at ends
    cases ends

theorem toList_enclosed_shielded (s : String) (ss : List String) :
    (enclosed ((s :: ss).map Value.shielded)).toList = '(' :: joined s ss := by
  have asLexemes : (s :: ss).map Value.shielded = ((s :: ss).map shielded).map asText := by
    rw [List.map_map]
    exact List.map_congr_left fun t _ => (asText_shielded t).symm
  rw [asLexemes, ← asText_enclosed, asText, String.toList_ofList, joined, ← spelled_append]
  rfl

/-- A list is read back exactly if each of its texts is readable. -/
theorem readList?_enclosed_iff {texts : List String} (proper : texts ≠ [""]) :
    readList? (enclosed (texts.map Value.shielded)).toList = some (texts.map String.toList) ↔
      ∀ s ∈ texts, IsReadable s := by
  cases texts with
  | nil => exact iff_of_true rfl fun _ member => absurd member List.not_mem_nil
  | cons s ss =>
    rw [toList_enclosed_shielded, readList?]
    · exact readItems?_joined_iff s ss
    · exact joined_ne_close proper

end Operand

/-! ## Texts that are not empty -/

theorem Binary64.finiteText_ne_empty (layout : Layout) (negative : Bool) (mantissa : Nat)
    (exponent : Int) : finiteText layout negative mantissa exponent ≠ "" := by
  have written (d : Digits) : layout.write d ≠ [] := by
    rw [Layout.write, positional, scientific]
    split
    · split <;> simp
    · simp
  intro nothing
  rw [finiteText, ← String.toList_eq_nil_iff, String.toList_ofList] at nothing
  exact written _ (List.append_eq_nil_iff.1 nothing).2

theorem Binary64.text_ne_empty (x : Binary64) : x.text ≠ "" := by
  cases x with
  | finite negative m e => exact finiteText_ne_empty _ _ _ _
  | infinite negative => cases negative <;> decide
  | nan _ => exact fun nothing => absurd (congrArg String.toList nothing) (by simp [text])

theorem Decimal.finiteChars_ne_nil (coefficient : Nat) (exponent : Int) :
    finiteChars coefficient exponent ≠ [] := by
  have placed (point : Int) : placePoint (Nat.toDigits 10 coefficient) point ≠ [] := by
    rw [placePoint]
    split
    · simp
    · split <;> simp [Nat.toDigits_ne_nil]
  rw [finiteChars]
  split
  · exact placed _
  · exact List.append_ne_nil_of_left_ne_nil (placed _) _

theorem Decimal.text_ne_empty (d : Decimal) : d.text ≠ "" := by
  cases d with
  | finite negative coefficient exponent =>
    intro nothing
    rw [text, ← String.toList_eq_nil_iff, String.toList_ofList] at nothing
    exact finiteChars_ne_nil _ _ (List.append_eq_nil_iff.1 nothing).2
  | infinite negative => cases negative <;> decide
  | nan negative signaling payload _ =>
    cases signaling <;> simp [text]

theorem toString_int_ne_empty (i : Int) : toString i ≠ "" := by
  intro nothing
  rw [← String.toList_eq_nil_iff, Json.toList_toString_int] at nothing
  exact Nat.toDigits_ne_nil (List.append_eq_nil_iff.1 nothing).2

theorem Token.word_ne_empty (t : Token) : t.word ≠ "" := by
  cases t with
  | _ a => cases a <;> decide

theorem Value.eq_empty_of_operandText {write : QueryText} {v : Value} (scalar : v.isScalar)
    (written : v.operandText write = .ok "") : v = .text "" := by
  cases v with
  | text s => rw [Except.ok.inj written]
  | null => exact absurd (Except.ok.inj written) (by decide)
  | bool b => cases b <;> exact absurd (Except.ok.inj written) (by decide)
  | int i => exact absurd (Except.ok.inj written) (toString_int_ne_empty i)
  | float x => exact absurd (Except.ok.inj written) x.text_ne_empty
  | decimal d => exact absurd (Except.ok.inj written) d.text_ne_empty
  | token t => exact absurd (Except.ok.inj written) t.word_ne_empty
  | _ => cases scalar

/-! ## Operands of filters -/

namespace Value

open Operand

/-- Only the list of the empty text has no text but that. -/
theorem operandTexts_ne {write : QueryText} {vs : List Value} {texts : List String}
    (scalars : ∀ v ∈ vs, v.isScalar) (proper : vs ≠ [.text ""])
    (written : vs.mapM (operandText write) = .ok texts) : texts ≠ [""] := by
  rintro rfl
  cases vs with
  | nil => cases written
  | cons v vs =>
    rw [List.mapM_cons] at written
    obtain ⟨s, first, written⟩ := bind_eq_ok.1 written
    obtain ⟨ss, others, written⟩ := bind_eq_ok.1 written
    obtain ⟨rfl, rfl⟩ := List.cons.inj (Except.ok.inj written)
    have empty := eq_empty_of_operandText (scalars v List.mem_cons_self) first
    cases vs with
    | nil => exact proper (congrArg (· :: []) empty)
    | cons v' vs =>
      obtain ⟨_, _, among⟩ := exists_of_mapM_eq_ok others List.mem_cons_self
      exact absurd among List.not_mem_nil

/-- Lists of scalars, and scalars in a group, are written so that their texts can be read back
exactly if no text between quotes has a backslash. -/
theorem operands_read_back_iff (write : QueryText) :
    (∀ vs : List Value, (∀ v ∈ vs, v.isScalar) → vs ≠ [.text ""] →
      ∃ texts t, vs.mapM (operandText write) = .ok texts ∧ operandList write vs = .ok t ∧
        (readList? t.toList = some (texts.map String.toList) ↔ ∀ s ∈ texts, IsReadable s)) ∧
    ∀ v : Value, v.isScalar →
      ∃ s t, v.operandText write = .ok s ∧ v.shieldedOperand write = .ok t ∧
        ∀ rest, EndsItem rest →
          (readItem? (t.toList ++ rest) = some (s.toList, rest) ↔ IsReadable s) := by
  refine ⟨fun vs scalars proper => ?_, fun v scalar => ?_⟩
  · obtain ⟨texts, written⟩ := Succeeds.mapM fun v member =>
      operandText_succeeds write (scalars v member)
    have several := readList?_enclosed_iff (operandTexts_ne scalars proper written)
    refine ⟨texts, _, written, ?_, several⟩
    rw [operandList, funext (shieldedOperand_eq write), mapM_map_result, written]
    rfl
  · obtain ⟨s, written⟩ := operandText_succeeds write scalar
    refine ⟨s, shielded s, written, ?_, fun rest ends => ?_⟩
    · rw [shieldedOperand_eq, written]
      rfl
    · rw [← spelled_shielded]
      exact ⟨isReadable_of_readItem?, fun readable => readItem?_shielded readable ends⟩

/-- Some scalars, most of which stand between quotes, one of them with quotes inside. -/
def scalars : List Value := [.text "a,b", .int 1, .text "say \"hi\"", .text "\\", .null]

/-- A backslash does no harm outside quotes, and neither do quotes inside. -/
theorem operands_read_back_iff_scalars :
    (∀ v ∈ scalars, v.isScalar) ∧ scalars ≠ [.text ""] ∧ (Value.text "a.b").isScalar ∧
    EndsItem ",id.eq.1)".toList ∧
    (∃ t, operandList (fun _ => .ok "") scalars = .ok t ∧ readList? t.toList =
      some (["a,b", "1", "say \"hi\"", "\\", "null"].map String.toList)) ∧
    ∃ t, (Value.text "a.b").shieldedOperand (fun _ => .ok "") = .ok t ∧
      readItem? (t.toList ++ ",id.eq.1)".toList) = some ("a.b".toList, ",id.eq.1)".toList) := by
  have typed : ∀ v ∈ scalars, v.isScalar := by decide
  have proper : scalars ≠ [.text ""] := by simp [scalars]
  have ends : EndsItem ",id.eq.1)".toList := .comma _
  obtain ⟨texts, t, written, list, several⟩ :=
    (operands_read_back_iff fun _ => .ok "").1 scalars typed proper
  obtain ⟨s, t', text, item, single⟩ :=
    (operands_read_back_iff fun _ => .ok "").2 (.text "a.b") rfl
  obtain rfl := Except.ok.inj (written.symm.trans rfl)
  obtain rfl := Except.ok.inj (text.symm.trans rfl)
  exact ⟨typed, proper, rfl, ends, ⟨t, list, several.2 (by decide)⟩,
    ⟨t', item, (single _ ends).2 (by decide)⟩⟩

/-- A text that ends in a backslash ends behind its quote, and of the next text two commas are left
outside quotes: two texts are read as three others. -/
theorem backslash_not_read_back :
    operandList (fun _ => .ok "") [.text "a,b\\", .text ",c,d"] = .ok "(\"a,b\\\",\",c,d\")" ∧
    readList? "(\"a,b\\\",\",c,d\")".toList = some (["a,b\",", "c", "d\""].map String.toList) ∧
    readList? "(\"a,b\\\",\",c,d\")".toList ≠ some (["a,b\\", ",c,d"].map String.toList) := by
  have three : readList? "(\"a,b\\\",\",c,d\")".toList =
      some (["a,b\",", "c", "d\""].map String.toList) := by
    have last : readItems? "d\")".toList = some ["d\"".toList] := readItems?_close rfl
    have second : readItem? "c,d\")".toList = some ("c".toList, ',' :: "d\")".toList) := rfl
    have first : readItem? "\"a,b\\\",\",c,d\")".toList =
        some ("a,b\",".toList, ',' :: "c,d\")".toList) := rfl
    have items := readItems?_comma first
    rw [readItems?_comma second, last] at items
    exact items
  exact ⟨rfl, three, by rw [three]; decide⟩

end Value

end RestQuery
