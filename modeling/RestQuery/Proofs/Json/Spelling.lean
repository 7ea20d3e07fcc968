import Mathlib.Data.List.Forall2
import Mathlib.Data.List.TakeDrop
import RestQuery.Json.Tree
import RestQuery.Json.Writer

/-!
# What a JSON text spells

A run of characters spells a tree if the reader takes it for that tree, whatever stands behind it:
`Json.Spells`.  Nothing is said about the depth that the reader allows, as every text has a depth
that is enough for it.  The texts that the writer makes of single values spell them, and arrays and
objects spell the trees of what they are put together from.  No run of characters spells two trees
(`Spells.unique`), so a written text tells what it was written from.
-/

namespace RestQuery.Json

/-- What can stand behind a value in a JSON text. -/
inductive Ends : List Char → Prop
  | whole : Ends []
  | comma (cs : List Char) : Ends (',' :: cs)
  | bracket (cs : List Char) : Ends (']' :: cs)
  | brace (cs : List Char) : Ends ('\x7d' :: cs)

/-- The characters are read as the tree, if there is room and time enough, and what stands behind
them is left. -/
def Spells (cs : List Char) (t : Tree) : Prop :=
  ∃ bound, ∀ room steps rest, bound ≤ room → bound ≤ steps → Ends rest →
    readValue? room steps (cs ++ rest) = some (t, rest)

theorem Spells.unique {cs : List Char} {t u : Tree} (first : Spells cs t) (second : Spells cs u) :
    t = u := by
  obtain ⟨m, readFirst⟩ := first
  obtain ⟨n, readSecond⟩ := second
  have left := readFirst (max m n) (max m n) [] (by omega) (by omega) .whole
  have right := readSecond (max m n) (max m n) [] (by omega) (by omega) .whole
  rw [left] at right
  injection right with same
  exact (Prod.mk.inj same).1

/-- It is enough to look at readers with room and time for one step more. -/
theorem Spells.of_next {cs : List Char} {t : Tree} (bound : Nat)
    (reads : ∀ room steps rest, bound ≤ room → bound ≤ steps → Ends rest →
      readValue? (room + 1) (steps + 1) (cs ++ rest) = some (t, rest)) : Spells cs t := by
  refine ⟨bound + 1, fun room steps rest space enough ends => ?_⟩
  have read := reads (room - 1) (steps - 1) rest (by omega) (by omega) ends
  rwa [Nat.sub_add_cancel (by omega), Nat.sub_add_cancel (by omega)] at read

theorem skipBlank_cons {c : Char} (visible : isBlank c = false) (cs : List Char) :
    skipBlank (c :: cs) = c :: cs := by
  rw [skipBlank, List.dropWhile_cons_of_neg (by simp [visible])]

/-! ## Fixed words -/

theorem spells_null : Spells "null".toList .null :=
  .of_next 0 fun room steps rest _ _ _ => by
    simp [readValue?, skipBlank_cons, isBlank, readWord?]

theorem spells_bool (b : Bool) : Spells (if b then "true" else "false").toList (.bool b) :=
  .of_next 0 fun room steps rest _ _ _ => by
    cases b <;> simp [readValue?, skipBlank_cons, isBlank, readWord?]

/-! ## Quoted texts -/

/-- The four digits of a control character are read as its number. -/
theorem hexDigits_control : ∀ n : Fin 32,
    Text.hexDigits 4 n.val = ['0', '0', Nat.digitChar (n.val / 16), Nat.digitChar (n.val % 16)] ∧
      hexNumber? '0' '0' (Nat.digitChar (n.val / 16)) (Nat.digitChar (n.val % 16)) =
        some n.val := by
  decide

/-- A character is read from its escape. -/
theorem readQuoted?_escapeChar (c : Char) {tail cs rest : List Char}
    (behind : readQuoted? tail = some (cs, rest)) :
    readQuoted? (escapeChar c ++ tail) = some (c :: cs, rest) := by
  rw [escapeChar]
  split
  next mark => rcases mark with rfl | rfl <;> simp [readQuoted?, shortEscape?, behind]
  split
  next same => simp [readQuoted?, shortEscape?, behind, same]
  split
  next same => simp [readQuoted?, shortEscape?, behind, same]
  split
  next same => simp [readQuoted?, shortEscape?, behind, same]
  split
  next same => simp [readQuoted?, shortEscape?, behind, same]
  split
  next same => simp [readQuoted?, shortEscape?, behind, same]
  split
  next control =>
    obtain ⟨digits, number⟩ := hexDigits_control ⟨c.toNat, control⟩
    dsimp only at digits number
    have single : ¬(0xd800 ≤ c.toNat ∧ c.toNat < 0xdc00) := by omega
    have single' : ¬(0xdc00 ≤ c.toNat ∧ c.toNat < 0xe000) := by omega
    rw [digits]
    simp only [List.cons_append, List.nil_append, readQuoted?, number]
    simp [single, single', behind, Char.ofNat_toNat]
  next plain _ _ _ _ _ visible =>
    obtain ⟨quote, backslash⟩ := not_or.1 plain
    rw [List.singleton_append, readQuoted?]
    · simp [visible, backslash, behind]
    all_goals simp_all

/-- A quoted text is read as its characters. -/
theorem readQuoted?_escaped (cs rest : List Char) :
    readQuoted? (cs.flatMap escapeChar ++ '"' :: rest) = some (cs, rest) := by
  induction cs with
  | nil => simp [readQuoted?]
  | cons c cs ih =>
    rw [List.flatMap_cons, List.append_assoc]
    exact readQuoted?_escapeChar c ih

theorem toList_quoted (s : String) :
    (quoted s).toList = '"' :: s.toList.flatMap escapeChar ++ ['"'] := by
  rw [quoted, String.toList_ofList]

theorem spells_quoted (s : String) : Spells (quoted s).toList (.text s) :=
  .of_next 0 fun room steps rest _ _ _ => by
    rw [toList_quoted, readValue?]
    simp [skipBlank_cons, isBlank, readQuoted?_escaped]

/-! ## Whole numbers -/

/-- A number is not read on into what stands behind it. -/
theorem Ends.not_number {rest : List Char} (ends : Ends rest) :
    (rest.takeWhile Char.isDigit = [] ∧ rest.dropWhile Char.isDigit = rest) ∧
      readFraction? rest = some (none, rest) ∧ readExponent? rest = some (none, rest) := by
  cases ends with
  | whole => exact ⟨⟨rfl, rfl⟩, rfl, rfl⟩
  | comma cs | bracket cs | brace cs => simp [readFraction?, readExponent?]

/-- No number but zero starts with a zero. -/
theorem toDigits_head_zero (n : Nat) : (Nat.toDigits 10 n).head? = some '0' → n = 0 := by
  induction n using Nat.strongRecOn with
  | ind n ih =>
    intro zero
    rcases Nat.lt_or_ge n 10 with small | large
    · rw [Nat.toDigits_of_lt_base small] at zero
      simpa using zero
    · rw [Nat.toDigits_of_base_le (by decide) large,
        List.head?_append_of_ne_nil _ Nat.toDigits_ne_nil] at zero
      have := ih (n / 10) (by omega) zero
      omega

theorem readUnsigned?_toDigits (negative : Bool) (n : Nat) {rest : List Char} (ends : Ends rest) :
    readUnsigned? negative (Nat.toDigits 10 n ++ rest) = some (⟨negative, n, 0, true⟩, rest) := by
  obtain ⟨⟨stop, left⟩, noFraction, noExponent⟩ := ends.not_number
  have digits : ∀ c ∈ Nat.toDigits 10 n, c.isDigit = true := fun c member =>
    Nat.isDigit_of_mem_toDigits (by decide) (by decide) member
  have cut : (Nat.toDigits 10 n ++ rest).span Char.isDigit = (Nat.toDigits 10 n, rest) := by
    rw [List.span_eq_takeWhile_dropWhile, List.takeWhile_append_of_pos digits,
      List.dropWhile_append_of_pos digits, stop, left, List.append_nil]
  have value : numeral (Nat.toDigits 10 n) = n := Nat.ofDigitChars_ten_toDigits
  rw [readUnsigned?]
  simp only [cut]
  split
  next none => exact absurd none Nat.toDigits_ne_nil
  next d ds padded =>
    have := toDigits_head_zero n (by rw [padded]; rfl)
    subst this
    cases padded
  next => simp [noFraction, noExponent, value]

theorem toDigits_eq_cons (n : Nat) : ∃ d ds, Nat.toDigits 10 n = d :: ds ∧ d.isDigit := by
  obtain ⟨d, ds, whole⟩ := List.exists_cons_of_ne_nil (Nat.toDigits_ne_nil (n := n) (b := 10))
  have first : d ∈ Nat.toDigits 10 n := by
    rw [whole]
    exact List.mem_cons_self
  exact ⟨d, ds, whole, Nat.isDigit_of_mem_toDigits (by decide) (by decide) first⟩

/-- A whole number is written as its digits, behind a sign if it has one. -/
theorem toList_toString_int (i : Int) :
    (toString i).toList = (if i < 0 then ['-'] else []) ++ Nat.toDigits 10 i.natAbs := by
  rw [Int.toString_eq_repr, Int.repr_eq_if]
  split
  next positive =>
    have same : i.toNat = i.natAbs := by omega
    rw [if_neg (by omega), Nat.toList_repr, same, List.nil_append]
  next negative =>
    have same : (-i).toNat = i.natAbs := by omega
    rw [if_pos (by omega), String.toList_append, Nat.toList_repr, same]
    rfl

theorem readNumber?_toString (i : Int) {rest : List Char} (ends : Ends rest) :
    readNumber? ((toString i).toList ++ rest) =
      some (⟨decide (i < 0), i.natAbs, 0, true⟩, rest) := by
  rw [toList_toString_int]
  split
  next negative =>
    rw [List.singleton_append, List.cons_append, readNumber?, readUnsigned?_toDigits _ _ ends]
    simp [negative]
  next positive =>
    obtain ⟨d, ds, whole, digit⟩ := toDigits_eq_cons i.natAbs
    rw [List.nil_append, readNumber?, readUnsigned?_toDigits _ _ ends]
    · simp [positive]
    · intro cs signed
      rw [whole] at signed
      cases signed
      simp at digit

/-- What starts with a sign or a digit is read as a number. -/
theorem readValue?_number {c : Char} (first : c = '-' ∨ c.isDigit) (room steps : Nat)
    (cs : List Char) : readValue? room (steps + 1) (c :: cs) =
      (readNumber? (c :: cs)).map fun (n, rest) => (.number n, rest) := by
  have visible : isBlank c = false := by
    rw [isBlank]
    rcases first with rfl | digit
    · rfl
    · have bounds := Char.isDigit_iff_toNat.1 digit
      simp only [Bool.or_eq_false_iff, decide_eq_false_iff_not]
      refine ⟨⟨⟨?_, ?_⟩, ?_⟩, ?_⟩ <;> rintro rfl <;> simp at digit
  rw [readValue?, skipBlank_cons visible]
  split
  all_goals try (next same => cases same; simp at first)
  rfl

theorem spells_int (i : Int) :
    Spells (toString i).toList (.number ⟨decide (i < 0), i.natAbs, 0, true⟩) := by
  have first : ∃ c cs, (toString i).toList = c :: cs ∧ (c = '-' ∨ c.isDigit) := by
    obtain ⟨d, ds, whole, digit⟩ := toDigits_eq_cons i.natAbs
    rw [toList_toString_int, whole]
    split
    · exact ⟨'-', d :: ds, rfl, .inl rfl⟩
    · exact ⟨d, ds, rfl, .inr digit⟩
  obtain ⟨c, cs, whole, start⟩ := first
  refine .of_next 0 fun room steps rest _ _ ends => ?_
  have read := readNumber?_toString i ends
  rw [whole, List.cons_append] at read ⊢
  rw [readValue?_number start, read]
  rfl

/-! ## Lists between brackets -/

/-- A reader that takes one item after the other up to a closing character takes all of them, if it
takes a last one and if it takes one more in front of those that it takes already. -/
theorem reads_intercalate {α : Type} {read : Nat → Nat → List Char → Option (List α × List Char)}
    {written : List Char → α → Prop} {close : Char}
    (last : ∀ cs a, written cs a → ∃ bound, ∀ room steps rest, bound ≤ room → bound ≤ steps →
      read room steps (cs ++ close :: rest) = some ([a], rest))
    (more : ∀ cs a, written cs a → ∃ bound, ∀ room steps behind as rest, bound ≤ room →
      bound ≤ steps → read room steps behind = some (as, rest) →
      read room (steps + 1) (cs ++ ',' :: behind) = some (a :: as, rest))
    {items : List (List Char)} {as : List α} (each : List.Forall₂ written items as)
    (filled : items ≠ []) :
    ∃ bound, ∀ room steps rest, bound ≤ room → bound ≤ steps →
      read room steps ([','].intercalate items ++ close :: rest) = some (as, rest) := by
  induction each with
  | nil => exact absurd rfl filled
  | @cons item a items as first others ih =>
    cases others with
    | nil =>
      rw [List.intercalate_singleton]
      exact last item a first
    | cons first' others =>
      obtain ⟨bound, reads⟩ := ih (List.cons_ne_nil _ _)
      obtain ⟨own, further⟩ := more item a first
      refine ⟨max own bound + 1, fun room steps rest space enough => ?_⟩
      obtain ⟨steps, rfl⟩ : ∃ n, steps = n + 1 := ⟨steps - 1, by omega⟩
      rw [List.intercalate_cons_cons, List.append_assoc, List.append_assoc, List.singleton_append]
      exact further room steps _ _ rest (by omega) (by omega)
        (reads room steps rest (by omega) (by omega))

/-! ## Arrays -/

theorem readItems?_last (cs : List Char) (t : Tree) (spells : Spells cs t) :
    ∃ bound, ∀ room steps rest, bound ≤ room → bound ≤ steps →
      readItems? room steps (cs ++ ']' :: rest) = some ([t], rest) := by
  obtain ⟨bound, reads⟩ := spells
  refine ⟨bound + 1, fun room steps rest space enough => ?_⟩
  obtain ⟨steps, rfl⟩ : ∃ n, steps = n + 1 := ⟨steps - 1, by omega⟩
  rw [readItems?, reads room steps _ (by omega) (by omega) (.bracket rest)]
  simp [skipBlank_cons, isBlank]

theorem readItems?_more (cs : List Char) (t : Tree) (spells : Spells cs t) :
    ∃ bound, ∀ room steps behind ts rest, bound ≤ room → bound ≤ steps →
      readItems? room steps behind = some (ts, rest) →
      readItems? room (steps + 1) (cs ++ ',' :: behind) = some (t :: ts, rest) := by
  obtain ⟨bound, reads⟩ := spells
  refine ⟨bound, fun room steps behind ts rest space enough others => ?_⟩
  rw [readItems?, reads room steps _ space enough (.comma behind)]
  simp [skipBlank_cons, isBlank, others]

/-- There are no items where the array ends. -/
theorem readItems?_closed {cs further : List Char} (closed : skipBlank cs = ']' :: further)
    (room steps : Nat) : readItems? room steps cs = none := by
  have value : readValue? room (steps - 1) cs = none := by
    cases steps - 1 with
    | zero => rfl
    | succ steps =>
      rw [readValue?, closed]
      rfl
  cases steps with
  | zero => rfl
  | succ steps =>
    rw [readItems?]
    rw [Nat.add_sub_cancel] at value
    rw [value]
    rfl

theorem toList_arrayText (items : List String) :
    (arrayText items).toList = '[' :: ([','].intercalate (items.map String.toList) ++ [']']) := by
  simp [arrayText, String.toList_append, String.toList_intercalate]

theorem readValue?_array {room steps : Nat} {cs rest : List Char} {items : List Tree}
    (read : readItems? room steps cs = some (items, rest)) :
    readValue? (room + 1) (steps + 1) ('[' :: cs) = some (.array items, rest) := by
  rw [readValue?, skipBlank_cons rfl]
  simp only
  split
  next further closed =>
    rw [readItems?_closed closed] at read
    cases read
  next =>
    rw [read]
    rfl

theorem readValue?_emptyArray (room steps : Nat) (rest : List Char) :
    readValue? (room + 1) (steps + 1) ('[' :: ']' :: rest) = some (.array [], rest) := by
  simp [readValue?, skipBlank_cons, isBlank]

theorem spells_array {items : List String} {trees : List Tree}
    (each : List.Forall₂ (fun item t => Spells item.toList t) items trees) :
    Spells (arrayText items).toList (.array trees) := by
  rw [toList_arrayText]
  cases each with
  | nil => exact .of_next 0 fun room steps rest _ _ _ => readValue?_emptyArray room steps rest
  | @cons item t items trees first others =>
    have spelled : List.Forall₂ Spells ((item :: items).map String.toList) (t :: trees) :=
      List.forall₂_map_left_iff.2 (.cons first others)
    obtain ⟨bound, reads⟩ :=
      reads_intercalate readItems?_last readItems?_more spelled (List.cons_ne_nil _ _)
    refine .of_next bound fun room steps rest space enough _ => ?_
    rw [List.cons_append, List.append_assoc, List.singleton_append]
    exact readValue?_array (reads room steps rest space enough)

/-! ## Objects -/

/-- A member of an object: the characters of its name and value stand for a name and a tree. -/
def Member (cs : List Char) (m : String × Tree) : Prop :=
  ∃ value, cs = '"' :: m.1.toList.flatMap escapeChar ++ '"' :: ':' :: value ∧ Spells value m.2

theorem readMembers?_last (cs : List Char) (m : String × Tree) (member : Member cs m) :
    ∃ bound, ∀ room steps rest, bound ≤ room → bound ≤ steps →
      readMembers? room steps (cs ++ '\x7d' :: rest) = some ([m], rest) := by
  obtain ⟨value, rfl, bound, reads⟩ := member
  refine ⟨bound + 1, fun room steps rest space enough => ?_⟩
  obtain ⟨steps, rfl⟩ : ∃ n, steps = n + 1 := ⟨steps - 1, by omega⟩
  simp [readMembers?, skipBlank_cons, isBlank, readQuoted?_escaped,
    reads room steps _ (by omega) (by omega) (.brace rest)]

theorem readMembers?_more (cs : List Char) (m : String × Tree) (member : Member cs m) :
    ∃ bound, ∀ room steps behind ms rest, bound ≤ room → bound ≤ steps →
      readMembers? room steps behind = some (ms, rest) →
      readMembers? room (steps + 1) (cs ++ ',' :: behind) = some (m :: ms, rest) := by
  obtain ⟨value, rfl, bound, reads⟩ := member
  refine ⟨bound, fun room steps behind ms rest space enough others => ?_⟩
  simp [readMembers?, skipBlank_cons, isBlank, readQuoted?_escaped,
    reads room steps _ space enough (.comma behind), others]

theorem toList_objectText (members : List (String × String)) :
    (objectText members).toList =
      '\x7b' :: ([','].intercalate (members.map fun (key, value) =>
        '"' :: key.toList.flatMap escapeChar ++ '"' :: ':' :: value.toList) ++ ['\x7d']) := by
  simp [objectText, String.toList_append, String.toList_intercalate, toList_quoted,
    Function.comp_def]

theorem readValue?_object {room steps : Nat} {cs rest : List Char} {members : List (String × Tree)}
    (read : readMembers? room steps cs = some (members, rest)) :
    readValue? (room + 1) (steps + 1) ('\x7b' :: cs) = some (.object members, rest) := by
  rw [readValue?, skipBlank_cons rfl]
  simp only
  split
  next further closed =>
    cases steps with
    | zero => cases read
    | succ steps =>
      rw [readMembers?, closed] at read
      cases read
  next =>
    rw [read]
    rfl

theorem readValue?_emptyObject (room steps : Nat) (rest : List Char) :
    readValue? (room + 1) (steps + 1) ('\x7b' :: '\x7d' :: rest) = some (.object [], rest) := by
  simp [readValue?, skipBlank_cons, isBlank]

theorem spells_object {members : List (String × String)} {trees : List (String × Tree)}
    (each : List.Forall₂ (fun m t => m.1 = t.1 ∧ Spells m.2.toList t.2) members trees) :
    Spells (objectText members).toList (.object trees) := by
  rw [toList_objectText]
  cases each with
  | nil => exact .of_next 0 fun room steps rest _ _ _ => readValue?_emptyObject room steps rest
  | @cons m t members trees first others =>
    have written : List.Forall₂ Member ((m :: members).map fun (key, value) =>
        '"' :: key.toList.flatMap escapeChar ++ '"' :: ':' :: value.toList) (t :: trees) := by
      refine List.forall₂_map_left_iff.2 (.imp ?_ (.cons first others))
      rintro ⟨key, value⟩ ⟨name, tree⟩ ⟨rfl, spells⟩
      exact ⟨value.toList, rfl, spells⟩
    obtain ⟨bound, reads⟩ :=
      reads_intercalate readMembers?_last readMembers?_more written (List.cons_ne_nil _ _)
    refine .of_next bound fun room steps rest space enough _ => ?_
    rw [List.cons_append, List.append_assoc, List.singleton_append]
    exact readValue?_object (reads room steps rest space enough)

end RestQuery.Json
