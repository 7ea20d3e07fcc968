import Mathlib.Data.List.Infix
import RestQuery.Proofs.Header.Preferences

/-!
# Runs of characters in a text

`Text.contains` finds a run of characters that stands somewhere in a text (`contains_iff`).  A run
without a separator stands in a text exactly if it stands on one side of the separator, so cutting,
trimming and joining a text neither make nor break such a run.  A run of small letters that stands
in a text stands in the text in lower case too, which is never the shorter one.
-/

namespace RestQuery.Text

theorem occurs_iff {run cs : List Char} : occurs run cs ↔ run <:+: cs := by
  induction cs with
  | nil => rw [occurs, List.isEmpty_iff, List.infix_nil]
  | cons c cs ih =>
    rw [occurs, Bool.or_eq_true, List.isPrefixOf_iff_prefix, ih, List.infix_cons_iff]

theorem contains_iff {whole part : String} : contains whole part ↔ part.toList <:+: whole.toList :=
  occurs_iff

section Separated

variable {run : List Char}

theorem eq_nil_of_prefix_cons {sep : Char} {cs : List Char} (free : sep ∉ run)
    (start : run <+: sep :: cs) : run = [] := by
  cases run with
  | nil => rfl
  | cons c rest =>
    obtain ⟨rfl, _⟩ := List.cons_prefix_cons.1 start
    exact absurd List.mem_cons_self free

/-- A run without the separator does not reach across it. -/
theorem infix_append_cons_iff {sep : Char} (free : sep ∉ run) {before after : List Char} :
    run <:+: before ++ sep :: after ↔ run <:+: before ∨ run <:+: after := by
  rw [List.infix_append_iff, List.infix_cons_iff]
  constructor
  · rintro (inside | (start | behind) | ⟨first, second, rfl, ending, start⟩)
    · exact .inl inside
    · rw [eq_nil_of_prefix_cons free start]
      exact .inl List.nil_infix
    · exact .inr behind
    · have none : second = [] :=
        eq_nil_of_prefix_cons (fun member => free (List.mem_append_right first member)) start
      rw [none, List.append_nil]
      exact .inl ending.isInfix
  · rintro (inside | behind)
    · exact .inl inside
    · exact .inr (.inl (.inr behind))

theorem infix_append_of_foreign {front : List Char} (foreign : ∀ c ∈ front, c ∉ run)
    {cs : List Char} : run <:+: front ++ cs ↔ run <:+: cs := by
  induction front with
  | nil => rfl
  | cons c front ih =>
    obtain ⟨first, rest⟩ := List.forall_mem_cons.1 foreign
    rw [← ih rest, ← List.nil_append (c :: front ++ cs), List.cons_append,
      infix_append_cons_iff first, or_iff_right_of_imp]
    intro none
    rw [List.infix_nil.1 none]
    exact List.nil_infix

theorem append_infix_of_foreign {back : List Char} (foreign : ∀ c ∈ back, c ∉ run)
    {cs : List Char} : run <:+: cs ++ back ↔ run <:+: cs := by
  cases back with
  | nil => rw [List.append_nil]
  | cons c back =>
    obtain ⟨first, rest⟩ := List.forall_mem_cons.1 foreign
    rw [infix_append_cons_iff first, or_iff_left_of_imp]
    intro inside
    rw [← List.append_nil back, infix_append_of_foreign rest, List.infix_nil] at inside
    rw [inside]
    exact List.nil_infix

/-- Trimming a text leaves the runs without blanks in it. -/
theorem Trimmed.infix_iff {cs rest : List Char} (trimmed : Trimmed cs rest)
    (visible : ∀ c ∈ run, ¬isBlank c) : run <:+: cs ↔ run <:+: rest := by
  obtain ⟨front, back, rfl, blanks⟩ := trimmed.cut
  have foreign : ∀ c ∈ front ++ back, c ∉ run := fun c blank member =>
    visible c member (blanks c blank)
  obtain ⟨before, behind⟩ := List.forall_mem_append.1 foreign
  rw [append_infix_of_foreign behind, infix_append_of_foreign before]

/-- A run without the separator stands in one of the texts that are joined. -/
theorem infix_intercalate_iff {sep : Char} (free : sep ∉ run) (filled : run ≠ [])
    {parts : List (List Char)} :
    run <:+: [sep].intercalate parts ↔ ∃ part ∈ parts, run <:+: part := by
  induction parts with
  | nil => simp [List.intercalate, filled]
  | cons part parts ih =>
    cases parts with
    | nil => simp [List.intercalate]
    | cons next parts =>
      rw [List.intercalate_cons_cons, List.append_assoc, List.singleton_append,
        infix_append_cons_iff free, ih]
      simp only [List.mem_cons, exists_eq_or_imp]

end Separated

/-! ## Letter case -/

theorem lowerChars_ne_nil (c : Char) : lowerChars c ≠ [] := by
  rw [lowerChars]
  split
  · exact List.cons_ne_nil _ _
  · split <;> exact List.cons_ne_nil _ _

/-- The small letters of a text are those of its first part and of the rest. -/
theorem exists_lowerAll_append (before front rest : List Char) :
    ∃ lowered, lowerAll before (front ++ rest) =
        lowered ++ lowerAll (front.reverse ++ before) rest ∧
      front.length ≤ lowered.length := by
  induction front generalizing before with
  | nil => exact ⟨[], rfl, Nat.le_refl 0⟩
  | cons c front ih =>
    obtain ⟨lowered, split, longer⟩ := ih (c :: before)
    rw [List.cons_append, lowerAll, split, ← List.append_assoc, List.reverse_cons,
      List.append_assoc front.reverse, List.singleton_append]
    refine ⟨_, rfl, ?_⟩
    have own : 0 < (if c.toNat = 0x3a3 ∧ startsCased before ∧ !startsCased (front ++ rest) then
        ['\u03c2'] else lowerChars c).length := by
      split
      · exact Nat.one_pos
      · exact List.length_pos_of_ne_nil (lowerChars_ne_nil c)
    rw [List.length_append, List.length_cons]
    omega

theorem length_le_lower (s : String) : s.toList.length ≤ (lower s).toList.length := by
  obtain ⟨lowered, split, longer⟩ := exists_lowerAll_append [] s.toList []
  rw [List.append_nil] at split
  rw [lower, String.toList_ofList, split, List.length_append]
  omega

/-- Small letters stay as they are. -/
theorem lowerAll_small {run : List Char} (small : ∀ c ∈ run, c.toNat < 0x80 ∧ c.toLower = c)
    (before rest : List Char) :
    lowerAll before (run ++ rest) = run ++ lowerAll (run.reverse ++ before) rest := by
  induction run generalizing before with
  | nil => rfl
  | cons c run ih =>
    obtain ⟨⟨ascii, same⟩, others⟩ := List.forall_mem_cons.1 small
    have sigma : ¬c.toNat = 0x3a3 := by omega
    rw [List.cons_append, lowerAll, if_neg fun final => sigma final.1, lowerChars, if_pos ascii,
      same, ih others, List.reverse_cons, List.append_assoc run.reverse]
    rfl

theorem infix_lower {run : List Char} (small : ∀ c ∈ run, c.toNat < 0x80 ∧ c.toLower = c)
    {s : String} (inside : run <:+: s.toList) : run <:+: (lower s).toList := by
  obtain ⟨front, back, whole⟩ := inside
  obtain ⟨lowered, split, _⟩ := exists_lowerAll_append [] front (run ++ back)
  rw [lower, String.toList_ofList, ← whole, List.append_assoc, split, lowerAll_small small]
  exact ⟨lowered, _, List.append_assoc _ _ _⟩

end RestQuery.Text
