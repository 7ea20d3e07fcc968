import RestQuery.Clause.Filters

/-!
# Quotes can be told apart

Inside quotes a quote is escaped by a backslash, but a backslash is not, so a quote behind a
backslash may be the end of one text or stand inside another.  This module reads written text as a
list of lexemes, each a plain character or a text between quotes, and shows that there is one such
reading only (`Lexeme.spelled_injective`), provided that no opening quote stands behind a backslash.

The argument follows two readings past the point where they part.  From there one of them is inside
quotes whenever the other is not: the next quote cannot be escaped, since it opens a text for the
reading that is outside, and so it ends one for the reading that is inside.  Hence both change
places at every quote, and at the end of the text one of them is still inside
(`Lexeme.Separated.not_meet`).
-/

namespace RestQuery

/-- Text as it stands between quotes, with a backslash before every quote. -/
def escaped (cs : List Char) : List Char := cs.flatMap fun c => if c = '"' then ['\\', '"'] else [c]

theorem Value.quote_eq (cs : List Char) : quote cs = '"' :: escaped cs ++ ['"'] := rfl

theorem escaped_cons (c : Char) (cs : List Char) :
    escaped (c :: cs) = (if c = '"' then ['\\', '"'] else [c]) ++ escaped cs := rfl

/-! ## Guarded quotes -/

/-- Every quote stands behind a backslash; `before` is the character in front of the text. -/
def Guarded : Char → List Char → Prop
  | _, [] => True
  | before, c :: cs => (c = '"' → before = '\\') ∧ Guarded c cs

theorem Guarded.of_append {before c : Char} {cs ds : List Char}
    (guarded : Guarded before (cs ++ c :: ds)) : Guarded c ds := by
  induction cs generalizing before with
  | nil => exact guarded.2
  | cons d cs ih => exact ih guarded.2

theorem guarded_escaped (before : Char) (cs : List Char) : Guarded before (escaped cs) := by
  induction cs generalizing before with
  | nil => trivial
  | cons c cs ih =>
    rw [escaped_cons]
    split
    next => exact ⟨fun impossible => absurd impossible (by decide), fun _ => rfl, ih '"'⟩
    next other => exact ⟨fun quote => absurd quote other, ih c⟩

/-- Escaped text does not begin with a quote. -/
theorem escaped_ne_quote_cons (cs ds : List Char) : escaped cs ≠ '"' :: ds := by
  intro same
  have guarded := guarded_escaped 'a' cs
  rw [same] at guarded
  exact absurd (guarded.1 rfl) (by decide)

theorem escaped_injective {cs ds : List Char} (same : escaped cs = escaped ds) : cs = ds := by
  induction cs generalizing ds with
  | nil =>
    cases ds with
    | nil => rfl
    | cons d ds =>
      rw [escaped_cons] at same
      split at same <;> cases same
  | cons c cs ih =>
    cases ds with
    | nil =>
      rw [escaped_cons] at same
      split at same <;> cases same
    | cons d ds =>
      rw [escaped_cons, escaped_cons] at same
      split at same
      next quote =>
        split at same
        next quote' =>
          rw [quote, quote', ih (List.cons.inj (List.cons.inj same).2).2]
        next =>
          exact absurd (List.cons.inj same).2.symm (escaped_ne_quote_cons ds _)
      next =>
        split at same
        next => exact absurd (List.cons.inj same).2 (escaped_ne_quote_cons cs _)
        next => rw [(List.cons.inj same).1, ih (List.cons.inj same).2]

/-! ## Lexemes -/

/-- A piece of written text: a character that stands for itself, or a text between quotes. -/
inductive Lexeme where
  | plain (c : Char)
  | quoted (cs : List Char)
deriving DecidableEq

namespace Lexeme

def chars : Lexeme → List Char
  | plain c => [c]
  | quoted cs => Value.quote cs

/-- The written text of some lexemes. -/
def spelled (ls : List Lexeme) : List Char := ls.flatMap chars

/-- No plain character is a quote, and no opening quote stands behind a backslash; `before` is the
character in front of the lexemes. -/
def Separated : Char → List Lexeme → Prop
  | _, [] => True
  | _, plain c :: ls => c ≠ '"' ∧ Separated c ls
  | before, quoted _ :: ls => before ≠ '\\' ∧ Separated '"' ls

theorem spelled_append (ls ms : List Lexeme) : spelled (ls ++ ms) = spelled ls ++ spelled ms :=
  List.flatMap_append

theorem spelled_plain (c : Char) (ls : List Lexeme) :
    spelled (plain c :: ls) = c :: spelled ls := rfl

theorem spelled_quoted (cs : List Char) (ls : List Lexeme) :
    spelled (quoted cs :: ls) = '"' :: (escaped cs ++ '"' :: spelled ls) := by
  simp [spelled, chars, Value.quote_eq]

/-- Two readings of one text, one of which is outside quotes and the other inside, never meet. -/
theorem Separated.not_meet {before : Char} {ls ms : List Lexeme} {inside : List Char}
    (outer : Separated before ls) (later : Separated '"' ms) (guarded : Guarded before inside) :
    spelled ls ≠ inside ++ '"' :: spelled ms := by
  -- The readings change places at every quote, so it is the text that gets shorter.
  induction size : (spelled ls).length using Nat.strongRecOn generalizing before ls ms inside with
  | ind n ih =>
    intro same
    cases ls with
    | nil => cases inside <;> cases same
    | cons l ls =>
      cases l with
      | plain c =>
        rw [spelled_plain] at same size
        cases inside with
        | nil => exact outer.1 (List.cons.inj same).1
        | cons d inside =>
          obtain ⟨rfl, rest⟩ := List.cons.inj same
          have shorter : (spelled ls).length < n := size ▸ Nat.lt_succ_self _
          exact ih _ shorter outer.2 later guarded.2 rfl rest
      | quoted cs =>
        rw [spelled_quoted] at same size
        cases inside with
        | nil =>
          have rest := (List.cons.inj same).2
          have shorter : (spelled ms).length < n := by
            rw [← size, rest]
            exact Nat.lt_succ_self _
          exact ih _ shorter later outer.2 (guarded_escaped '"' cs) rfl rest.symm
        | cons d inside =>
          obtain ⟨rfl, _⟩ := List.cons.inj same
          exact outer.1 (guarded.1 rfl)

/-- Of two texts between quotes with the same text behind their opening quotes, the first does not
end inside the second. -/
theorem Separated.not_inside {cs ds middle : List Char} {ls ms : List Lexeme}
    (first : Separated '"' ls) (second : Separated '"' ms)
    (longer : escaped ds = escaped cs ++ middle)
    (same : '"' :: spelled ls = middle ++ '"' :: spelled ms) : middle = [] := by
  cases middle with
  | nil => rfl
  | cons c middle =>
    obtain ⟨rfl, rest⟩ := List.cons.inj same
    have guarded := guarded_escaped '"' ds
    rw [longer] at guarded
    exact absurd rest (first.not_meet second guarded.of_append)

theorem quoted_injective {cs ds : List Char} {ls ms : List Lexeme} (first : Separated '"' ls)
    (second : Separated '"' ms)
    (same : escaped cs ++ '"' :: spelled ls = escaped ds ++ '"' :: spelled ms) :
    cs = ds ∧ spelled ls = spelled ms := by
  rcases List.append_eq_append_iff.1 same with ⟨middle, longer, rest⟩ | ⟨middle, longer, rest⟩
  · obtain rfl := first.not_inside second longer rest
    rw [List.append_nil] at longer
    exact ⟨(escaped_injective longer).symm, (List.cons.inj rest).2⟩
  · obtain rfl := second.not_inside first longer rest
    rw [List.append_nil] at longer
    exact ⟨escaped_injective longer, (List.cons.inj rest).2.symm⟩

/-- A text has one reading only. -/
theorem spelled_injective {before : Char} {ls ms : List Lexeme} (left : Separated before ls)
    (right : Separated before ms) (same : spelled ls = spelled ms) : ls = ms := by
  induction ls generalizing before ms with
  | nil =>
    cases ms with
    | nil => rfl
    | cons m ms => cases m <;> cases same
  | cons l ls ih =>
    cases ms with
    | nil => cases l <;> cases same
    | cons m ms =>
      cases l with
      | plain c =>
        cases m with
        | plain d =>
          rw [spelled_plain, spelled_plain] at same
          obtain ⟨rfl, rest⟩ := List.cons.inj same
          rw [ih left.2 right.2 rest]
        | quoted ds => exact absurd (List.cons.inj same).1 left.1
      | quoted cs =>
        cases m with
        | plain d => exact absurd (List.cons.inj same).1.symm right.1
        | quoted ds =>
          rw [spelled_quoted, spelled_quoted] at same
          obtain ⟨rfl, rest⟩ := quoted_injective left.2 right.2 (List.cons.inj same).2
          rw [ih left.2 right.2 rest]

end Lexeme

end RestQuery
