import RestQuery.Text.Basic
import RestQuery.Text.Form

/-!
# Reading form encoding

`Text.formDecode?` reads a text in form encoding: a plus sign is a space, and the rest is UTF-8 in
percent sequences.  `Text.formDecode?_formEncode` says that it reads back whatever was encoded, and
`Text.not_mem_formEncode` that an encoded text holds neither of the two marks that separate
parameters, so that cutting at them (`Text.pieces_intercalate`, `Text.splitFirst_append`) finds the
encoded texts again.
-/

namespace RestQuery.Text

/-- A plus sign as the space that it stands for. -/
def spaceOfPlus (c : Char) : Char := if c = '+' then ' ' else c

/-- The text of some characters in form encoding, if their percent sequences are UTF-8. -/
def formDecode? (cs : List Char) : Option String := decode? (unescapeBytes (cs.map spaceOfPlus))

/-! ## Percent sequences -/

theorem hexValue?_hexDigitUpper {n : Nat} (small : n < 16) :
    hexValue? (hexDigitUpper n) = some n := by
  revert n
  decide

theorem hexDigitUpper_ne {n : Nat} (small : n < 16) :
    hexDigitUpper n ≠ '+' ∧ hexDigitUpper n ≠ '&' ∧ hexDigitUpper n ≠ '=' := by
  revert n
  decide

theorem spaceOfPlus_of_ne {c : Char} (other : c ≠ '+') : spaceOfPlus c = c := if_neg other

/-- The digits of a byte are below sixteen. -/
theorem digits_lt (b : UInt8) : b.toNat / 16 < 16 ∧ b.toNat % 16 < 16 := by
  have := b.toNat_lt
  omega

theorem map_spaceOfPlus_percent (b : UInt8) : (percent b).map spaceOfPlus = percent b := by
  obtain ⟨high, low⟩ := digits_lt b
  rw [percent, List.map_cons, List.map_cons, List.map_cons, List.map_nil,
    spaceOfPlus_of_ne (hexDigitUpper_ne high).1, spaceOfPlus_of_ne (hexDigitUpper_ne low).1]
  rfl

theorem unescapeBytes_percent (b : UInt8) (rest : List Char) :
    unescapeBytes (percent b ++ rest) = b :: unescapeBytes rest := by
  obtain ⟨high, low⟩ := digits_lt b
  rw [percent, List.cons_append, List.cons_append, List.cons_append, List.nil_append,
    unescapeBytes, hexValue?_hexDigitUpper high, hexValue?_hexDigitUpper low]
  have whole : 16 * (b.toNat / 16) + b.toNat % 16 = b.toNat := Nat.div_add_mod _ _
  simp only [whole, UInt8.ofNat_toNat]

theorem map_spaceOfPlus_percents (bytes : List UInt8) :
    (bytes.flatMap percent).map spaceOfPlus = bytes.flatMap percent := by
  simp only [List.map_flatMap, map_spaceOfPlus_percent]

theorem unescapeBytes_percents (bytes : List UInt8) (rest : List Char) :
    unescapeBytes (bytes.flatMap percent ++ rest) = bytes ++ unescapeBytes rest := by
  induction bytes with
  | nil => rfl
  | cons b bs ih =>
    rw [List.flatMap_cons, List.append_assoc, unescapeBytes_percent, ih, List.cons_append]

/-- A character other than the percent sign stands for its bytes. -/
theorem unescapeBytes_cons {c : Char} (plain : c ≠ '%') (rest : List Char) :
    unescapeBytes (c :: rest) = String.utf8EncodeChar c ++ unescapeBytes rest := by
  rw [unescapeBytes]
  intro _ _ _ percent
  exact absurd percent plain

/-! ## One character -/

theorem isUnreserved_ne {c : Char} (unreserved : isUnreserved c) :
    c ≠ '%' ∧ c ≠ '+' ∧ c ≠ '&' ∧ c ≠ '=' := by
  refine ⟨?_, ?_, ?_, ?_⟩
  all_goals
    rintro rfl
    exact absurd unreserved (by decide)

theorem unescapeBytes_formChar (c : Char) (rest : List Char) :
    unescapeBytes ((formChar c).map spaceOfPlus ++ rest) =
      String.utf8EncodeChar c ++ unescapeBytes rest := by
  rw [formChar]
  split
  next unreserved =>
    obtain ⟨percent, plus, _, _⟩ := isUnreserved_ne unreserved
    rw [List.map_cons, List.map_nil, spaceOfPlus_of_ne plus]
    exact unescapeBytes_cons percent rest
  next =>
    split
    next space =>
      rw [space]
      exact unescapeBytes_cons (by decide) rest
    next =>
      rw [map_spaceOfPlus_percents]
      exact unescapeBytes_percents _ rest

theorem not_mem_percent {sep : Char} (mark : sep = '&' ∨ sep = '=') (b : UInt8) :
    sep ∉ percent b := by
  obtain ⟨high, low⟩ := digits_lt b
  obtain ⟨_, highAmp, highEq⟩ := hexDigitUpper_ne high
  obtain ⟨_, lowAmp, lowEq⟩ := hexDigitUpper_ne low
  simp only [percent, List.mem_cons, List.not_mem_nil, or_false]
  rintro (rfl | rfl | rfl)
  · exact absurd mark (by decide)
  · exact mark.elim highAmp highEq
  · exact mark.elim lowAmp lowEq

theorem not_mem_formChar {sep : Char} (mark : sep = '&' ∨ sep = '=') (c : Char) :
    sep ∉ formChar c := by
  rw [formChar]
  split
  next unreserved =>
    obtain ⟨_, _, amp, eq⟩ := isUnreserved_ne unreserved
    rintro member
    rw [List.mem_singleton] at member
    subst member
    exact mark.elim amp eq
  next =>
    split
    next => rcases mark with rfl | rfl <;> decide
    next =>
      intro member
      obtain ⟨b, _, inside⟩ := List.mem_flatMap.1 member
      exact not_mem_percent mark b inside

/-! ## Whole texts -/

theorem unescapeBytes_formEncode (cs : List Char) :
    unescapeBytes ((cs.flatMap formChar).map spaceOfPlus) = cs.flatMap String.utf8EncodeChar := by
  induction cs with
  | nil => rfl
  | cons c cs ih =>
    rw [List.flatMap_cons, List.map_append, unescapeBytes_formChar, ih, List.flatMap_cons]

/-- Whatever was encoded is read back. -/
theorem formDecode?_formEncode (s : String) : formDecode? (formEncode s).toList = some s := by
  rw [formDecode?, formEncode, String.toList_ofList, unescapeBytes_formEncode]
  exact decode?_encode s

/-- An encoded text holds no mark that separates parameters or names and values. -/
theorem not_mem_formEncode {sep : Char} (mark : sep = '&' ∨ sep = '=') (s : String) :
    sep ∉ (formEncode s).toList := by
  rw [formEncode, String.toList_ofList, List.mem_flatMap]
  rintro ⟨c, _, member⟩
  exact not_mem_formChar mark c member

/-! ## Cutting at a separator -/

theorem splitFirst_append {sep : Char} {before : List Char} (free : sep ∉ before)
    (after : List Char) : splitFirst sep (before ++ sep :: after) = (before, some after) := by
  induction before with
  | nil => simp [splitFirst]
  | cons c cs ih =>
    obtain ⟨other, free⟩ := List.ne_and_not_mem_of_not_mem_cons free
    rw [List.cons_append, splitFirst, if_neg other.symm, ih free]

theorem splitFirst_of_not_mem {sep : Char} {cs : List Char} (free : sep ∉ cs) :
    splitFirst sep cs = (cs, none) := by
  induction cs with
  | nil => rfl
  | cons c cs ih =>
    obtain ⟨other, free⟩ := List.ne_and_not_mem_of_not_mem_cons free
    rw [splitFirst, if_neg other.symm, ih free]

/-- What is cut off at the first separator has none, and both parts make up the text. -/
theorem eq_append_of_splitFirst {sep : Char} {cs before after : List Char}
    (cut : splitFirst sep cs = (before, some after)) :
    sep ∉ before ∧ cs = before ++ sep :: after := by
  induction cs generalizing before with
  | nil => cases cut
  | cons c cs ih =>
    rw [splitFirst] at cut
    split at cut
    next same =>
      cases cut
      exact ⟨List.not_mem_nil, by rw [same, List.nil_append]⟩
    next other =>
      obtain ⟨rfl, found⟩ := Prod.mk.inj cut
      obtain ⟨free, whole⟩ := ih (Prod.ext rfl found)
      refine ⟨fun member => ?_, by rw [List.cons_append, ← whole]⟩
      rcases List.mem_cons.1 member with same | later
      · exact other same.symm
      · exact free later

theorem pieces_of_not_mem {sep : Char} {cs : List Char} (free : sep ∉ cs) :
    pieces sep cs = [cs] := by
  induction cs with
  | nil => rfl
  | cons c cs ih =>
    obtain ⟨other, free⟩ := List.ne_and_not_mem_of_not_mem_cons free
    rw [pieces, if_neg other.symm, ih free]

theorem pieces_append {sep : Char} {first : List Char} (free : sep ∉ first) (rest : List Char) :
    pieces sep (first ++ sep :: rest) = first :: pieces sep rest := by
  induction first with
  | nil => simp [pieces]
  | cons c cs ih =>
    obtain ⟨other, free⟩ := List.ne_and_not_mem_of_not_mem_cons free
    rw [List.cons_append, pieces, if_neg other.symm, ih free]

/-- Texts without the separator are what is found between the separators that join them. -/
theorem pieces_intercalate {sep : Char} {p : List Char} {ps : List (List Char)}
    (free : ∀ p' ∈ p :: ps, sep ∉ p') : pieces sep ([sep].intercalate (p :: ps)) = p :: ps := by
  induction ps generalizing p with
  | nil =>
    rw [List.intercalate_singleton]
    exact pieces_of_not_mem (free p List.mem_cons_self)
  | cons p' ps ih =>
    obtain ⟨first, rest⟩ := List.forall_mem_cons.1 free
    rw [List.intercalate_cons_cons, List.append_assoc, List.singleton_append, pieces_append first,
      ih rest]

end RestQuery.Text
