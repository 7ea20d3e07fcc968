import RestQuery.Header.Merge
import RestQuery.Proofs.Text.Ascii

/-!
# Methods that read

Of the letters beyond ASCII some have ASCII capitals, but none of them one that stands in the name
of a method that reads.  So `GET` and `HEAD` are recognised in every case, and no other text is
taken for one of them: `isReading_iff`.
-/

namespace RestQuery

namespace Text

/-- The letters of the methods that read. -/
def methodLetters : List Char := ['G', 'E', 'T', 'H', 'A', 'D']

theorem not_methodLetter {n : Nat} (foreign : 128 ≤ n) : Char.ofNat n ∉ methodLetters := by
  intro member
  have bounds : methodLetters.all (·.toNat < 128) := by decide
  have small : (Char.ofNat n).toNat < 128 := of_decide_eq_true (List.all_eq_true.1 bounds _ member)
  by_cases valid : n.isValidChar
  · rw [Char.ofNat, dif_pos valid] at small
    exact Nat.not_lt.2 foreign small
  · rw [Char.ofNat, dif_neg valid] at member
    exact absurd member (by decide)

/-- Beyond ASCII only two letters have an ASCII capital and no other, and it is none of these. -/
theorem exists_upperChars {c : Char} (foreign : 128 ≤ c.toNat) :
    ∃ d ∈ upperChars c, d ∉ methodLetters := by
  have long : upperLong.all fun entry =>
      (entry.2.map Char.ofNat).any (· ∉ methodLetters) := by decide
  have runs : upperRuns.all fun run => 128 ≤ (run.1 : Int) + run.2.2.2 ∨
      run.1 = run.2.1 ∧ Char.ofNat ((run.1 : Int) + run.2.2.2).toNat ∉ methodLetters := by
    decide +kernel
  rw [upperChars, if_neg (by omega)]
  split
  next entry found =>
    obtain ⟨d, member, other⟩ :=
      List.any_eq_true.1 (List.all_eq_true.1 long _ (List.mem_of_find?_eq_some found))
    exact ⟨d, member, of_decide_eq_true other⟩
  next =>
    refine ⟨_, List.mem_singleton_self _, ?_⟩
    cases shift : shifted? upperRuns c with
    | none =>
      have own := not_methodLetter foreign
      rwa [Char.ofNat_toNat] at own
    | some d =>
      rw [shifted?, Option.map_eq_some_iff] at shift
      obtain ⟨⟨first, last, step, distance⟩, found, rfl⟩ := shift
      have within := List.find?_some found
      simp only [Bool.and_eq_true, decide_eq_true_eq] at within
      have own := List.all_eq_true.1 runs _ (List.mem_of_find?_eq_some found)
      rcases of_decide_eq_true own with far | ⟨alone, other⟩
      · refine not_methodLetter ?_
        simp only at far
        omega
      · have same : c.toNat = first := by
          simp only at alone
          omega
        rw [← same] at other
        exact other

/-- A text with capitals among these letters is ASCII. -/
theorem allAscii_of_upper {s : String} {capitals : Char → List Char}
    (foreign : ∀ c : Char, 128 ≤ c.toNat → ∃ d ∈ capitals c, d ∉ methodLetters)
    (letters : ∀ d ∈ s.toList.flatMap capitals, d ∈ methodLetters) : allAscii s := by
  rw [allAscii, List.all_eq_true]
  refine fun c member => decide_eq_true (Nat.lt_of_not_le fun large => ?_)
  obtain ⟨d, among, other⟩ := foreign c large
  exact other (letters d (List.mem_flatMap.2 ⟨c, member, among⟩))

/-- Unicode knows no other ways of writing such texts in small letters than ASCII does. -/
theorem upper_eq_iff {s t : String} (named : t.toList.all (· ∈ methodLetters)) :
    upper s = t ↔ s.toList.map Char.toUpper = t.toList := by
  have letters : ∀ c ∈ t.toList, c ∈ methodLetters := fun c member =>
    of_decide_eq_true (List.all_eq_true.1 named c member)
  have same (ascii : allAscii s) : upper s = t ↔ s.toList.map Char.toUpper = t.toList := by
    rw [upper_of_ascii ascii, ← String.toList_inj, String.toList_ofList]
  constructor
  · intro capitals
    refine (same (allAscii_of_upper (fun c => exists_upperChars) ?_)).1 capitals
    rwa [← String.toList_ofList (l := s.toList.flatMap upperChars), ← upper, capitals]
  · intro capitals
    have foreign (c : Char) (foreign : 128 ≤ c.toNat) :
        ∃ d ∈ [c.toUpper], d ∉ methodLetters := by
      have own := not_methodLetter foreign
      rw [Char.ofNat_toNat] at own
      exact ⟨_, List.mem_singleton_self _, by rwa [toUpper_of_foreign foreign]⟩
    refine (same (allAscii_of_upper foreign ?_)).2 capitals
    rwa [← List.map_eq_flatMap, capitals]

end Text

/-- A method reads if it is `GET` or `HEAD` in some case. -/
theorem isReading_iff (method : String) :
    isReading method ↔ method.toList.map Char.toUpper ∈ ["GET".toList, "HEAD".toList] := by
  have reading : isReading method ↔ Text.upper method = "GET" ∨ Text.upper method = "HEAD" := by
    simp [isReading]
  rw [reading, Text.upper_eq_iff (by decide), Text.upper_eq_iff (by decide)]
  simp

end RestQuery
