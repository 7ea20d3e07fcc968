import Mathlib.Data.Nat.Digits.Defs
import RestQuery.Proofs.Header.Preferences
import RestQuery.Proofs.Number.Rounding
import RestQuery.Proofs.Response.Decoded

/-!
# The announced number of rows

`Headers.Announces` is the rule of the format: the total stands behind the first slash of the
content range.  Digits need not be a numeral (`Text.IsNumeral`), and a numeral need not be one that
can be computed with.  `RowCount.harmless_iff` is the main fact: header fields are harmless unless
they announce one of these two, and then the count fails, with one cause each.
-/

namespace RestQuery

/-! ## Numerals -/

namespace Text

/-- Decimal digits of any script write a number, the last one in the place of the units. -/
def IsNumeral (ds : List Char) (n : Nat) : Prop :=
  ds ≠ [] ∧ ∃ vs : List Nat, ds.map decimalValue? = vs.map some ∧ n = Nat.ofDigits 10 vs.reverse

/-- One more digit of a numeral. -/
def nextDigit (acc : Option Nat) (c : Char) : Option Nat := do
  return 10 * (← acc) + (← decimalValue? c)

theorem decimalNumeral?_eq_foldl (ds : List Char) :
    decimalNumeral? ds = ds.foldl nextDigit (some 0) := rfl

theorem foldl_nextDigit_none (cs : List Char) : cs.foldl nextDigit none = none := by
  induction cs with
  | nil => rfl
  | cons c cs ih => exact ih

theorem foldl_nextDigit_of_foreign {cs : List Char} {c : Char} (member : c ∈ cs)
    (foreign : decimalValue? c = none) (start : Option Nat) : cs.foldl nextDigit start = none := by
  obtain ⟨before, after, rfl⟩ := List.append_of_mem member
  have stopped (acc : Option Nat) : nextDigit acc c = none := by
    cases acc <;> simp [nextDigit, foreign]
  rw [List.foldl_append, List.foldl_cons, stopped, foldl_nextDigit_none]

theorem foldl_nextDigit_of_values {cs : List Char} {vs : List Nat}
    (values : cs.map decimalValue? = vs.map some) (start : Nat) :
    cs.foldl nextDigit (some start) = some (vs.foldl (fun n v => v + 10 * n) start) := by
  induction vs generalizing cs start with
  | nil =>
    rw [List.map_eq_nil_iff.1 values]
    rfl
  | cons v vs ih =>
    obtain ⟨c, cs, rfl, digit, values⟩ := List.map_eq_cons_iff.1 values
    have next : nextDigit (some start) c = some (v + 10 * start) := by
      simp [nextDigit, digit, Nat.add_comm]
    rw [List.foldl_cons, next, ih values, List.foldl_cons]

theorem exists_values {cs : List Char} (digits : ∀ c ∈ cs, decimalValue? c ≠ none) :
    ∃ vs : List Nat, cs.map decimalValue? = vs.map some := by
  refine ⟨cs.map fun c => (decimalValue? c).getD 0, ?_⟩
  rw [List.map_map]
  refine List.map_congr_left fun c member => ?_
  obtain ⟨v, digit⟩ := Option.ne_none_iff_exists'.1 (digits c member)
  simp [digit]

theorem decimalNumeral?_eq_some_iff {ds : List Char} {n : Nat} (filled : ds ≠ []) :
    decimalNumeral? ds = some n ↔ IsNumeral ds n := by
  have number (vs : List Nat) :
      Nat.ofDigits 10 vs.reverse = vs.foldl (fun n v => v + 10 * n) 0 := by
    rw [Nat.ofDigits_eq_foldr, List.foldr_reverse]
    rfl
  rw [decimalNumeral?_eq_foldl]
  constructor
  · intro read
    by_cases digits : ∀ c ∈ ds, decimalValue? c ≠ none
    · obtain ⟨vs, values⟩ := exists_values digits
      rw [foldl_nextDigit_of_values values, ← number] at read
      exact ⟨filled, vs, values, (Option.some.inj read).symm⟩
    · obtain ⟨c, member, foreign⟩ : ∃ c ∈ ds, decimalValue? c = none := by simpa using digits
      rw [foldl_nextDigit_of_foreign member foreign] at read
      cases read
  · rintro ⟨_, vs, values, rfl⟩
    rw [foldl_nextDigit_of_values values, number]

/-- The numerals are the texts of decimal digits. -/
theorem exists_isNumeral_iff {ds : List Char} :
    (∃ n, IsNumeral ds n) ↔ ds ≠ [] ∧ ∀ c ∈ ds, decimalValue? c ≠ none := by
  constructor
  · rintro ⟨n, numeral⟩
    refine ⟨numeral.1, fun c member foreign => ?_⟩
    have read := (decimalNumeral?_eq_some_iff numeral.1).2 numeral
    rw [decimalNumeral?_eq_foldl, foldl_nextDigit_of_foreign member foreign] at read
    cases read
  · rintro ⟨filled, digits⟩
    obtain ⟨vs, values⟩ := exists_values digits
    exact ⟨_, filled, vs, values, rfl⟩

theorem IsNumeral.isDigit {ds : List Char} {n : Nat} (numeral : IsNumeral ds n) :
    ∀ c ∈ ds, isDigit c := by
  intro c member
  have digit := (exists_isNumeral_iff.1 ⟨n, numeral⟩).2 c member
  rw [Text.isDigit, Option.isSome_iff_ne_none.2 digit, Bool.true_or]

/-! ## Trimmed texts -/

theorem dropWhile_isBlank {front rest : List Char} (blanks : ∀ c ∈ front, isBlank c)
    (first : ∀ c ∈ rest.head?, ¬isBlank c) : (front ++ rest).dropWhile isBlank = rest := by
  rw [List.dropWhile_append_of_pos blanks]
  cases rest with
  | nil => rfl
  | cons c cs => exact List.dropWhile_cons_of_neg (first c rfl)

/-- There is one way of trimming a text. -/
theorem Trimmed.eq_trimChars {cs rest : List Char} (trimmed : Trimmed cs rest) :
    rest = trimChars cs := by
  obtain ⟨⟨front, back, rfl, blanks⟩, first, last⟩ := trimmed
  obtain ⟨before, behind⟩ := List.forall_mem_append.1 blanks
  have backwards : ∀ c ∈ back.reverse, isBlank c :=
    fun c member => behind c (List.mem_reverse.1 member)
  rw [← List.head?_reverse] at last
  cases rest with
  | nil =>
    have nothing : ∀ c ∈ ([] : List Char).head?, ¬isBlank c := nofun
    have empty := dropWhile_isBlank blanks nothing
    rw [List.append_nil] at empty
    rw [trimChars, List.append_nil, empty]
    rfl
  | cons c rest =>
    have start : ∀ d ∈ (c :: rest ++ back).head?, ¬isBlank d := first
    rw [trimChars, List.append_assoc, dropWhile_isBlank before start, List.reverse_append,
      dropWhile_isBlank backwards last, List.reverse_reverse]

end Text

/-! ## What is announced -/

/-- The text behind the first slash of the content range is `ds`, blanks in front and at the end
left out. -/
def Headers.Announces (h : Headers) (ds : List Char) : Prop :=
  ∃ before after, h.get? "Content-Range" = some (String.ofList (before ++ '/' :: after)) ∧
    '/' ∉ before ∧ Text.Trimmed after ds

theorem Headers.announces_iff {h : Headers} {ds : List Char} :
    h.Announces ds ↔ (h.get? "Content-Range").bind RowCount.totalChars? = some ds := by
  constructor
  · rintro ⟨before, after, range, free, trimmed⟩
    rw [range, Option.bind_some, RowCount.totalChars?, String.toList_ofList,
      Text.splitFirst_append free, trimmed.eq_trimChars]
    rfl
  · intro found
    obtain ⟨range, given, total⟩ := Option.bind_eq_some_iff.1 found
    obtain ⟨after, cut, rfl⟩ := Option.map_eq_some_iff.1 total
    obtain ⟨free, whole⟩ := Text.eq_append_of_splitFirst (Prod.ext rfl cut)
    refine ⟨_, after, ?_, free, Text.trimmed_trimChars after⟩
    rw [given, ← whole, String.ofList_toList]

namespace RowCount

theorem ofHeaders?_of_not_announced {headers : Headers} (silent : ∀ ds, ¬headers.Announces ds)
    (limit : Value) : ofHeaders? headers limit = .ok none := by
  have none : (headers.get? "Content-Range").bind totalChars? = none :=
    Option.eq_none_iff_forall_not_mem.2 fun ds found => silent ds (Headers.announces_iff.2 found)
  rw [ofHeaders?, none]

section Announced

variable {headers : Headers} {ds : List Char} (announced : headers.Announces ds) (limit : Value)
include announced

theorem ofHeaders?_of_not_digits (unread : ds = [] ∨ ∃ c ∈ ds, ¬Text.isDigit c) :
    ofHeaders? headers limit = .ok none := by
  have guard : (ds.isEmpty || !ds.all Text.isDigit) = true := by
    simpa using unread
  simp only [ofHeaders?, Headers.announces_iff.1 announced]
  exact if_pos guard

/-- Digits are read, whether or not they make a number. -/
theorem ofHeaders?_of_digits (filled : ds ≠ []) (digits : ∀ c ∈ ds, Text.isDigit c) :
    ofHeaders? headers limit = (do
      let total ← readTotal ds
      return some ⟨← pagesOf total limit, total⟩) := by
  have guard : ¬(ds.isEmpty || !ds.all Text.isDigit) = true := by
    simpa using ⟨filled, digits⟩
  simp only [ofHeaders?, Headers.announces_iff.1 announced]
  exact if_neg guard

end Announced

theorem readTotal_of_isNumeral {ds : List Char} {n : Nat} (numeral : Text.IsNumeral ds n)
    (short : ds.length ≤ maxDigits) : readTotal ds = .ok n := by
  rw [readTotal, if_neg (not_lt.2 short), (Text.decimalNumeral?_eq_some_iff numeral.1).2 numeral]

theorem readTotal_of_unreadable {ds : List Char}
    (unreadable : (∃ c ∈ ds, Text.decimalValue? c = none) ∨ maxDigits < ds.length) :
    readTotal ds = .error .wrongValue := by
  rw [readTotal]
  split
  next => rfl
  next short =>
    obtain ⟨c, member, foreign⟩ := unreadable.resolve_right short
    rw [Text.decimalNumeral?_eq_foldl, Text.foldl_nextDigit_of_foreign member foreign]

/-! ## Pages -/

/-- The quotient is rounded twice: to a number of the binary format, and up to a whole one. -/
theorem wholePages_eq (total : Nat) {limit : Int} (positive : 0 < limit) :
    ∃ m e, Binary64.IsNearest (total / limit) m e ∧
      Binary64.ofRatio false total limit.natAbs =
        (if Binary64.overflowBound ≤ total / limit then .infinite false else .finite false m e) ∧
      wholePages total limit =
        if Binary64.overflowBound ≤ total / limit then .error .overflow
        else .ok ⌈Binary64.value m e⌉ := by
  obtain ⟨m, e, rounded, result⟩ :=
    Binary64.ofRatio_eq false total (Int.natAbs_pos.2 positive.ne')
  have same : ((limit.natAbs : Nat) : ℚ) = limit := by
    rw [Nat.cast_natAbs, abs_of_pos positive]
  rw [same] at rounded result
  refine ⟨m, e, rounded, result, ?_⟩
  rw [wholePages, decide_eq_false (not_lt.2 positive.le), result]
  split
  · rfl
  · rw [roundUp, Binary64.ceiling_eq]

theorem pagesOf_eq (total : Nat) {limit : Int} (positive : 0 < limit) :
    pagesOf total (.int limit) = if total = 0 then .ok 1 else wholePages total limit := by
  have given : (Value.int limit).isGiven = true := by simpa [Value.isGiven] using positive.ne'
  simp [pagesOf, given]

/-- The quotient is beyond what a number of the binary format can stand for. -/
def Exceeds (total : Nat) (limit : Option Int) : Prop :=
  ∃ l, limit = some l ∧ Binary64.overflowBound ≤ total / l

section Limited

variable {limit : Option Int} (positive : ∀ l, limit = some l → 0 < l)
include positive

theorem pagesOf_of_exceeds {total : Nat} (exceeds : Exceeds total limit) :
    pagesOf total (limit.elim .null .int) = .error .overflow := by
  obtain ⟨l, rfl, large⟩ := exceeds
  have filled : total ≠ 0 := by
    rintro rfl
    rw [Nat.cast_zero, zero_div] at large
    exact absurd Binary64.overflowBound_pos (not_lt.2 large)
  obtain ⟨_, _, _, _, result⟩ := wholePages_eq total (positive l rfl)
  rw [Option.elim_some, pagesOf_eq total (positive l rfl), if_neg filled, result, if_pos large]

theorem pagesOf_of_not_exceeds {total : Nat} (within : ¬Exceeds total limit) :
    ∃ pages, pagesOf total (limit.elim .null .int) = .ok pages := by
  cases limit with
  | none => exact ⟨1, rfl⟩
  | some l =>
    rw [Option.elim_some, pagesOf_eq total (positive l rfl)]
    split
    · exact ⟨1, rfl⟩
    · obtain ⟨m, e, _, _, result⟩ := wholePages_eq total (positive l rfl)
      rw [result, if_neg fun large => within ⟨l, rfl, large⟩]
      exact ⟨_, rfl⟩

end Limited

end RowCount

/-! ## Header fields that break the count -/

/-- What is announced consists of digits that make no number: one of them has no place in a numeral,
or they are too many. -/
def Headers.AnnouncesUnreadable (h : Headers) : Prop :=
  ∃ ds, h.Announces ds ∧ ds ≠ [] ∧ (∀ c ∈ ds, Text.isDigit c) ∧
    ((∃ c ∈ ds, Text.decimalValue? c = none) ∨ RowCount.maxDigits < ds.length)

/-- The announced number makes too many pages. -/
def Headers.AnnouncesExcess (h : Headers) (limit : Option Int) : Prop :=
  ∃ ds n, h.Announces ds ∧ Text.IsNumeral ds n ∧ ds.length ≤ RowCount.maxDigits ∧
    RowCount.Exceeds n limit

namespace RowCount

/-- The count does not fail: it is there where a numeral is announced, and else it is not. -/
structure Harmless (headers : Headers) (limit : Option Int) : Prop where
  counted : ∀ ds n, headers.Announces ds → Text.IsNumeral ds n →
    ∃ pages, ofHeaders? headers (limit.elim .null .int) = .ok (some ⟨pages, n⟩)
  uncounted : (¬∃ ds n, headers.Announces ds ∧ Text.IsNumeral ds n) →
    ofHeaders? headers (limit.elim .null .int) = .ok none

theorem Harmless.succeeds {headers : Headers} {limit : Option Int}
    (harmless : Harmless headers limit) :
    Succeeds (ofHeaders? headers (limit.elim .null .int)) := by
  by_cases announced : ∃ ds n, headers.Announces ds ∧ Text.IsNumeral ds n
  · obtain ⟨ds, n, announced, numeral⟩ := announced
    obtain ⟨pages, result⟩ := harmless.counted ds n announced numeral
    exact ⟨_, result⟩
  · exact ⟨_, harmless.uncounted announced⟩

variable {headers : Headers}

theorem fails_of_unreadable (unreadable : headers.AnnouncesUnreadable) (limit : Value) :
    ofHeaders? headers limit = .error .wrongValue := by
  obtain ⟨ds, announced, filled, digits, unreadable⟩ := unreadable
  rw [ofHeaders?_of_digits announced limit filled digits, readTotal_of_unreadable unreadable]
  rfl

/-- A numeral that is not too long is read. -/
theorem ofHeaders?_of_isNumeral {ds : List Char} {n : Nat} (announced : headers.Announces ds)
    (numeral : Text.IsNumeral ds n) (short : ds.length ≤ maxDigits) (limit : Value) :
    ofHeaders? headers limit = do return some ⟨← pagesOf n limit, n⟩ := by
  rw [ofHeaders?_of_digits announced limit numeral.1 numeral.isDigit,
    readTotal_of_isNumeral numeral short]
  rfl

section Limited

variable {limit : Option Int} (positive : ∀ l, limit = some l → 0 < l)
include positive

theorem fails_of_excess (excess : headers.AnnouncesExcess limit) :
    ofHeaders? headers (limit.elim .null .int) = .error .overflow := by
  obtain ⟨ds, n, announced, numeral, short, exceeds⟩ := excess
  rw [ofHeaders?_of_isNumeral announced numeral short, pagesOf_of_exceeds positive exceeds]
  rfl

theorem harmless_of_readable (readable : ¬headers.AnnouncesUnreadable)
    (within : ¬headers.AnnouncesExcess limit) : Harmless headers limit := by
  constructor
  case counted =>
    intro ds n announced numeral
    have short : ds.length ≤ maxDigits := by
      by_contra long
      exact readable ⟨ds, announced, numeral.1, numeral.isDigit, .inr (not_le.1 long)⟩
    obtain ⟨pages, result⟩ := pagesOf_of_not_exceeds positive
      fun exceeds => within ⟨ds, n, announced, numeral, short, exceeds⟩
    rw [ofHeaders?_of_isNumeral announced numeral short, result]
    exact ⟨pages, rfl⟩
  case uncounted =>
    intro unannounced
    by_cases silent : ∀ ds, ¬headers.Announces ds
    · exact ofHeaders?_of_not_announced silent _
    · obtain ⟨ds, announced⟩ := not_forall_not.1 silent
      refine ofHeaders?_of_not_digits announced _ (or_iff_not_imp_left.2 fun filled => ?_)
      by_contra digits
      have digits : ∀ c ∈ ds, Text.isDigit c := by simpa using digits
      by_cases foreign : ∃ c ∈ ds, Text.decimalValue? c = none
      · exact readable ⟨ds, announced, filled, digits, .inl foreign⟩
      · have values : ∀ c ∈ ds, Text.decimalValue? c ≠ none :=
          fun c member missing => foreign ⟨c, member, missing⟩
        obtain ⟨n, numeral⟩ := Text.exists_isNumeral_iff.2 ⟨filled, values⟩
        exact unannounced ⟨ds, n, announced, numeral⟩

theorem ofHeaders?_eq_error_iff {cause : Error} :
    ofHeaders? headers (limit.elim .null .int) = .error cause ↔
      cause = .wrongValue ∧ headers.AnnouncesUnreadable ∨
        cause = .overflow ∧ headers.AnnouncesExcess limit := by
  constructor
  · intro failed
    by_cases unreadable : headers.AnnouncesUnreadable
    · rw [fails_of_unreadable unreadable] at failed
      cases failed
      exact .inl ⟨rfl, unreadable⟩
    · by_cases excess : headers.AnnouncesExcess limit
      · rw [fails_of_excess positive excess] at failed
        cases failed
        exact .inr ⟨rfl, excess⟩
      · obtain ⟨count, result⟩ := (harmless_of_readable positive unreadable excess).succeeds
        rw [result] at failed
        cases failed
  · rintro (⟨rfl, unreadable⟩ | ⟨rfl, excess⟩)
    · exact fails_of_unreadable unreadable _
    · exact fails_of_excess positive excess

end Limited

/-- Header fields are harmless, unless they announce digits that make no number or a number that
makes too many pages.  Then the count fails, and with it the reply. -/
theorem harmless_iff (headers : Headers) {limit : Option Int}
    (positive : ∀ l, limit = some l → 0 < l) :
    (Harmless headers limit ↔
      ¬headers.AnnouncesUnreadable ∧ ¬headers.AnnouncesExcess limit) ∧
    (∀ cause, ofHeaders? headers (limit.elim .null .int) = .error cause ↔
      cause = .wrongValue ∧ headers.AnnouncesUnreadable ∨
        cause = .overflow ∧ headers.AnnouncesExcess limit) ∧
    ∀ (q : Query) checked method (reply : Reply), q.window.limit = limit →
      reply.headers = headers → 200 ≤ reply.status ∧ reply.status < 300 →
      (q.decode checked method reply = .error .wrongValue ↔ headers.AnnouncesUnreadable) ∧
      (q.decode checked method reply = .error .overflow ↔ headers.AnnouncesExcess limit) := by
  have fails (cause : Error) : ofHeaders? headers (limit.elim .null .int) = .error cause ↔
      cause = .wrongValue ∧ headers.AnnouncesUnreadable ∨
        cause = .overflow ∧ headers.AnnouncesExcess limit := ofHeaders?_eq_error_iff positive
  refine ⟨⟨fun harmless => ?_, fun both => harmless_of_readable positive both.1 both.2⟩, fails, ?_⟩
  · obtain ⟨count, result⟩ := harmless.succeeds
    have never (cause : Error) : ¬ofHeaders? headers (limit.elim .null .int) = .error cause := by
      rw [result]
      nofun
    exact ⟨fun unreadable => never _ ((fails _).2 (.inl ⟨rfl, unreadable⟩)),
      fun excess => never _ ((fails _).2 (.inr ⟨rfl, excess⟩))⟩
  · rintro q checked method reply rfl rfl success
    have success := (Reply.isSuccess_iff reply).2 success
    rw [q.decode_eq_error_iff checked method success id,
      q.decode_eq_error_iff checked method success id, Query.countOf, fails, fails]
    simp

/-- Header fields with a content range alone. -/
def rangeFields (bytes : List UInt8) : Headers := ⟨[(Text.encode "content-range", bytes)]⟩

/-- A total that is not known, and one that is a two in superscript. -/
theorem harmless_iff_superscript :
    Harmless (rangeFields (Text.encode "0-9/*")) (some 10) ∧
    Query.firstFilms.decode true "GET"
      ⟨200, "OK", rangeFields [0x30, 0x2d, 0x39, 0x2f, 0xb2], none⟩ = .error .wrongValue := by
  have ten : ∀ l : Int, some 10 = some l → 0 < l := by simp
  obtain ⟨harmless, known, _⟩ := harmless_iff (rangeFields (Text.encode "0-9/*")) ten
  obtain ⟨_, superscript, replies⟩ := harmless_iff (rangeFields [0x30, 0x2d, 0x39, 0x2f, 0xb2]) ten
  have quiet : ofHeaders? (rangeFields (Text.encode "0-9/*")) (.int 10) = .ok none := rfl
  have passes (cause : Error) :
      ofHeaders? (rangeFields (Text.encode "0-9/*")) (.int 10) ≠ .error cause := by
    rw [quiet]
    nofun
  refine ⟨harmless.2 ⟨fun unreadable => ?_, fun excess => ?_⟩, ?_⟩
  · exact passes _ ((known _).2 (.inl ⟨rfl, unreadable⟩))
  · exact passes _ ((known _).2 (.inr ⟨rfl, excess⟩))
  · rcases (superscript .wrongValue).1 rfl with ⟨_, unreadable⟩ | ⟨⟨⟩, _⟩
    exact (replies _ true "GET" _ rfl rfl ⟨by decide, by decide⟩).1.2 unreadable

/-- The superscript passes for a digit and makes no number. -/
theorem not_harmless_superscript :
    ¬Harmless (rangeFields [0x30, 0x2d, 0x39, 0x2f, 0xb2]) (some 10) := by
  intro harmless
  obtain ⟨count, result⟩ := harmless.succeeds
  have failed : ofHeaders? (rangeFields [0x30, 0x2d, 0x39, 0x2f, 0xb2]) (.int 10) =
      .error .wrongValue := rfl
  exact absurd (failed.symm.trans result) nofun

end RowCount

end RestQuery
