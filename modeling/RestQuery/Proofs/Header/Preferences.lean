import Mathlib.Data.List.Forall2
import RestQuery.Header.Merge
import RestQuery.Proofs.Text.Ascii
import RestQuery.Proofs.Text.Form

/-!
# Preferences

A text of preferences is cut at its commas (`isCommaList_commaParts`), and the key of a preference
is what stands before its equals sign (`isPreferenceKey_preferenceKey`).  The preferences of a query
stand in one order, each key at most once, and the preferences of a request have each of these keys
exactly once (`Query.filter_preferred`).
-/

namespace RestQuery

namespace Text

/-! ## Trimming -/

/-- What is left of some characters without the blanks in front and at the end. -/
structure Trimmed (cs rest : List Char) : Prop where
  cut : ∃ front back, cs = front ++ rest ++ back ∧ ∀ c ∈ front ++ back, isBlank c
  first : ∀ c ∈ rest.head?, ¬isBlank c
  last : ∀ c ∈ rest.getLast?, ¬isBlank c

theorem not_isBlank_of_head? {cs : List Char} {c : Char}
    (first : c ∈ (cs.dropWhile isBlank).head?) : ¬isBlank c := by
  have visible := List.head?_dropWhile_not isBlank cs
  rw [Option.mem_def.1 first] at visible
  simpa using visible

theorem trimmed_trimChars (cs : List Char) : Trimmed cs (trimChars cs) := by
  have blanks (ds : List Char) : ∀ c ∈ ds.takeWhile isBlank, isBlank c :=
    List.all_eq_true.1 List.all_takeWhile
  -- `middle` is what follows the blanks in front, and the blanks at the end are its last ones.
  let middle := cs.dropWhile isBlank
  have ends : middle = trimChars cs ++ (middle.reverse.takeWhile isBlank).reverse := by
    rw [trimChars, ← List.reverse_append, List.takeWhile_append_dropWhile, List.reverse_reverse]
  refine ⟨⟨cs.takeWhile isBlank, (middle.reverse.takeWhile isBlank).reverse, ?_, ?_⟩, ?_, ?_⟩
  · rw [List.append_assoc, ← ends, List.takeWhile_append_dropWhile]
  · rw [List.forall_mem_append]
    exact ⟨blanks cs, fun c member => blanks _ c (List.mem_reverse.1 member)⟩
  · intro c first
    have start : c ∈ middle.head? := by
      rw [ends, List.head?_append, Option.mem_def.1 first]
      rfl
    exact not_isBlank_of_head? start
  · intro c last
    rw [trimChars, List.getLast?_reverse] at last
    exact not_isBlank_of_head? last

theorem Trimmed.subset {cs rest : List Char} (trimmed : Trimmed cs rest) : rest ⊆ cs := by
  obtain ⟨front, back, rfl, _⟩ := trimmed.cut
  exact fun c member => List.mem_append_left back (List.mem_append_right front member)

/-! ## Cutting at a separator -/

/-- A piece between separators has none, and nothing but what the whole has. -/
theorem mem_pieces {sep : Char} {cs p : List Char} (member : p ∈ pieces sep cs) :
    sep ∉ p ∧ p ⊆ cs := by
  induction cs generalizing p with
  | nil =>
    rw [pieces, List.mem_singleton] at member
    subst member
    exact ⟨List.not_mem_nil, List.Subset.refl _⟩
  | cons c cs ih =>
    rw [pieces] at member
    split at member
    next =>
      rcases List.mem_cons.1 member with rfl | later
      · exact ⟨List.not_mem_nil, List.nil_subset _⟩
      · exact ⟨(ih later).1, List.subset_cons_of_subset c (ih later).2⟩
    next other =>
      have joined {first : List Char} (own : sep ∉ first ∧ first ⊆ cs) :
          sep ∉ c :: first ∧ c :: first ⊆ c :: cs :=
        ⟨List.not_mem_cons_of_ne_of_not_mem (Ne.symm other) own.1, List.cons_subset_cons c own.2⟩
      split at member
      next none => exact absurd none (pieces_ne_nil sep cs)
      next first rest cut =>
        rw [cut] at ih
        rcases List.mem_cons.1 member with rfl | later
        · exact joined (ih List.mem_cons_self)
        · have behind := ih (List.mem_cons_of_mem first later)
          exact ⟨behind.1, List.subset_cons_of_subset c behind.2⟩

end Text

/-- A text is some parts with commas between them, each trimmed. -/
def IsCommaList (s : String) (parts : List String) : Prop :=
  ∃ pieces : List (List Char), pieces ≠ [] ∧ s.toList = [','].intercalate pieces ∧
    (∀ p ∈ pieces, ',' ∉ p) ∧ List.Forall₂ (fun p part => Text.Trimmed p part.toList) pieces parts

theorem isCommaList_commaParts (s : String) : IsCommaList s (commaParts s) := by
  refine ⟨Text.pieces ',' s.toList, Text.pieces_ne_nil _ _, (Text.pieces_joined _ _).symm,
    fun p member => (Text.mem_pieces member).1, ?_⟩
  rw [commaParts, List.forall₂_map_right_iff, List.forall₂_same]
  intro p _
  rw [String.toList_ofList]
  exact Text.trimmed_trimChars p

theorem allAscii_commaParts {s part : String} (ascii : Text.allAscii s)
    (member : part ∈ commaParts s) : Text.allAscii part := by
  obtain ⟨p, among, rfl⟩ := List.mem_map.1 member
  refine Text.allAscii_ofList fun c own => ?_
  exact Text.toNat_lt_of_allAscii ascii c
    ((Text.mem_pieces among).2 ((Text.trimmed_trimChars p).subset own))

/-- The key of a preference is the text before the first equals sign, trimmed and in lower case. -/
def IsPreferenceKey (s key : String) : Prop :=
  ∃ before rest trimmed, s.toList = before ++ rest ∧ '=' ∉ before ∧ (∀ c ∈ rest.head?, c = '=') ∧
    Text.Trimmed before trimmed ∧ key = Text.lower (String.ofList trimmed)

theorem isPreferenceKey_preferenceKey (s : String) : IsPreferenceKey s (preferenceKey s) := by
  by_cases valued : '=' ∈ s.toList
  · obtain ⟨before, after, whole, free⟩ := List.eq_append_cons_of_mem valued
    refine ⟨before, '=' :: after, _, whole, free, by simp, Text.trimmed_trimChars before, ?_⟩
    rw [preferenceKey, whole, Text.splitFirst_append free]
  · refine ⟨s.toList, [], _, (List.append_nil _).symm, valued, by simp,
      Text.trimmed_trimChars s.toList, ?_⟩
    rw [preferenceKey, Text.splitFirst_of_not_mem valued]

/-! ## Preferences of a query -/

namespace Preferences

/-- The keys of preferences in their order. -/
def keys : List String := ["count", "return", "resolution", "missing"]

/-- The preferences that are set, in the order of their keys. -/
def inOrder (p : Preferences) : List Pair :=
  [("count", p.count.map word), ("return", p.returning.map word),
    ("resolution", p.resolution.map word), ("missing", p.missing.map word)].filterMap
      fun (key, value) => value.map (key, ·)

theorem pairs_eq (p : Preferences) : p.pairs = p.inOrder := by
  rcases p with ⟨_ | _, _ | _, _ | _, _ | _⟩ <;> rfl

theorem keys_sublist (p : Preferences) : (p.pairs.map (·.1)).Sublist keys := by
  have one {α : Type} [Vocabulary α] (name : String) (a : Option α) :
      ((preferencePair name a).map (·.1)).Sublist [name] := by
    cases a with
    | none => exact List.nil_sublist _
    | some a => exact List.Sublist.refl _
  rw [pairs, List.map_append, List.map_append, List.map_append]
  exact (((one "count" _).append (one "return" _)).append (one "resolution" _)).append
    (one "missing" _)

theorem keys_nodup (p : Preferences) : (p.pairs.map (·.1)).Nodup :=
  p.keys_sublist.nodup (by decide)

theorem mem_keys {p : Preferences} {pair : Pair} (member : pair ∈ p.pairs) : pair.1 ∈ keys :=
  p.keys_sublist.subset (List.mem_map_of_mem member)

/-- A preference of a query is found by its own key. -/
theorem preferenceKey_entry {key : String} (known : key ∈ keys) (value : String) :
    preferenceKey (key ++ "=" ++ value) = key := by
  have simple : ∀ key ∈ keys, '=' ∉ key.toList ∧
      Text.lower (String.ofList (Text.trimChars key.toList)) = key := by decide
  obtain ⟨free, same⟩ := simple key known
  rw [preferenceKey, String.toList_append, String.toList_append, List.append_assoc]
  rw [show "=".toList ++ value.toList = '=' :: value.toList from rfl, Text.splitFirst_append free]
  exact same

theorem allAscii_entry {p : Preferences} {pair : Pair} (member : pair ∈ p.pairs) :
    Text.allAscii (pair.1 ++ "=" ++ pair.2) := by
  have one {α : Type} [Vocabulary α] {name : String} {a : Option α} (named : Text.allAscii name)
      (words : ∀ a : α, Text.allAscii (word a)) (own : pair ∈ preferencePair name a) :
      Text.allAscii (pair.1 ++ "=" ++ pair.2) := by
    cases a with
    | none => cases own
    | some a =>
      rw [List.mem_singleton.1 own, Text.allAscii_append, Text.allAscii_append, named, words a]
      rfl
  rw [pairs] at member
  simp only [List.mem_append] at member
  rcases member with ((count | returning) | resolution) | missing
  · exact one rfl (fun a => by cases a <;> rfl) count
  · exact one rfl (fun a => by cases a <;> rfl) returning
  · exact one rfl (fun a => by cases a <;> rfl) resolution
  · exact one rfl (fun a => by cases a; rfl) missing

end Preferences

/-- Where keys are not repeated, a pair is the only one with its key. -/
theorem filter_eq_singleton {pairs : List Pair} (distinct : (pairs.map (·.1)).Nodup) {pair : Pair}
    (member : pair ∈ pairs) : pairs.filter (fun other => other.1 = pair.1) = [pair] := by
  induction pairs with
  | nil => cases member
  | cons first rest ih =>
    obtain ⟨absent, distinct⟩ := List.nodup_cons.1 distinct
    rcases List.mem_cons.1 member with rfl | later
    · rw [List.filter_cons_of_pos (by simp)]
      refine congrArg (pair :: ·) (List.filter_eq_nil_iff.2 fun other among same => absent ?_)
      exact List.mem_map.2 ⟨other, among, of_decide_eq_true same⟩
    · have differ : first.1 ≠ pair.1 := fun same =>
        absent (List.mem_map.2 ⟨pair, later, same.symm⟩)
      rw [List.filter_cons_of_neg (by simpa using differ), ih distinct later]

namespace Query

variable (q : Query) (caller : Headers)

theorem preferred_eq : q.preferred caller =
    (((caller.values "prefer").flatMap commaParts).filter fun e =>
        !(q.preferences.pairs.map (·.1)).contains (preferenceKey e)) ++
      q.preferences.pairs.map fun pair => pair.1 ++ "=" ++ pair.2 := rfl

/-- A key that the query sets stands once among the preferences, with the value of the query. -/
theorem filter_preferred {pair : Pair} (member : pair ∈ q.preferences.pairs) :
    (q.preferred caller).filter (fun e => preferenceKey e = pair.1) =
      [pair.1 ++ "=" ++ pair.2] := by
  have dropped : ((caller.values "prefer").flatMap commaParts |>.filter fun e =>
      !(q.preferences.pairs.map (·.1)).contains (preferenceKey e)).filter
        (fun e => preferenceKey e = pair.1) = [] := by
    refine List.filter_eq_nil_iff.2 fun e kept same => ?_
    have other := List.of_mem_filter kept
    rw [of_decide_eq_true same] at other
    simp [List.mem_map_of_mem member] at other
  have own : q.preferences.pairs.filter ((fun e => decide (preferenceKey e = pair.1)) ∘
      fun other => other.1 ++ "=" ++ other.2) = [pair] := by
    rw [← filter_eq_singleton q.preferences.keys_nodup member]
    refine List.filter_congr fun other among => ?_
    rw [Function.comp_apply, Preferences.preferenceKey_entry (Preferences.mem_keys among)]
  rw [preferred_eq, List.filter_append, dropped, List.nil_append, List.filter_map, own]
  rfl

theorem allAscii_preferred {caller : Headers}
    (ascii : ∀ value ∈ caller.values "prefer", Text.allAscii value) :
    ∀ e ∈ q.preferred caller, Text.allAscii e := by
  intro e member
  rcases List.mem_append.1 member with given | own
  · obtain ⟨value, among, part⟩ := List.mem_flatMap.1 (List.mem_of_mem_filter given)
    exact allAscii_commaParts (ascii value among) part
  · obtain ⟨pair, among, rfl⟩ := List.mem_map.1 own
    exact Preferences.allAscii_entry among

end Query

end RestQuery
