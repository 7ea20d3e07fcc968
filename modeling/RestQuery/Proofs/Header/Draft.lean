import RestQuery.Header.Merge
import RestQuery.Proofs.Sequencing
import RestQuery.Proofs.Text.Ascii

/-!
# Header fields by name

Header fields are compared by what stands under each name.  For fields in ASCII this is read off
their texts (`Headers.values_eq`).  A draft that is `HeaderDraft.Tidy` becomes such fields, with the
values of the draft under each name (`HeaderDraft.Tidy.headers_eq`,
`HeaderDraft.Tidy.values_written`).  It stays tidy when fields are set that belong where they are
put, and what it has under a name is what was set last: `HeaderDraft.values_set` for one change and
`HeaderDraft.values_setAll` for a run of them.
-/

namespace RestQuery

namespace Headers

/-- All names and values are ASCII. -/
def IsAscii (h : Headers) : Prop :=
  ∀ field ∈ h.fields, Text.isAscii field.1 ∧ Text.isAscii field.2

instance (h : Headers) : Decidable h.IsAscii := inferInstanceAs (Decidable (∀ _ ∈ _, _))

section Ascii

variable {h : Headers} (ascii : h.IsAscii)

include ascii

theorem encoding_of_ascii : h.encoding = .ascii := by
  refine if_pos (List.all_eq_true.2 fun field member => ?_)
  exact Bool.and_eq_true_iff.2 (ascii field member)

theorem texts_of_ascii :
    h.texts = h.fields.map fun field => (Text.latin1 field.1, Text.latin1 field.2) := by
  rw [texts, encoding_of_ascii ascii]
  rfl

/-- A field has a name, in some case, if its bytes in lower case are those of the name. -/
theorem lower_eq_iff {field : List UInt8 × List UInt8} (member : field ∈ h.fields) {name : String}
    (plain : Text.allAscii name) : Text.lower (Text.latin1 field.1) = name ↔
      field.1.map lowerByte = Text.asciiBytes name := by
  have own := Text.allAscii_lower (Text.allAscii_latin1 (ascii field member).1)
  rw [Text.map_lowerByte_of_isAscii (ascii field member).1]
  exact ⟨congrArg _, Text.asciiBytes_injective own plain⟩

/-- The values under a name are those of the fields with that name in some case. -/
theorem values_eq (name : String) : h.values name =
    (h.texts.filter fun field => Text.lower field.1 = Text.lower name).map (·.2) := by
  rw [values, encoding_of_ascii ascii, texts_of_ascii ascii, List.filter_map, List.map_map,
    HeaderEncoding.encode?]
  by_cases plain : Text.allAscii (Text.lower name)
  · rw [Text.asciiBytes?_of_ascii plain]
    simp only [valuesOf, encoding_of_ascii ascii]
    refine congrArg _ (List.filter_congr fun field member => ?_)
    rw [Function.comp_apply, decide_eq_decide]
    exact (lower_eq_iff ascii member plain).symm
  · -- A name that is not ASCII in lower case is the name of no field.
    rw [Text.asciiBytes?_of_not_ascii plain]
    refine (List.map_eq_nil_iff.2 (List.filter_eq_nil_iff.2 fun field member same => ?_)).symm
    have lowered := Text.allAscii_lower (Text.allAscii_latin1 (ascii field member).1)
    rw [Function.comp_apply, decide_eq_true_eq] at same
    exact plain (same ▸ lowered)

/-- The names are those of the fields in lower case. -/
theorem mem_names_iff {name : String} :
    name ∈ h.names ↔ ∃ field ∈ h.texts, Text.lower field.1 = name := by
  have lowered : h.fields.map (fun field => h.encoding.decode (field.1.map lowerByte)) =
      h.texts.map fun field => Text.lower field.1 := by
    rw [encoding_of_ascii ascii, texts_of_ascii ascii, List.map_map]
    refine List.map_congr_left fun field member => ?_
    have own := Text.allAscii_lower (Text.allAscii_latin1 (ascii field member).1)
    rw [Text.map_lowerByte_of_isAscii (ascii field member).1]
    exact Text.latin1_asciiBytes own
  have names : h.names = (h.texts.map fun field => Text.lower field.1).eraseDups :=
    congrArg List.eraseDups lowered
  rw [names, List.mem_eraseDups, List.mem_map]

/-- There are values under a name exactly if it is a name of a field in some case. -/
theorem values_eq_nil_iff {name : String} : h.values name = [] ↔ Text.lower name ∉ h.names := by
  rw [values_eq ascii, mem_names_iff ascii, List.map_eq_nil_iff, List.filter_eq_nil_iff]
  simp

theorem allAscii_of_mem_texts {field : String × String} (member : field ∈ h.texts) :
    Text.allAscii field.1 ∧ Text.allAscii field.2 := by
  rw [texts_of_ascii ascii] at member
  obtain ⟨bytes, among, rfl⟩ := List.mem_map.1 member
  have plain := ascii bytes among
  exact ⟨Text.allAscii_latin1 plain.1, Text.allAscii_latin1 plain.2⟩

/-- Names are ASCII texts in lower case. -/
theorem lower_of_mem_names {name : String} (member : name ∈ h.names) :
    Text.lower name = name ∧ Text.allAscii name := by
  obtain ⟨field, among, rfl⟩ := (mem_names_iff ascii).1 member
  have plain := (allAscii_of_mem_texts ascii among).1
  exact ⟨Text.lower_lower plain, Text.allAscii_lower plain⟩

theorem allAscii_of_mem_values {name value : String} (member : value ∈ h.values name) :
    Text.allAscii value := by
  rw [values_eq ascii] at member
  obtain ⟨field, among, rfl⟩ := List.mem_map.1 member
  exact (allAscii_of_mem_texts ascii (List.mem_of_mem_filter among)).2

end Ascii

end Headers

namespace HeaderDraft

/-! ## Drafts -/

/-- The text of a field. -/
def textOf (field : String × Value) : String := field.2.asText?.getD ""

/-- The values under a name. -/
def values (draft : HeaderDraft) (name : String) : List String :=
  draft.flatMap fun entry => if entry.1 = name then entry.2.map textOf else []

/-- A field belongs under a name, and both its name and its value are ASCII texts. -/
structure Fits (name : String) (field : String × Value) : Prop where
  named : Text.lower field.1 = name
  plain : Text.allAscii field.1
  value : ∃ s, field.2.asText? = some s ∧ Text.allAscii s

/-- Every name stands once, in front of fields that belong under it. -/
structure Tidy (draft : HeaderDraft) : Prop where
  distinct : (draft.map (·.1)).Nodup
  fits : ∀ entry ∈ draft, ∀ field ∈ entry.2, Fits entry.1 field

theorem Fits.text {name : String} {field : String × Value} (fits : Fits name field) :
    field.2.asText? = some (textOf field) ∧ Text.allAscii (textOf field) := by
  obtain ⟨s, text, plain⟩ := fits.value
  rw [textOf, text]
  exact ⟨rfl, plain⟩

/-- A field that belongs under a name is given by the bytes of its texts. -/
theorem Fits.readField {name : String} {field : String × Value} (fits : Fits name field) :
    Headers.readField (.text field.1) field.2 =
      .ok (Text.asciiBytes field.1, Text.asciiBytes (textOf field)) := by
  obtain ⟨text, plain⟩ := fits.text
  rw [Headers.readField, Headers.valueBytes_of_asText? text]
  simp only [Headers.nameBytes, Headers.valueBytes, Value.asText?,
    Text.asciiBytes?_of_ascii fits.plain, Text.asciiBytes?_of_ascii plain]
  rfl

/-- The fields of a draft that is written in ASCII. -/
def written (draft : HeaderDraft) : Headers :=
  ⟨(draft.flatMap (·.2)).map fun field => (Text.asciiBytes field.1, Text.asciiBytes (textOf field))⟩

section Tidy

variable {draft : HeaderDraft} (tidy : draft.Tidy)

include tidy

theorem Tidy.fits_of_mem {field : String × Value} (member : field ∈ draft.flatMap (·.2)) :
    ∃ name, Fits name field := by
  obtain ⟨entry, among, own⟩ := List.mem_flatMap.1 member
  exact ⟨entry.1, tidy.fits entry among field own⟩

theorem Tidy.headers_eq : draft.headers = .ok draft.written := by
  have run : (draft.flatMap (·.2)).mapM (fun field => Headers.readField (.text field.1) field.2) =
      .ok draft.written.fields := by
    rw [written, ok_eq_pure, ← List.mapM_pure]
    refine mapM_congr fun field member => ?_
    obtain ⟨name, fits⟩ := tidy.fits_of_mem member
    exact fits.readField
  calc draft.headers
    _ = (do return ⟨← (draft.flatMap (·.2)).mapM fun field =>
          Headers.readField (.text field.1) field.2⟩) := rfl
    _ = .ok draft.written := by rw [run, ok_bind, ok_eq_pure]

theorem Tidy.isAscii_written : draft.written.IsAscii := by
  intro bytes member
  obtain ⟨field, among, rfl⟩ := List.mem_map.1 member
  obtain ⟨name, fits⟩ := tidy.fits_of_mem among
  exact ⟨Text.isAscii_asciiBytes fits.plain, Text.isAscii_asciiBytes fits.text.2⟩

theorem Tidy.texts_written :
    draft.written.texts = (draft.flatMap (·.2)).map fun field => (field.1, textOf field) := by
  rw [Headers.texts_of_ascii tidy.isAscii_written, written, List.map_map]
  refine List.map_congr_left fun field member => ?_
  obtain ⟨name, fits⟩ := tidy.fits_of_mem member
  exact congrArg₂ Prod.mk (Text.latin1_asciiBytes fits.plain) (Text.latin1_asciiBytes fits.text.2)

/-- A tidy draft is written with the values that it has under each name. -/
theorem Tidy.values_written (name : String) :
    draft.written.values name = draft.values (Text.lower name) := by
  rw [Headers.values_eq tidy.isAscii_written, tidy.texts_written, List.filter_map, List.map_map,
    List.filter_flatMap, List.map_flatMap, values]
  refine List.flatMap_congr fun entry member => ?_
  have named := fun field own => (tidy.fits entry member field own).named
  split
  next same =>
    refine congrArg (List.map textOf) (List.filter_eq_self.2 fun field own => ?_)
    rw [Function.comp_apply, decide_eq_true_eq]
    exact (named field own).trans same
  next other =>
    refine List.map_eq_nil_iff.2 (List.filter_eq_nil_iff.2 fun field own found => other ?_)
    rw [Function.comp_apply, decide_eq_true_eq] at found
    exact (named field own).symm.trans found

end Tidy

/-! ## Changes -/

/-- Where a name does not stand, a change of what stands under it changes nothing. -/
theorem replace_of_not_mem {draft : HeaderDraft} {name : String}
    (absent : name ∉ List.map (·.1) draft) (fields : List (String × Value)) :
    (draft.map fun entry => if entry.1 = name then (name, fields) else entry) = draft := by
  refine (List.map_congr_left fun entry member => if_neg fun same => absent ?_).trans
    (List.map_id' draft)
  exact List.mem_map.2 ⟨entry, member, same⟩

/-- A name is put at the end of a draft, or stands in it already and keeps its place. -/
theorem set_cases {draft : HeaderDraft} (distinct : (draft.map (·.1)).Nodup) (name : String)
    (fields : List (String × Value)) :
    (name ∉ List.map (·.1) draft ∧ draft.set name fields = draft ++ [(name, fields)]) ∨
    ∃ before old after, name ∉ List.map (·.1) before ∧ name ∉ List.map (·.1) after ∧
      draft = before ++ (name, old) :: after ∧
      draft.set name fields = before ++ (name, fields) :: after := by
  by_cases present : name ∈ List.map (·.1) draft
  · -- No name stands twice, so the entries around the one that is replaced are left alone.
    obtain ⟨⟨_, old⟩, member, rfl⟩ := List.mem_map.1 present
    obtain ⟨before, after, rfl⟩ := List.append_of_mem member
    rw [List.map_append, List.map_cons] at distinct
    obtain ⟨_, ends, apart⟩ := List.nodup_append.1 distinct
    have front : _ ∉ List.map (·.1) before := fun early =>
      apart _ early _ List.mem_cons_self rfl
    have back := (List.nodup_cons.1 ends).1
    refine .inr ⟨before, old, after, front, back, rfl, ?_⟩
    rw [set, if_pos (List.any_eq_true.2 ⟨_, member, decide_eq_true rfl⟩), List.map_append,
      List.map_cons, replace_of_not_mem front, replace_of_not_mem back, if_pos rfl]
  · refine .inl ⟨present, if_neg fun found => present ?_⟩
    obtain ⟨entry, member, same⟩ := List.any_eq_true.1 found
    exact List.mem_map.2 ⟨entry, member, of_decide_eq_true same⟩

theorem values_append (before after : HeaderDraft) (name : String) :
    values (before ++ after) name = values before name ++ values after name :=
  List.flatMap_append

theorem values_cons (entry : String × List (String × Value)) (draft : HeaderDraft) (name : String) :
    values (entry :: draft) name =
      (if entry.1 = name then entry.2.map textOf else []) ++ values draft name :=
  List.flatMap_cons

theorem values_of_not_mem {draft : HeaderDraft} {name : String} (absent : name ∉ draft.map (·.1)) :
    draft.values name = [] := by
  refine List.flatMap_eq_nil_iff.2 fun entry member => if_neg fun same => absent ?_
  exact List.mem_map.2 ⟨entry, member, same⟩

/-- What stands under a name is what was set last, and other names keep what they have. -/
theorem values_set {draft : HeaderDraft} (distinct : (draft.map (·.1)).Nodup) (name other : String)
    (fields : List (String × Value)) : (draft.set name fields).values other =
      if name = other then fields.map textOf else draft.values other := by
  rcases set_cases distinct name fields with
    ⟨absent, whole⟩ | ⟨before, old, after, front, back, rfl, whole⟩
  · rw [whole, values_append, values_cons]
    split
    next same =>
      rw [← same, values_of_not_mem absent, List.nil_append]
      exact List.append_nil _
    next => exact List.append_nil _
  · rw [whole, values_append, values_append, values_cons, values_cons]
    split
    next same =>
      rw [← same, values_of_not_mem front, values_of_not_mem back, List.nil_append,
        List.append_nil]
    next => rfl

theorem Tidy.set {draft : HeaderDraft} (tidy : draft.Tidy) {name : String}
    {fields : List (String × Value)} (fits : ∀ field ∈ fields, Fits name field) :
    (draft.set name fields).Tidy := by
  rcases set_cases tidy.distinct name fields with
    ⟨absent, whole⟩ | ⟨before, old, after, front, back, rfl, whole⟩
  · refine ⟨?_, ?_⟩
    · rw [whole, List.map_append]
      have single : [name].Nodup := List.pairwise_singleton _ name
      refine List.nodup_append.2 ⟨tidy.distinct, single, fun other member _ own => ?_⟩
      rw [List.mem_singleton.1 own]
      exact ne_of_mem_of_not_mem member absent
    · rw [whole]
      exact List.forall_mem_append.2 ⟨tidy.fits, List.forall_mem_singleton.2 fits⟩
  · have names := tidy.distinct
    rw [List.map_append, List.map_cons] at names
    obtain ⟨earlier, later⟩ := List.forall_mem_append.1 tidy.fits
    refine ⟨?_, ?_⟩
    · rw [whole, List.map_append, List.map_cons]
      exact names
    · rw [whole]
      exact List.forall_mem_append.2 ⟨earlier,
        List.forall_mem_cons.2 ⟨fits, (List.forall_mem_cons.1 later).2⟩⟩

/-! ## Runs of changes -/

/-- A draft with what `fields` says set under some names, one after the other. -/
def setAll (fields : String → List (String × Value)) (draft : HeaderDraft) (names : List String) :
    HeaderDraft :=
  names.foldl (fun draft name => draft.set name (fields name)) draft

theorem Tidy.setAll {fields : String → List (String × Value)} {draft : HeaderDraft}
    (tidy : draft.Tidy) {names : List String}
    (fits : ∀ name ∈ names, ∀ field ∈ fields name, Fits name field) :
    (draft.setAll fields names).Tidy := by
  induction names generalizing draft with
  | nil => exact tidy
  | cons name names ih =>
    obtain ⟨first, others⟩ := List.forall_mem_cons.1 fits
    exact ih (tidy.set first) others

theorem values_setAll {fields : String → List (String × Value)} {draft : HeaderDraft}
    (tidy : draft.Tidy) {names : List String}
    (fits : ∀ name ∈ names, ∀ field ∈ fields name, Fits name field) (other : String) :
    (draft.setAll fields names).values other =
      if other ∈ names then (fields other).map textOf else draft.values other := by
  induction names generalizing draft with
  | nil => rfl
  | cons name names ih =>
    obtain ⟨first, others⟩ := List.forall_mem_cons.1 fits
    have rest := ih (tidy.set first) others
    rw [values_set tidy.distinct] at rest
    rw [setAll, List.foldl_cons, ← setAll, rest]
    by_cases later : other ∈ names
    · rw [if_pos later, if_pos (List.mem_cons_of_mem name later)]
    · by_cases own : name = other
      · subst own
        rw [if_neg later, if_pos rfl, if_pos List.mem_cons_self]
      · have absent : other ∉ name :: names :=
          List.not_mem_cons_of_ne_of_not_mem (Ne.symm own) later
        rw [if_neg later, if_neg own, if_neg absent]

end HeaderDraft

end RestQuery
