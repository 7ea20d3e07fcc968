import RestQuery.Proofs.Header.Draft
import RestQuery.Proofs.Header.Method
import RestQuery.Proofs.Header.Preferences

/-!
# What the header fields of a request say

`Headers.Merged` says, name by name and whatever the case of the names, what the header fields of a
request are made of: the fields of the caller and what the query asks for.  By
`Query.headers_merged` a request whose schema and whose caller's fields are ASCII has such header
fields.  The proof follows the draft through its four changes, each of which says what stands under
every name.
-/

namespace RestQuery

namespace Headers

/-- The values under a name, or a standard one where there are none. -/
def valuesOr (h : Headers) (name standard : String) : List String :=
  match h.values name with
  | [] => [standard]
  | values => values

/-- The name under which a method asks for a schema. -/
def profileName (method : String) : String :=
  if method.toList.map Char.toUpper ∈ ["GET".toList, "HEAD".toList] then "Accept-Profile"
  else "Content-Profile"

theorem profileName_eq (method : String) : profileName method =
    if isReading method then "Accept-Profile" else "Content-Profile" :=
  if_congr (isReading_iff method).symm rfl rfl

theorem allAscii_profileName (method : String) : Text.allAscii (profileName method) := by
  rw [profileName]
  split <;> rfl

/-- The schema of a query, where it gives one. -/
def schema? (q : Query) : Option String := if q.schema.isGiven then q.schema.asText? else none

/-- What the header fields of a request say under each name. -/
structure Merged (h : Headers) (q : Query) (method : String) (caller : Headers) : Prop where
  accept : h.values "Accept" =
    if q.cardinality = .one then [objectMediaType] else caller.valuesOr "Accept" jsonMediaType
  contentType : h.values "Content-Type" = caller.valuesOr "Content-Type" jsonMediaType
  profile : ∀ s, schema? q = some s → h.values (profileName method) = [s]
  prefer : ∃ parts, List.Forall₂ IsCommaList (caller.values "Prefer") parts ∧
    h.values "Prefer" =
      (parts.flatten.filter fun e => preferenceKey e ∉ q.preferences.inOrder.map (·.1)) ++
        q.preferences.inOrder.map fun pair => pair.1 ++ "=" ++ pair.2
  once : ∀ pair ∈ q.preferences.inOrder,
    (h.values "Prefer").filter (fun e => preferenceKey e = pair.1) = [pair.1 ++ "=" ++ pair.2]
  others : ∀ name, Text.lower name ∉ ["accept", "content-type", "prefer"] →
    (∀ s, schema? q = some s → Text.lower name ≠ Text.lower (profileName method)) →
    h.values name = caller.values name

/-- Values are asked for in whatever case. -/
theorem values_congr (h : Headers) {name other : String}
    (same : Text.lower name = Text.lower other) : h.values name = h.values other := by
  rw [values, values, same]

section Ascii

variable {h : Headers} (ascii : h.IsAscii)

include ascii

theorem values_eq_ite (name : String) :
    h.values name = if Text.lower name ∈ h.names then h.values (Text.lower name) else [] := by
  split
  next member => exact h.values_congr (lower_of_mem_names ascii member).1.symm
  next absent => exact (values_eq_nil_iff ascii).2 absent

theorem valuesOr_eq_ite (name standard : String) : h.valuesOr name standard =
    if Text.lower name ∈ h.names then h.values (Text.lower name) else [standard] := by
  have whole := values_eq_ite ascii name
  rw [valuesOr]
  split
  next none => rw [if_neg ((values_eq_nil_iff ascii).1 none)]
  next values some =>
    have member : Text.lower name ∈ h.names := by
      by_contra absent
      rw [(values_eq_nil_iff ascii).2 absent] at some
      exact some rfl
    rw [whole, if_pos member, if_pos member]

end Ascii

end Headers

namespace HeaderDraft

theorem Fits.of_text {name field value : String} (named : Text.lower field = name)
    (plain : Text.allAscii field) (ascii : Text.allAscii value) :
    Fits name (field, .text value) :=
  ⟨named, plain, value, rfl, ascii⟩

theorem tidy_standard : standard.Tidy := by
  have json : Text.allAscii jsonMediaType := by decide
  refine ⟨by decide, ?_⟩
  simp only [standard, List.forall_mem_cons, List.not_mem_nil, false_imp_iff, implies_true,
    and_true]
  exact ⟨.of_text (by decide) (by decide) json, .of_text (by decide) (by decide) json⟩

end HeaderDraft

/-! ## The changes of a draft -/

namespace Query

open HeaderDraft

section Caller

variable {caller : Headers} (ascii : caller.IsAscii)

include ascii

theorem fits_caller : ∀ name ∈ caller.names.filter (· ≠ "prefer"),
    ∀ field ∈ (caller.values name).map fun v => (name, Value.text v), Fits name field := by
  intro name member field own
  obtain ⟨value, among, rfl⟩ := List.mem_map.1 own
  obtain ⟨small, plain⟩ := Headers.lower_of_mem_names ascii (List.mem_of_mem_filter member)
  exact .of_text small plain (Headers.allAscii_of_mem_values ascii among)

theorem tidy_withCaller : (withCaller caller .standard).Tidy :=
  tidy_standard.setAll (fits_caller ascii)

/-- The caller replaces what stands under its names, and preferences are left out. -/
theorem values_withCaller (name : String) : (withCaller caller .standard).values name =
    if name ∈ caller.names ∧ name ≠ "prefer" then caller.values name
    else HeaderDraft.standard.values name := by
  have changed := values_setAll tidy_standard (fits_caller ascii) name
  have texts : ((caller.values name).map fun v => (name, Value.text v)).map textOf =
      caller.values name := by
    rw [List.map_map]
    exact List.map_id' _
  rw [texts] at changed
  refine changed.trans ?_
  simp only [List.mem_filter, decide_eq_true_eq]

end Caller

/-- The schema is put under the name that the method asks for, where it is given. -/
theorem withSchema_eq (q : Query) (method : String) (draft : HeaderDraft) :
    q.withSchema method draft =
      if q.schema.isGiven then draft.set (Text.lower (Headers.profileName method))
        [(Headers.profileName method, q.schema)] else draft := by
  have accept : Text.lower "Accept-Profile" = "accept-profile" := by decide
  have content : Text.lower "Content-Profile" = "content-profile" := by decide
  rw [withSchema, Headers.profileName_eq]
  cases q.schema.isGiven with
  | false => rfl
  | true =>
    cases isReading method with
    | true => exact congrArg (draft.set · [("Accept-Profile", q.schema)]) accept.symm
    | false => exact congrArg (draft.set · [("Content-Profile", q.schema)]) content.symm

section Changes

variable {q : Query} {draft : HeaderDraft} (tidy : draft.Tidy)

include tidy

theorem tidy_withMediaType : (q.withMediaType draft).Tidy := by
  rw [withMediaType]
  split
  · exact tidy.set (List.forall_mem_singleton.2 (.of_text (by decide) (by decide) (by decide)))
  · exact tidy

theorem values_withMediaType (name : String) : (q.withMediaType draft).values name =
    if q.cardinality = .one ∧ name = "accept" then [objectMediaType] else draft.values name := by
  rw [withMediaType]
  split
  next one =>
    rw [values_set tidy.distinct]
    simp only [one, true_and, eq_comm]
    rfl
  next many => simp [many]

theorem tidy_withSchema (schema : q.schema.isGiven → ∃ s, q.schema.asText? = some s ∧
    Text.allAscii s) (method : String) : (q.withSchema method draft).Tidy := by
  rw [withSchema_eq]
  split
  next given =>
    exact tidy.set (List.forall_mem_singleton.2
      ⟨rfl, Headers.allAscii_profileName method, schema given⟩)
  next => exact tidy

theorem values_withSchema (schema : q.schema.isGiven → ∃ s, q.schema.asText? = some s ∧
    Text.allAscii s) (method name : String) : (q.withSchema method draft).values name =
      match Headers.schema? q with
      | some s => if Text.lower (Headers.profileName method) = name then [s] else draft.values name
      | none => draft.values name := by
  rw [withSchema_eq, Headers.schema?]
  split
  next given =>
    obtain ⟨s, text, _⟩ := schema given
    rw [values_set tidy.distinct, text]
    simp [textOf, text]
  next => rfl

variable {caller : Headers}

theorem tidy_withPreferences (ascii : caller.IsAscii) :
    (q.withPreferences caller draft).Tidy := by
  rw [withPreferences]
  split
  · exact tidy
  next values some =>
    refine tidy.set fun field member => ?_
    obtain ⟨e, among, rfl⟩ := List.mem_map.1 member
    refine .of_text (by decide) (by decide) ?_
    exact q.allAscii_preferred (fun _ => Headers.allAscii_of_mem_values ascii) e among

/-- The preferences stand under their name, where nothing stood before. -/
theorem values_withPreferences (absent : draft.values "prefer" = []) (name : String) :
    (q.withPreferences caller draft).values name =
      if "prefer" = name then q.preferred caller else draft.values name := by
  rw [withPreferences]
  split
  next none =>
    rw [none]
    split
    next same => rw [← same, absent]
    next => rfl
  next values some =>
    rw [values_set tidy.distinct, List.map_map]
    exact congrArg (if "prefer" = name then · else draft.values name) (List.map_id' _)

end Changes

/-! ## The whole draft -/

/-- No schema is asked for under the other names that a query cares for. -/
theorem lower_profileName (method : String) :
    Text.lower (Headers.profileName method) ∉ ["accept", "content-type", "prefer"] := by
  rw [Headers.profileName]
  split <;> decide

/-- The draft of a request before its preferences are put in. -/
def drafted (q : Query) (method : String) (caller : Headers) : HeaderDraft :=
  q.withSchema method (q.withMediaType (withCaller caller .standard))

section Drafted

variable {q : Query} (schema : q.schema.isGiven → ∃ s, q.schema.asText? = some s ∧ Text.allAscii s)
  {caller : Headers} (ascii : caller.IsAscii) (method : String)

include schema ascii

theorem tidy_drafted : (q.drafted method caller).Tidy :=
  tidy_withSchema (tidy_withMediaType (tidy_withCaller ascii)) schema method

theorem values_drafted_profile {s : String} (given : Headers.schema? q = some s) :
    (q.drafted method caller).values (Text.lower (Headers.profileName method)) = [s] := by
  rw [drafted, values_withSchema (tidy_withMediaType (tidy_withCaller ascii)) schema, given]
  exact if_pos rfl

/-- Apart from the schema, a name has the media type of one object, what the caller says or what is
standard. -/
theorem values_drafted {name : String}
    (apart : ∀ s, Headers.schema? q = some s → name ≠ Text.lower (Headers.profileName method)) :
    (q.drafted method caller).values name =
      if q.cardinality = .one ∧ name = "accept" then [objectMediaType]
      else if name ∈ caller.names ∧ name ≠ "prefer" then caller.values name
      else HeaderDraft.standard.values name := by
  rw [drafted, values_withSchema (tidy_withMediaType (tidy_withCaller ascii)) schema]
  have before := values_withMediaType (q := q) (tidy_withCaller ascii) name
  rw [values_withCaller ascii] at before
  split
  next s given => rw [if_neg (apart s given).symm, before]
  next => exact before

theorem values_drafted_prefer : (q.drafted method caller).values "prefer" = [] := by
  have apart : "prefer" ≠ Text.lower (Headers.profileName method) := by
    intro same
    exact lower_profileName method (same ▸ by decide)
  rw [values_drafted schema ascii method fun _ _ => apart]
  rw [if_neg fun both => absurd both.2 (by decide), if_neg fun both => both.2 rfl]
  rfl

/-- A request has its preferences, and for the rest what is drafted. -/
theorem requestHeaders_values : ∃ h, q.requestHeaders method caller = .ok h ∧ ∀ name,
    h.values name = if "prefer" = Text.lower name then q.preferred caller
      else (q.drafted method caller).values (Text.lower name) := by
  have tidy := tidy_drafted schema ascii method
  have whole := tidy_withPreferences (q := q) tidy ascii
  refine ⟨_, whole.headers_eq, fun name => ?_⟩
  rw [whole.values_written]
  exact values_withPreferences tidy (values_drafted_prefer schema ascii method) _

end Drafted

/-- A request whose schema and whose caller's fields are ASCII has header fields, and they are made
of what the caller and the query say, name by name. -/
theorem headers_merged {q : Query}
    (schema : q.schema.isGiven → ∃ s, q.schema.asText? = some s ∧ Text.allAscii s)
    {caller : Headers} (ascii : caller.IsAscii) (method : String) :
    (∃ h, q.requestHeaders method caller = .ok h ∧ h.Merged q method caller) ∧
      ∀ e, IsPreferenceKey e (preferenceKey e) := by
  obtain ⟨h, made, under⟩ := requestHeaders_values schema ascii method
  refine ⟨⟨h, made, ?_⟩, isPreferenceKey_preferenceKey⟩
  have apart {name : String} (cared : name ∈ ["accept", "content-type", "prefer"]) :
      name ≠ Text.lower (Headers.profileName method) :=
    fun same => lower_profileName method (same ▸ cared)
  have accept : Text.lower "Accept" = "accept" := by decide
  have contentType : Text.lower "Content-Type" = "content-type" := by decide
  have prefer : h.values "Prefer" = q.preferred caller :=
    (under "Prefer").trans (if_pos (by decide))
  -- In the order of the fields of `Headers.Merged`.
  refine ⟨?_, ?_, ?_, ?_, ?_, ?_⟩
  · rw [under, Headers.valuesOr_eq_ite ascii, accept, if_neg (by decide),
      values_drafted schema ascii method fun _ _ => apart (by decide)]
    exact if_congr (and_iff_left rfl) rfl (if_congr (and_iff_left (by decide)) rfl rfl)
  · rw [under, Headers.valuesOr_eq_ite ascii, contentType, if_neg (by decide),
      values_drafted schema ascii method fun _ _ => apart (by decide),
      if_neg fun both => absurd both.2 (by decide)]
    exact if_congr (and_iff_left (by decide)) rfl rfl
  · intro s given
    rw [under, if_neg (apart (by decide)), values_drafted_profile schema ascii method given]
  · refine ⟨(caller.values "Prefer").map commaParts, ?_, ?_⟩
    · rw [List.forall₂_map_right_iff, List.forall₂_same]
      exact fun s _ => isCommaList_commaParts s
    · have written : caller.values "prefer" = caller.values "Prefer" :=
        caller.values_congr (by decide)
      rw [prefer, preferred_eq, written, List.flatMap_def, Preferences.pairs_eq]
      simp
  · intro pair member
    rw [← Preferences.pairs_eq] at member
    rw [prefer]
    exact q.filter_preferred caller member
  · intro name foreign other
    simp only [List.mem_cons, List.not_mem_nil, or_false, not_or] at foreign
    obtain ⟨notAccept, notContentType, notPrefer⟩ := foreign
    rw [under, if_neg (Ne.symm notPrefer), values_drafted schema ascii method other,
      if_neg fun both => notAccept both.2, Headers.values_eq_ite ascii name]
    refine if_congr (and_iff_left notPrefer) rfl (values_of_not_mem ?_)
    simp [HeaderDraft.standard, notAccept, notContentType]

/-- One film of a schema, with a count. -/
def filmCounted : Query :=
  { ofResource "films" .one with
    schema := .text "api"
    preferences := { Preferences.none with count := some .exact } }

/-- Fields of a caller, one of which asks for another count, and one for another schema. -/
def givenFields : Headers :=
  ⟨[("prefer", "Count=planned , tx=commit"), ("ACCEPT-PROFILE", "other"), ("X-Trace", "1"),
    ("x-trace", "2")].map fun field => (Text.asciiBytes field.1, Text.asciiBytes field.2)⟩

/-- The query takes the place of the caller in what it sets, and the rest is passed on. -/
theorem headers_merged_filmCounted :
    (∃ s, filmCounted.schema.asText? = some s ∧ Text.allAscii s) ∧ givenFields.IsAscii ∧
    ∃ h, filmCounted.requestHeaders "get" givenFields = .ok h ∧
      h.values "accept" = [objectMediaType] ∧ h.values "content-type" = [jsonMediaType] ∧
      h.values "accept-profile" = ["api"] ∧ h.values "X-TRACE" = ["1", "2"] ∧
      (h.values "PREFER").filter (fun e => preferenceKey e = "count") = ["count=exact"] := by
  have schema : ∃ s, filmCounted.schema.asText? = some s ∧ Text.allAscii s := ⟨"api", rfl, rfl⟩
  have ascii : givenFields.IsAscii := by decide
  obtain ⟨⟨h, made, merged⟩, _⟩ := headers_merged (fun _ => schema) ascii "get"
  have read {name other : String} (same : Text.lower name = Text.lower other) {vs : List String}
      (values : h.values other = vs) : h.values name = vs := (h.values_congr same).trans values
  have trace : givenFields.values "X-TRACE" = ["1", "2"] := by decide
  have noType : givenFields.valuesOr "Content-Type" jsonMediaType = [jsonMediaType] := by decide
  have trace' := (merged.others "X-TRACE" (by decide) (by decide)).trans trace
  have once := merged.once ("count", "exact") (by decide)
  refine ⟨schema, ascii, h, made, read (by decide) merged.accept, ?_, ?_, trace', ?_⟩
  · exact read (by decide) (merged.contentType.trans noType)
  · exact read (by decide) (merged.profile "api" rfl)
  · rw [h.values_congr (show Text.lower "PREFER" = Text.lower "Prefer" by decide)]
    exact once

end Query

end RestQuery
