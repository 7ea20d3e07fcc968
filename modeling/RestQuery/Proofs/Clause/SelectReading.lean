import RestQuery.Proofs.Call.Selection
import RestQuery.Proofs.Clause.Select
import RestQuery.Proofs.Clause.SelectItem
import RestQuery.Proofs.Selection.Shapes

/-!
# The select clause can be read back

`Query.items?` is what the selectors of a query say, with those of embedded queries inside.  A
selector is `Selector.Chosen` if it was read from a text, a column with a modifier, a query or a
renamed query, and all names in it are free of the characters of the grammar; a run of calls that
select such things gives such selectors (`Call.chosen_of_run`).  A chosen selector is written as the
item that it says (`Selector.Chosen.spells`), so that the select clause is read back:
`Query.select_reads_back`.
-/

namespace RestQuery

open SelectItem (isName)

/-! ## What selectors say -/

/-- The text of an optional name; a value that is given and no text is not a name. -/
def Value.nameText? (v : Value) : Option (Option String) :=
  if v.isGiven then some <$> v.asText? else some none

mutual

/-- The item that a selector stands for, unless it cannot be written or holds other values than
texts. -/
def Selector.item? : Selector → Option SelectItem
  | .wildcard => some .wildcard
  | .column name => do return .column (← name.asText?)
  | .modified base name cast => do
    return .modified (← base.asText?) (← name.nameText?) (← cast.nameText?)
  | .path p => do return .path (← p.asText?)
  | .embedded { resource, selectors, inner, .. } name => do
    return .embedding (← name.nameText?) resource inner (← Selector.allItems? selectors)
  | .misembedded _ _ => none
  | .invalid _ => none
  | .unwritable _ => none

/-- The items that some selectors stand for. -/
def Selector.allItems? : List Selector → Option (List SelectItem)
  | [] => some []
  | s :: ss => do return (← s.item?) :: (← Selector.allItems? ss)

end

/-- The items that the selectors of a query stand for. -/
def Query.items? (q : Query) : Option (List SelectItem) := Selector.allItems? q.selectors

theorem Selector.item?_embedded (q : Query) (name : Value) :
    (embedded q name).item? = (do
      return .embedding (← name.nameText?) q.resource q.inner (← q.items?)) := by
  rcases q with ⟨⟩
  rw [item?, Query.items?]

/-! ## Chosen selectors -/

/-- Whether a name or a cast is left out, or is a name. -/
def Value.isOptionalName (v : Value) : Bool := !v.isGiven || v.asText?.any isName

/-- The selectors that are read from texts, from columns with a modifier, from queries and from
queries with a name, and so for all selectors of these queries, if all names in them are names of
the grammar. -/
inductive Selector.Chosen : Selector → Prop
  | text {given : Value} {s : String} :
    given.asText? = some s → isName s → Chosen (read given)
  | modified {given target : Value} {entries : List (Value × Value)} {s : String} :
    given.modifierPair? = some (target, entries) → target.asText? = some s → isName s → s ≠ "*" →
    (Value.member entries "name").isOptionalName → (Value.member entries "cast").isOptionalName →
    Chosen (read given)
  | query {q : Query} :
    isName q.resource → (∀ s ∈ q.selectors, Chosen s) → Chosen (read (.query q))
  | renamed {given : Value} {q : Query} {entries : List (Value × Value)} {name : String} :
    given.modifierPair? = some (.query q, entries) →
    (Value.member entries "name").asText? = some name → isName name →
    (Value.member entries "cast").isGiven = false →
    isName q.resource → (∀ s ∈ q.selectors, Chosen s) → Chosen (read given)

/-- All selectors of the query are chosen. -/
def Query.Chosen (q : Query) : Prop := ∀ s ∈ q.selectors, s.Chosen

namespace Call

/-- A call that selects, if anything, what gives chosen selectors. -/
def Chooses : Call → Prop
  | .select given => ∀ s ∈ Selector.readAll given, s.Chosen
  | .selectJson _ => False
  | _ => True

variable {write : QueryText} {pageSize : Value} {q r : Query}

/-- Calls that choose their selectors give chosen selectors. -/
theorem chosen_of_run {calls : List Call} (chooses : ∀ c ∈ calls, c.Chooses) (chosen : q.Chosen)
    (made : run write pageSize q calls = .ok r) : r.Chosen := by
  refine selectors_forall chosen (fun c member read parsed => ?_) made
  have chooses := chooses c member
  cases c with
  | select given =>
    cases parsed
    exact chooses
  | selectJson given => exact chooses.elim
  | _ =>
    cases parsed
    exact fun s none => absurd none List.not_mem_nil

end Call

/-! ## What is written for chosen selectors -/

/-- An optional text that is a name of the grammar, if there is one. -/
structure Value.Names (v : Value) : Prop where
  typed : v.isOptionalText
  free : ∀ s ∈ v.givenText?, isName s

theorem Value.Names.null : Value.null.Names := ⟨rfl, fun _ absent => nomatch absent⟩

theorem Value.Names.nameText? {v : Value} (names : v.Names) : v.nameText? = some v.givenText? := by
  rw [Value.nameText?]
  rcases givenText?_of_isOptionalText names.typed with ⟨absent, none⟩ | ⟨given, s, text, some⟩
  · rw [none, if_neg (by simp [absent])]
  · rw [some, if_pos given, text]
    rfl

theorem Value.Names.of_asText? {v : Value} {s : String} (text : v.asText? = some s)
    (named : isName s) : v.Names := by
  refine ⟨?_, fun s' member => ?_⟩
  · cases v <;> first | rfl | cases text
  · rw [givenText?, text] at member
    split at member <;> cases member
    exact named

/-- What is read of the name or the cast in a modifier. -/
theorem Value.Names.givenOrNull {v : Value} (named : v.isOptionalName) : v.givenOrNull.Names := by
  rw [isOptionalName, Bool.or_eq_true, Bool.not_eq_true'] at named
  rw [Value.givenOrNull]
  split
  next given =>
    obtain ⟨s, text, name⟩ := (Option.any_eq_true _ _).1 (named.resolve_left (by simp [given]))
    exact .of_asText? text name
  next => exact .null

theorem Value.isSome_givenText?_givenOrNull {v : Value} (named : v.isOptionalName)
    (given : v.isGiven) : v.givenOrNull.givenText?.isSome := by
  rw [isOptionalName, given] at named
  obtain ⟨s, text, _⟩ := (Option.any_eq_true _ _).1 named
  rw [givenOrNull, if_pos given, givenText?, if_pos given, text]
  rfl

namespace Selector

variable {write : QueryText} {given : Value}

/-- The selector stands for an item of names, and is written as this item. -/
structure Spells (write : QueryText) (s : Selector) (i : SelectItem) : Prop where
  item : s.item? = some i
  proper : i.Proper
  written : ∃ v, s.written write = .ok v ∧ v.asText? = some i.text

theorem spells_readText {s : String} (text : given.asText? = some s) (named : isName s) :
    (readText given s).Spells write (.ofPlain s) := by
  have item : (readText given s).item? = some (.ofPlain s) := by
    rw [readText, SelectItem.ofPlain]
    split
    next => rfl
    next => split <;> rw [item?, text] <;> rfl
  have written : ∃ v, (readText given s).written write = .ok v ∧ v.asText? = some s := by
    rw [readText]
    split
    next all => exact ⟨_, rfl, congrArg some all.symm⟩
    next => split <;> exact ⟨given, rfl, text⟩
  exact ⟨item, .plain named, by rwa [SelectItem.text_ofPlain]⟩

theorem spells_modified {base name cast : Value} {s : String} (text : base.asText? = some s)
    (based : isName s) (named : name.Names) (casted : cast.Names)
    (modifies : name.givenText?.isSome ∨ cast.givenText?.isSome) :
    (modified base name cast).Spells write (.modified s name.givenText? cast.givenText?) := by
  refine ⟨?_, .modified based named.free casted.free modifies, ?_⟩
  · rw [item?, text, named.nameText?, casted.nameText?]
    rfl
  · rw [SelectItem.text]
    exact modifiedText_eq text named.typed casted.typed

/-- Selectors that stand for items of names are written as these items, with commas between
them. -/
theorem select_of_spells {q : Query} (each : ∀ s ∈ q.selectors, ∃ i, s.Spells write i) :
    ∃ items, q.items? = some items ∧ (∀ i ∈ items, i.Proper) ∧
      q.select write = .ok (SelectItem.joined items) := by
  have run (ss : List Selector) (each : ∀ s ∈ ss, ∃ i, s.Spells write i) :
      ∃ items vs, allItems? ss = some items ∧ (∀ i ∈ items, i.Proper) ∧
        allWritten write ss = .ok vs ∧
        vs.mapM Value.requireText = .ok (items.map SelectItem.text) := by
    induction ss with
    | nil => exact ⟨[], [], rfl, fun _ member => absurd member List.not_mem_nil, rfl, rfl⟩
    | cons s ss ih =>
      obtain ⟨first, each⟩ := List.forall_mem_cons.1 each
      obtain ⟨i, item, proper, v, made, text⟩ := first
      obtain ⟨items, vs, others, proper', made', texts⟩ := ih each
      refine ⟨i :: items, v :: vs, ?_, List.forall_mem_cons.2 ⟨proper, proper'⟩, ?_, ?_⟩
      · rw [allItems?, item, others]
        rfl
      · rw [allWritten, made, made']
        rfl
      · rw [List.mapM_cons, Value.requireText_of_asText? text, texts]
        rfl
  obtain ⟨items, vs, said, proper, made, texts⟩ := run q.selectors each
  refine ⟨items, said, proper, ?_⟩
  rw [Query.select, made, ok_bind, joinTexts, texts]
  rfl

theorem spells_embedded {q : Query} {name : Value} (named : name.Names)
    (resourced : isName q.resource) (each : ∀ s ∈ q.selectors, ∃ i, s.Spells write i) :
    ∃ i, (embedded q name).Spells write i := by
  obtain ⟨items, said, proper, selected⟩ := select_of_spells each
  refine ⟨.embedding name.givenText? q.resource q.inner items, ?_,
    .embedding q.inner resourced named.free proper, ?_⟩
  · rw [item?_embedded, named.nameText?, said]
    rfl
  · rw [written_embedded, embeddedHead_eq write named.typed, selected, SelectItem.text]
    exact ⟨_, rfl, rfl⟩

/-- A chosen selector is written as the item that it stands for. -/
theorem Chosen.spells {s : Selector} (chosen : s.Chosen) : ∃ i, s.Spells write i := by
  induction chosen with
  | @text given s text named =>
    rw [read_of_asText? text]
    exact ⟨_, spells_readText text named⟩
  | @modified given target entries s pair text based column named casted =>
    have shape : read given = .modified target (Value.member entries "name").givenOrNull
        (Value.member entries "cast").givenOrNull := by
      rw [read_of_modifierPair? pair]
      cases target with
      | text t | token t =>
        cases text
        simp only [readModified, Value.asText?, if_neg column]
      | _ => cases text
    have modifies := (Value.modifierPair?_eq_some.1 pair).modifies.imp
      (Value.isSome_givenText?_givenOrNull named) (Value.isSome_givenText?_givenOrNull casted)
    rw [shape]
    exact ⟨_, spells_modified text based (.givenOrNull named) (.givenOrNull casted) modifies⟩
  | query resourced _ each => exact spells_embedded .null resourced each
  | @renamed given q entries name pair text named uncast resourced _ each =>
    have nameGiven : (Value.member entries "name").isGiven := by
      simpa [uncast] using (Value.modifierPair?_eq_some.1 pair).modifies
    have shape : read given = .embedded q (Value.member entries "name") := by
      have name : (Value.member entries "name").givenOrNull = Value.member entries "name" :=
        if_pos nameGiven
      have cast : (Value.member entries "cast").givenOrNull = .null := if_neg (by simp [uncast])
      rw [read_of_modifierPair? pair]
      simp only [readModified, name, cast, nameGiven]
      rfl
    rw [shape]
    exact spells_embedded (.of_asText? text named) resourced each

end Selector

/-- Selectors chosen from texts, columns with modifiers and queries, with names free of the
characters of the grammar, are written as a text from which exactly their items are read: the kind
of each, its column, name and cast, and for an embedding the name, the resource, the inner mark and
the items inside.  So queries of chosen selectors with one select clause have the same items.  Calls
that select such things give such queries (`Call.chosen_of_run`). -/
theorem Query.select_reads_back (write : QueryText) {q r : Query} (chosen : q.Chosen)
    (chosen' : r.Chosen) :
    (∃ text items, q.select write = .ok text ∧ q.items? = some items ∧
      SelectItem.readAll? text = some items) ∧
    (q.select write = r.select write → q.items? = r.items?) := by
  obtain ⟨items, said, proper, made⟩ :=
    Selector.select_of_spells fun s member => (chosen s member).spells
  obtain ⟨items', said', proper', made'⟩ :=
    Selector.select_of_spells fun s member => (chosen' s member).spells
  have reads := SelectItem.readAll?_joined proper
  refine ⟨⟨_, items, made, said, reads⟩, fun same => ?_⟩
  rw [made, made'] at same
  rw [Except.ok.inj same, SelectItem.readAll?_joined proper'] at reads
  rw [said, said', reads]

/-- Films with their actors and the agents of these. -/
def Query.filmsSelected : Query :=
  let actors := { ofResource "actors" .many with
    selectors := Selector.readAll (.list [.text "*",
      .tuple [.query (ofResource "agents" .one), .object [("name", .text "agency")]]])
    inner := true }
  { ofResource "films" .many with
    selectors := Selector.readAll (.list [.text "title", .text "info->year",
      .tuple [.text "length", .object [("name", .text "minutes"), ("cast", .text "int")]],
      .query actors]) }

/-- A film is read with a path, a renamed column, and an embedding without any items two levels
down. -/
theorem Query.select_reads_back_filmsSelected :
    filmsSelected.Chosen ∧
    filmsSelected.select (fun _ => .ok "") =
      .ok "title,info->year,minutes:length::int,actors!inner(*,agency:agents())" ∧
    filmsSelected.items? = SelectItem.readAll?
      "title,info->year,minutes:length::int,actors!inner(*,agency:agents())" := by
  have inside : ∀ s ∈ Selector.readAll (.list [.text "*",
      .tuple [.query (ofResource "agents" .one), .object [("name", .text "agency")]]]),
      s.Chosen :=
    List.forall_mem_cons.2 ⟨.text rfl (by decide), List.forall_mem_singleton.2
      (.renamed rfl rfl (by decide) rfl (by decide) fun _ member => absurd member List.not_mem_nil)⟩
  have chosen : filmsSelected.Chosen :=
    List.forall_mem_cons.2 ⟨.text rfl (by decide), List.forall_mem_cons.2 ⟨.text rfl (by decide),
      List.forall_mem_cons.2 ⟨.modified rfl rfl (by decide) (by decide) (by decide) (by decide),
        List.forall_mem_singleton.2 (.query (by decide) inside)⟩⟩⟩
  have written : filmsSelected.select (fun _ => .ok "") =
      .ok "title,info->year,minutes:length::int,actors!inner(*,agency:agents())" := by rfl
  obtain ⟨⟨text, items, made, said, reads⟩, _⟩ :=
    select_reads_back (fun _ => .ok "") chosen chosen
  cases written.symm.trans made
  exact ⟨chosen, written, said.trans reads.symm⟩

end RestQuery
