import RestQuery.Proofs.Clause.ColumnPath
import RestQuery.Proofs.Clause.Ordering

/-!
# The names in an ordering

A dotted column of an ordering key names embeddings, each by its alias or by its resource, and is
written with the names as they stand in it.  `Query.stops` lists the embeddings that a column passes
through, and by `Query.orderColumn_stops` the names of the stops are what is written.  The select
clause exposes an embedding under its alias alone.  So a step of the path is written under the alias
of its embedding exactly if it is named by it, and the keys whose columns are named so throughout
are written with exposed names alone: `Query.ordering_names`.  A column that names a renamed
embedding by its resource is `Query.renamed_not_under_alias`.
-/

namespace RestQuery

/-! ## The embeddings on the way to a column -/

/-- The embedding that the first name of a dotted column means. -/
def Query.embeddingOf? (q : Query) (name : String) : Option Embedding :=
  q.embeddings.find? fun e => decide (e.answersTo name)

/-- An embedding that a dotted column passes through: the name by which the column calls it, and
what remains of the column behind the name. -/
structure PathStop where
  name : String
  embedding : Embedding
  rest : List Char

/-- The embeddings that a column of the ordering passes through. -/
def Query.stops (q : Query) (column : List Char) : List PathStop :=
  match _ : Text.splitFirst '.' column with
  | (name, some rest) =>
    match q.embeddingOf? (String.ofList name) with
    | some e => ⟨String.ofList name, e, rest⟩ :: e.query.stops rest
    | none => []
  | (_, none) => []
termination_by column.length
decreasing_by
  rename_i cut
  rw [(Text.eq_append_of_splitFirst cut).2, List.length_append, List.length_cons]
  omega

/-- The part of a column that names no embedding any more. -/
def Query.ownColumn (q : Query) (column : List Char) : List Char :=
  ((q.stops column).map PathStop.rest).getLastD column

section Stops

variable {q : Query} {e : Embedding} {name : String} {rest : List Char}

theorem Query.stops_dotted (dotless : '.' ∉ name.toList) (found : q.embeddingOf? name = some e) :
    q.stops (name.toList ++ '.' :: rest) = ⟨name, e, rest⟩ :: e.query.stops rest := by
  rw [stops, Text.splitFirst_append dotless]
  dsimp only
  rw [String.ofList_toList, found]

/-- A column without a dot passes through no embedding. -/
theorem Query.stops_of_not_mem {column : List Char} (dotless : '.' ∉ column) :
    q.stops column = [] := by
  rw [stops, Text.splitFirst_of_not_mem dotless]

theorem Query.orderColumn_of_not_mem {column : List Char} (dotless : '.' ∉ column) :
    q.orderColumn column = String.ofList column := by
  rcases q with ⟨⟩
  rw [orderColumn, Text.splitFirst_of_not_mem dotless]

theorem Query.orderColumn_dotted (dotless : '.' ∉ name.toList)
    (found : q.embeddingOf? name = some e) :
    q.orderColumn (name.toList ++ '.' :: rest) = nested name (e.query.orderColumn rest) := by
  obtain ⟨answers, before, after, place, unanswered⟩ := List.find?_eq_some_iff_append.1 found
  exact orderColumn_below place (fun other member => by simpa using unanswered other member)
    (by simpa using answers) dotless rest

/-- A name that is not found ends the way. -/
theorem Query.stops_unnamed (dotless : '.' ∉ name.toList) (missing : q.embeddingOf? name = none) :
    q.stops (name.toList ++ '.' :: rest) = [] := by
  rw [stops, Text.splitFirst_append dotless]
  dsimp only
  rw [String.ofList_toList, missing]

theorem Query.orderColumn_unnamed (dotless : '.' ∉ name.toList)
    (missing : q.embeddingOf? name = none) :
    q.orderColumn (name.toList ++ '.' :: rest) = String.ofList (name.toList ++ '.' :: rest) := by
  have unresolved : Selector.orderColumn name rest q.selectors = none := by
    rw [Selector.orderColumn_eq]
    exact Option.map_eq_none_iff.2 missing
  rcases q with ⟨⟩
  rw [orderColumn, Text.splitFirst_append dotless]
  dsimp only at unresolved ⊢
  rw [String.ofList_toList, unresolved]
  rfl

theorem Query.ownColumn_dotted (dotless : '.' ∉ name.toList)
    (found : q.embeddingOf? name = some e) :
    q.ownColumn (name.toList ++ '.' :: rest) = e.query.ownColumn rest := by
  rw [ownColumn, stops_dotted dotless found, List.map_cons, List.getLastD_cons]
  rfl

end Stops

/-- What holds of columns that pass through no embedding, and of a dotted column as soon as it holds
of what remains of it in the query found, holds of every column. -/
theorem Query.path_induction {motive : Query → List Char → Prop}
    (own : ∀ (q : Query) column, q.stops column = [] →
      q.orderColumn column = String.ofList column → motive q column)
    (dotted : ∀ (q : Query) e (name : String) rest, '.' ∉ name.toList →
      q.embeddingOf? name = some e → motive e.query rest → motive q (name.toList ++ '.' :: rest))
    (q : Query) (column : List Char) : motive q column := by
  by_cases dot : '.' ∈ column
  · obtain ⟨name, rest, whole, dotless⟩ := List.eq_append_cons_of_mem dot
    rw [← String.toList_ofList (l := name)] at dotless whole
    rw [whole]
    cases found : q.embeddingOf? (String.ofList name) with
    | some e =>
      have shorter : rest.length < column.length := by
        rw [whole, List.length_append, List.length_cons]
        omega
      exact dotted q e _ rest dotless found (path_induction own dotted e.query rest)
    | none => exact own q _ (stops_unnamed dotless found) (orderColumn_unnamed dotless found)
  · exact own q column (stops_of_not_mem dot) (orderColumn_of_not_mem dot)
termination_by column.length

/-- A column is written with the names that stand in it, each around what is written for the rest of
the column. -/
theorem Query.orderColumn_stops (q : Query) (column : List Char) :
    q.orderColumn column = ((q.stops column).map PathStop.name).foldr nested
      (String.ofList (q.ownColumn column)) := by
  induction q, column using Query.path_induction with
  | own q column none plain =>
    rw [plain, ownColumn, none]
    rfl
  | dotted q e name rest dotless found ih =>
    rw [orderColumn_dotted dotless found, stops_dotted dotless found,
      ownColumn_dotted dotless found, List.map_cons, List.foldr_cons, ih]

theorem nested_left_inj {name name' inside : String} :
    nested name inside = nested name' inside ↔ name = name' := by
  rw [nested, nested, String.append_assoc, String.append_assoc, String.append_assoc,
    String.append_assoc]
  exact String.append_left_inj _

/-! ## Exposed names -/

/-- The column names the embedding by its alias. -/
def PathStop.IsByAlias (write : QueryText) (s : PathStop) : Prop :=
  s.embedding.aliasValue.plain write = .ok s.name

/-- The names lead from a query down its embeddings, each being the one under which the select
clause exposes an embedding there. -/
def Query.Exposes (write : QueryText) : Query → List String → Prop
  | _, [] => True
  | q, name :: names => ∃ e ∈ q.embeddings,
    e.aliasValue.plain write = .ok name ∧ e.query.Exposes write names

theorem Query.exposes_stops (write : QueryText) (q : Query) (column : List Char) :
    (∀ s ∈ q.stops column, s.IsByAlias write) →
      q.Exposes write ((q.stops column).map PathStop.name) := by
  induction q, column using Query.path_induction with
  | own q column none plain =>
    intro _
    rw [none]
    trivial
  | dotted q e name rest dotless found ih =>
    rw [stops_dotted dotless found]
    intro byAlias
    obtain ⟨first, further⟩ := List.forall_mem_cons.1 byAlias
    exact ⟨e, List.mem_of_find?_eq_some found, first, ih further⟩

/-- Names that lead on from a node lead from the root, if the aliases on the way to the node stand
before them. -/
theorem Query.exposes_of_node (write : QueryText) (q : Query) :
    ∀ {before : List Value}, ∀ n ∈ q.nodesFrom before, ∀ above names,
      (n.path.drop before.length).mapM (Value.plain write) = .ok above →
      n.query.Exposes write names → q.Exposes write (above ++ names) := by
  have starts (q : Query) : ∀ (before : List Value), ∀ n ∈ q.nodesFrom before,
      ∃ path, n.path = before ++ path := by
    induction q using Query.embedding_induction with
    | step q ih =>
      intro before n visited
      rw [nodesFrom_embeddings] at visited
      rcases List.mem_cons.1 visited with rfl | below
      · exact ⟨[], (List.append_nil before).symm⟩
      · obtain ⟨e, member, inside⟩ := List.mem_flatMap.1 below
        obtain ⟨path, whole⟩ := ih e member _ n inside
        exact ⟨e.aliasValue :: path, by rw [whole, List.append_assoc, List.singleton_append]⟩
  induction q using Query.embedding_induction with
  | step q ih =>
    intro before n visited above names made exposed
    rw [nodesFrom_embeddings] at visited
    rcases List.mem_cons.1 visited with rfl | below
    · rw [List.drop_length] at made
      cases made
      exact exposed
    · obtain ⟨e, member, inside⟩ := List.mem_flatMap.1 below
      obtain ⟨path, whole⟩ := starts e.query _ n inside
      rw [whole, List.append_assoc, List.drop_left, List.singleton_append,
        List.mapM_cons] at made
      obtain ⟨name, own, made⟩ := bind_eq_ok.1 made
      obtain ⟨further, others, made⟩ := bind_eq_ok.1 made
      cases made
      refine ⟨e, member, own, ih e member n inside further names ?_ exposed⟩
      rw [whole, List.drop_left]
      exact others

/-! ## The names of a key -/

/-- The names that stand around the column of a key in the parameter of a node: the aliases that
lead on from the node, and the names in the column. -/
def PlacedKey.names (write : QueryText) (owner : Node) (p : PlacedKey) (column : List Char) :
    Except Error (List String) := do
  let above ← (p.node.path.drop owner.path.length).mapM (Value.plain write)
  return above ++ (p.node.query.stops column).map PathStop.name

theorem Query.wrapped_of_names {write : QueryText} {path : List Value} {names : List String}
    (made : path.mapM (Value.plain write) = .ok names) (column : String) :
    wrapped write path column = .ok (names.foldr nested column) := by
  rw [wrapped]
  induction path generalizing names with
  | nil =>
    cases made
    rfl
  | cons v path ih =>
    rw [List.mapM_cons] at made
    obtain ⟨name, own, made⟩ := bind_eq_ok.1 made
    obtain ⟨further, others, made⟩ := bind_eq_ok.1 made
    cases made
    rw [List.foldrM_cons, ih others, ok_bind, own]
    rfl

/-- A key is written with its names around what remains of its column. -/
theorem PlacedKey.written_names {write : QueryText} {owner : Node} {p : PlacedKey}
    {column : String} {names : List String} (text : p.key.columnText = .ok column)
    (made : p.names write owner column.toList = .ok names) :
    p.written write owner = .ok (p.key.written
      (names.foldr nested (String.ofList (p.node.query.ownColumn column.toList)))) := by
  obtain ⟨above, aliases, made⟩ := bind_eq_ok.1 made
  cases made
  rw [written, text, ok_bind, Query.orderColumn_stops, List.foldr_append]
  dsimp only
  rw [Query.wrapped_of_names aliases]
  rfl

/-- A key of a parameter is stored in the tree below the node of the parameter. -/
theorem Query.mem_nodesFrom_of_planned {q : Query} {par : OrderingParameter}
    (planned : par ∈ q.orderingPlan) {p : PlacedKey} (held : p ∈ par.keys) :
    p.node ∈ par.owner.query.nodesFrom par.owner.path := by
  have own {n : Node} (stored : p ∈ n.storedKeys) : p.node = n := by
    obtain ⟨k, _, rfl⟩ := List.mem_map.1 stored
    rfl
  rcases List.mem_cons.1 planned with rfl | later
  · show p.node ∈ q.nodes
    rw [nodes_eq]
    rcases List.mem_append.1 held with root | hoisted
    · rw [own root]
      exact List.mem_cons_self
    · obtain ⟨n, visited, inside⟩ := List.mem_flatMap.1 hoisted
      rw [own (List.mem_filter.1 inside).1]
      exact List.mem_cons_of_mem _ visited
  · obtain ⟨n, _, rfl⟩ := List.mem_map.1 later
    rw [own (List.mem_filter.1 held).1, nodesFrom_embeddings]
    exact List.mem_cons_self

/-- A dotted column whose first name some embedding answers to is written with this name, around
what is written for the rest of the column in the first embedding that answers.  So it is written
under the alias of the embedding exactly if that is the name.  Every key of the ordering is written
with the names in its column, after the aliases of the way to its query if it is hoisted, and if its
column names all embeddings by their aliases, then these are names under which the select clause
exposes embeddings, level by level. -/
theorem Query.ordering_names (write : QueryText) (q : Query) :
    (∀ (r : Query) (name : String), '.' ∉ name.toList → ∀ other ∈ r.embeddings,
      other.answersTo name → ∃ e, r.embeddingOf? name = some e ∧ ∀ rest,
        r.orderColumn (name.toList ++ '.' :: rest) = nested name (e.query.orderColumn rest) ∧
        ((∃ shown, e.aliasValue.plain write = .ok shown ∧
          r.orderColumn (name.toList ++ '.' :: rest) = nested shown (e.query.orderColumn rest)) ↔
            e.aliasValue.plain write = .ok name)) ∧
    ∀ par ∈ q.orderingPlan, ∀ p ∈ par.keys, ∀ column names,
      p.key.columnText = .ok column → p.names write par.owner column.toList = .ok names →
      p.written write par.owner = .ok (p.key.written
        (names.foldr nested (String.ofList (p.node.query.ownColumn column.toList)))) ∧
      ((∀ s ∈ p.node.query.stops column.toList, s.IsByAlias write) →
        par.owner.query.Exposes write names) := by
  refine ⟨fun r name dotless other member answers => ?_,
    fun par planned p held column names text made => ⟨p.written_names text made, fun byAlias => ?_⟩⟩
  · cases found : r.embeddingOf? name with
    | none => exact absurd answers (by simpa using List.find?_eq_none.1 found other member)
    | some e =>
      refine ⟨e, rfl, fun rest => ⟨orderColumn_dotted dotless found, ?_⟩⟩
      rw [orderColumn_dotted dotless found]
      simp only [nested_left_inj]
      exact ⟨fun ⟨shown, own, same⟩ => same ▸ own, fun own => ⟨name, own, rfl⟩⟩
  · obtain ⟨above, aliases, made⟩ := bind_eq_ok.1 made
    cases made
    exact exposes_of_node write _ _ (mem_nodesFrom_of_planned planned held) above _ aliases
      (exposes_stops write _ _ byAlias)

/-- Actors that a film embeds under another name. -/
def Embedding.cast : Embedding := ⟨.ofResource "actors" .many, .text "cast"⟩

/-- Films with their actors, ordered by the alias of these. -/
def Query.filmsByCast : Query :=
  { ofResource "films" .many with
    selectors := [.embedded Embedding.cast.query Embedding.cast.name]
    ordering := [.ofColumn (.text "cast.name")] }

theorem Query.ordering_names_filmsByCast :
    PlacedKey.written (fun _ => .ok "") ⟨[], filmsByCast⟩
      ⟨⟨[], filmsByCast⟩, .ofColumn (.text "cast.name")⟩ = .ok "cast(name)" ∧
    filmsByCast.Exposes (fun _ => .ok "") ["cast"] := by
  have stops : filmsByCast.stops "cast.name".toList = [⟨"cast", .cast, "name".toList⟩] := by
    have first : filmsByCast.stops ("cast".toList ++ '.' :: "name".toList) =
        ⟨"cast", .cast, "name".toList⟩ :: Embedding.cast.query.stops "name".toList :=
      stops_dotted (by decide) rfl
    have last : Embedding.cast.query.stops "name".toList = [] := stops_of_not_mem (by decide)
    rw [last] at first
    exact first
  obtain ⟨_, keys⟩ := ordering_names (fun _ => .ok "") filmsByCast
  have names : PlacedKey.names (fun _ => .ok "") ⟨[], filmsByCast⟩
      ⟨⟨[], filmsByCast⟩, .ofColumn (.text "cast.name")⟩ "cast.name".toList = .ok ["cast"] := by
    rw [PlacedKey.names, stops]
    rfl
  obtain ⟨written, exposes⟩ := keys _ List.mem_cons_self _ List.mem_cons_self "cast.name" ["cast"]
    rfl names
  rw [ownColumn, stops] at written
  refine ⟨written, exposes ?_⟩
  rw [stops]
  exact List.forall_mem_singleton.2 rfl

/-- A renamed embedding that a column names by its resource is not written under its alias, and the
name that is written is none under which the query exposes an embedding. -/
theorem Query.renamed_not_under_alias :
    filmsByCast.embeddingOf? "actors" = some .cast ∧ Embedding.cast.aliasValue = .text "cast" ∧
    filmsByCast.orderColumn "actors.name".toList = "actors(name)" ∧
    filmsByCast.orderColumn "actors.name".toList ≠
      nested "cast" (Embedding.cast.query.orderColumn "name".toList) ∧
    ¬filmsByCast.Exposes (fun _ => .ok "") ["actors"] := by
  have written : filmsByCast.orderColumn ("actors".toList ++ '.' :: "name".toList) =
      nested "actors" (Embedding.cast.query.orderColumn "name".toList) :=
    orderColumn_dotted (by decide) rfl
  have column : Embedding.cast.query.orderColumn "name".toList = "name" := by
    rw [orderColumn_of_not_mem (by decide), String.ofList_toList]
  rw [column] at written ⊢
  refine ⟨rfl, rfl, written, ?_, ?_⟩
  · rw [show "actors.name".toList = "actors".toList ++ '.' :: "name".toList from rfl, written]
    exact fun same => absurd (nested_left_inj.1 same) (by decide)
  · rintro ⟨e, member, own, _⟩
    cases List.mem_singleton.1 member
    exact absurd (Except.ok.inj own) (by decide)

end RestQuery
