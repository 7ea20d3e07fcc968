import RestQuery.Clause.Ordering
import RestQuery.Proofs.Embedding.Collect
import RestQuery.Proofs.Text.Form

/-!
# Ordering keys by the path of their column

A key of an embedded query reaches the ordering of the root in two ways: as a top key, which is
wrapped in the aliases on the way to its query, or as a key of the root with a dotted column, which
is cut at its dots and looked up embedding by embedding.  `Query.Leads` says when the aliases of a
path name the embeddings that they belong to, and `Query.hoisted_as_path` that both ways then write
the same.
-/

namespace RestQuery

/-! ## Names of embeddings -/

/-- Whether a dotted column of this first name can mean the embedding. -/
def Embedding.answersTo (e : Embedding) (name : String) : Prop :=
  e.aliasValue.asText? = some name ∨ e.query.resource = name

instance (e : Embedding) (name : String) : Decidable (e.answersTo name) :=
  inferInstanceAs (Decidable (_ ∨ _))

/-- The aliases `path`, whose texts are `names`, lead from a query to one in its embedding tree.  No
name has a dot, and each means the embedding that it belongs to, as none before it answers to the
name. -/
inductive Query.Leads : Query → List Value → List String → Query → Prop
  | here (q : Query) : Leads q [] [] q
  | further {q r : Query} {e : Embedding} {before after : List Embedding} {path : List Value}
      {name : String} {names : List String} :
    q.embeddings = before ++ e :: after → (∀ other ∈ before, ¬other.answersTo name) →
    e.aliasValue.asText? = some name → '.' ∉ name.toList → Leads e.query path names r →
    Leads q (e.aliasValue :: path) (name :: names) r

/-- A column below some names, with a dot after each name. -/
def dottedColumn (names : List String) (column : String) : String :=
  String.join (names.map (· ++ ".")) ++ column

theorem toList_dottedColumn_cons (name : String) (names : List String) (column : String) :
    (dottedColumn (name :: names) column).toList =
      name.toList ++ '.' :: (dottedColumn names column).toList := by
  simp [dottedColumn, String.append_assoc]

/-! ## Looking up a dotted column -/

theorem Selector.orderColumnOf_embedded (name : String) (rest : List Char) (q : Query)
    (given : Value) :
    (Selector.embedded q given).orderColumnOf name rest =
      if (Embedding.mk q given).answersTo name then some (nested name (q.orderColumn rest))
      else none := rfl

/-- The path is resolved through the first embedding that answers to the name. -/
theorem Selector.orderColumn_eq (name : String) (rest : List Char) (ss : List Selector) :
    Selector.orderColumn name rest ss =
      ((ss.filterMap Selector.embedding?).find? fun e => decide (e.answersTo name)).map
        fun e => nested name (e.query.orderColumn rest) := by
  induction ss with
  | nil => rfl
  | cons s ss ih =>
    cases s with
    | embedded q given =>
      have first : (embedded q given :: ss).filterMap embedding? =
          ⟨q, given⟩ :: ss.filterMap embedding? := rfl
      rw [orderColumn, orderColumnOf_embedded, first]
      by_cases answers : (Embedding.mk q given).answersTo name
      · rw [if_pos answers, List.find?_cons_of_pos (by simpa using answers)]
        rfl
      · rw [if_neg answers, List.find?_cons_of_neg (by simpa using answers)]
        exact ih
    | _ => exact ih

/-- The first elements of two lists that are wanted agree, if the lists do. -/
theorem map_find?_forall₂ {α β γ : Type} {R : α → β → Prop} {p : α → Bool} {p' : β → Bool}
    {f : α → γ} {g : β → γ} {xs : List α} {ys : List β} (agree : List.Forall₂ R xs ys)
    (wanted : ∀ x y, R x y → p x = p' y) (made : ∀ x ∈ xs, ∀ y, R x y → f x = g y) :
    (xs.find? p).map f = (ys.find? p').map g := by
  induction agree with
  | nil => rfl
  | @cons x y xs ys first _ ih =>
    rw [List.find?_cons, List.find?_cons, ← wanted x y first]
    cases p x with
    | true => exact congrArg some (made x List.mem_cons_self y first)
    | false => exact ih fun x' member => made x' (List.mem_cons_of_mem x member)

/-- Columns are resolved alike in related queries, if a relation goes on from a query to the
embeddings of it, and related embeddings answer to the same names. -/
theorem Query.orderColumn_related {R : Query → Query → Prop}
    (below : ∀ {q r : Query}, R q r → List.Forall₂ (fun e f : Embedding =>
      R e.query f.query ∧ ∀ name, e.answersTo name ↔ f.answersTo name) q.embeddings r.embeddings)
    (q : Query) : ∀ {r : Query} (column : List Char), R q r →
      q.orderColumn column = r.orderColumn column := by
  induction q using Query.embedding_induction with
  | step q ih =>
    intro r column related
    have resolved (name : String) (rest : List Char) :
        Selector.orderColumn name rest q.selectors =
          Selector.orderColumn name rest r.selectors := by
      rw [Selector.orderColumn_eq, Selector.orderColumn_eq]
      refine map_find?_forall₂ (below related) (fun e f same => ?_) fun e member f same => ?_
      · exact decide_eq_decide.2 (same.2 name)
      · rw [ih e member rest same.1]
    rcases q with ⟨⟩
    rcases r with ⟨⟩
    simp only [Query.orderColumn]
    dsimp only at resolved
    simp only [resolved]

/-- A column whose first name means an embedding is a column of the query found, within the name. -/
theorem Query.orderColumn_below {q : Query} {e : Embedding} {before after : List Embedding}
    {name : String} (place : q.embeddings = before ++ e :: after)
    (unanswered : ∀ other ∈ before, ¬other.answersTo name) (answers : e.answersTo name)
    (dotless : '.' ∉ name.toList) (rest : List Char) :
    q.orderColumn (name.toList ++ '.' :: rest) = nested name (e.query.orderColumn rest) := by
  have found : (q.embeddings.find? fun e => decide (e.answersTo name)) = some e := by
    rw [place, List.find?_append]
    have none : (before.find? fun e => decide (e.answersTo name)) = none :=
      List.find?_eq_none.2 fun other member => by simpa using unanswered other member
    rw [none, List.find?_cons_of_pos (by simpa using answers)]
    rfl
  have resolved : Selector.orderColumn name rest q.selectors =
      some (nested name (e.query.orderColumn rest)) := by
    rw [Selector.orderColumn_eq]
    exact congrArg (Option.map _) found
  rcases q with ⟨⟩
  rw [orderColumn, Text.splitFirst_append dotless]
  dsimp only at resolved ⊢
  rw [String.ofList_toList, resolved]
  rfl

/-! ## Following a path of aliases -/

namespace Query.Leads

variable {q r : Query} {path : List Value} {names : List String}

/-- The path leads to a node of the tree. -/
theorem mem_nodesFrom (leads : Leads q path names r) :
    ∀ above, ⟨above ++ path, r⟩ ∈ q.nodesFrom above := by
  induction leads with
  | here q =>
    intro above
    rw [nodesFrom_embeddings, List.append_nil]
    exact List.mem_cons_self
  | @further q r e before after path name names place _ _ _ _ ih =>
    intro above
    have member : e ∈ q.embeddings := by
      rw [place]
      exact List.mem_append_right before List.mem_cons_self
    have inside := ih (above ++ [e.aliasValue])
    rw [List.append_assoc, List.singleton_append] at inside
    rw [nodesFrom_embeddings]
    exact List.mem_cons_of_mem _ (List.mem_flatMap.2 ⟨e, member, inside⟩)

theorem mem_tail (leads : Leads q path names r) (embedded : path ≠ []) :
    ⟨path, r⟩ ∈ q.nodes.tail := by
  have member : ⟨path, r⟩ ∈ q.nodes := leads.mem_nodesFrom []
  rw [nodes_eq] at member
  rcases List.mem_cons.1 member with root | later
  · exact absurd (congrArg Node.path root) embedded
  · exact later

/-- A column wrapped in the aliases of the path is wrapped in their names. -/
theorem wrapped_eq (leads : Leads q path names r) (write : QueryText) (column : String) :
    wrapped write path column = .ok (names.foldr nested column) := by
  induction leads with
  | here q => rfl
  | further _ _ read _ _ ih =>
    rw [wrapped] at ih ⊢
    rw [List.foldrM_cons, ih, ok_bind, Value.plain_of_asText? read]
    rfl

/-- A dotted column is looked up name by name, and what remains of it in the query at the end. -/
theorem orderColumn_eq (leads : Leads q path names r) (column : String) :
    q.orderColumn (dottedColumn names column).toList =
      names.foldr nested (r.orderColumn column.toList) := by
  induction leads with
  | here q => simp [dottedColumn]
  | further place unanswered read dotless _ ih =>
    rw [toList_dottedColumn_cons, orderColumn_below place unanswered (.inl read) dotless, ih]
    rfl

end Query.Leads

/-! ## The two ways to write a key -/

theorem SortKey.columnText_of_asText? {k : SortKey} {column : String}
    (text : k.column.asText? = some column) : k.columnText = .ok column := by
  rw [columnText]
  cases given : k.column <;> simp_all [Value.asText?]

/-- What the query at a node writes for a top key is among the keys of the root. -/
theorem Query.hoistedText_mem_rootKeys {write : QueryText} {q : Query} {n : Node} {k : SortKey}
    (node : n ∈ q.nodes.tail) (stored : k ∈ n.query.ordering) (top : k.isTop) {keys : List String}
    (made : q.rootKeys write = .ok keys) :
    ∃ t ∈ keys, n.query.hoistedText write n.path k = .ok t := by
  rw [rootKeys, collectAll_nodes] at made
  obtain ⟨own, _, made⟩ := bind_eq_ok.1 made
  obtain ⟨hoisted, walked, made⟩ := bind_eq_ok.1 made
  cases made
  obtain ⟨here, written, within⟩ := exists_of_flatMapM_eq_ok walked node
  simp only [foldlM_snoc, ok_bind, List.nil_append] at written
  obtain ⟨t, own, member⟩ :=
    exists_of_mapM_eq_ok written (List.mem_filter.2 ⟨stored, top⟩)
  exact ⟨t, List.mem_append_right _ (within t member), own⟩

/-- A top key of an embedded query is written as the key of the root that names its column by the
path of the aliases, if each alias means its embedding. -/
theorem Query.hoisted_as_path (write : QueryText) {q r : Query} {path : List Value}
    {names : List String} {k : SortKey} {column : String} (leads : Leads q path names r)
    (embedded : path ≠ []) (stored : k ∈ r.ordering) (top : k.isTop)
    (text : k.column.asText? = some column) (mark : Value) :
    ∃ t, r.hoistedText write path k = .ok t ∧
      q.orderText ⟨.text (dottedColumn names column), k.direction, k.nulls, mark⟩ = .ok t ∧
      ∀ keys, q.rootKeys write = .ok keys → t ∈ keys := by
  have hoisted : r.hoistedText write path k =
      .ok (k.written (names.foldr nested (r.orderColumn column.toList))) := by
    rw [hoistedText, SortKey.columnText_of_asText? text, ok_bind, leads.wrapped_eq]
    rfl
  refine ⟨_, hoisted, ?_, fun keys made => ?_⟩
  · rw [orderText, SortKey.columnText_of_asText? rfl, ok_bind, leads.orderColumn_eq]
    rfl
  · obtain ⟨t, member, own⟩ :=
      hoistedText_mem_rootKeys (leads.mem_tail embedded) stored top made
    rw [hoisted] at own
    cases own
    exact member

/-- Addresses by the names of their cities, where the rows of another query are to be ordered. -/
def Query.addressesByCity : Query :=
  { ofResource "addresses" .one with
    selectors := [.column (.text "street"), .embedded (ofResource "cities" .one) (.text "city")]
    ordering := [⟨.text "zip", none, none, .null⟩,
      ⟨.text "city.name", some .desc, some .last, .bool true⟩] }

/-- People with their homes. -/
def Query.peopleWithHomes : Query :=
  { ofResource "people" .one with selectors := [.embedded addressesByCity (.text "home")] }

/-- Films with their actors, and with the home of their director. -/
def Query.filmsWithHomes : Query :=
  { ofResource "films" .many with
    selectors := [.wildcard, .embedded (ofResource "people" .many) (.text "cast"),
      .embedded peopleWithHomes (.text "director")] }

theorem Query.hoisted_as_path_filmsWithHomes :
    filmsWithHomes.Leads [.text "director", .text "home"] ["director", "home"] addressesByCity ∧
    ∃ t, addressesByCity.hoistedText (fun _ => .ok "") [.text "director", .text "home"]
        ⟨.text "city.name", some .desc, some .last, .bool true⟩ = .ok t ∧
      filmsWithHomes.orderText
        ⟨.text (dottedColumn ["director", "home"] "city.name"), some .desc, some .last, .null⟩ =
          .ok t ∧
      ∀ keys, filmsWithHomes.rootKeys (fun _ => .ok "") = .ok keys → t ∈ keys := by
  have home : peopleWithHomes.embeddings = [] ++ [⟨addressesByCity, .text "home"⟩] := rfl
  have director : filmsWithHomes.embeddings =
      [⟨ofResource "people" .many, .text "cast"⟩] ++ [⟨peopleWithHomes, .text "director"⟩] := rfl
  have leads : filmsWithHomes.Leads [.text "director", .text "home"] ["director", "home"]
      addressesByCity :=
    .further director (by decide) rfl (by decide)
      (.further home (by decide) rfl (by decide) (.here addressesByCity))
  exact ⟨leads, hoisted_as_path (fun _ => .ok "") leads (by decide)
    (List.mem_cons_of_mem _ List.mem_cons_self) rfl rfl .null⟩

end RestQuery
