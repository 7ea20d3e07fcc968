import RestQuery.Proofs.Json.Spelling
import RestQuery.Proofs.Sorting
import RestQuery.Value.Plain

/-!
# The tree of a value

`Value.tree` is the tree that stands for a value in sorted JSON.  It tells texts from numbers, but
not a text from a token or a decimal number, and not a list from a tuple.  `Value.spells_tree` says
that the writer spells this tree, for all values that hold no floating-point number and nothing that
JSON writes by the fields of a record.  Such a mapping has under every name what it was made with
(`Value.member?_tree_object`), as sorting by names keeps the order of equal ones.
-/

namespace RestQuery

mutual

/-- Whether a value holds nothing but texts, truth values, whole and decimal numbers, in lists and
in mappings with texts as keys. -/
def Value.isExact : Value → Bool
  | .null | .bool _ | .int _ | .decimal _ | .text _ | .token _ => true
  | .list items | .tuple items => Value.allExact items
  | .dict entries => Value.entriesExact entries
  | _ => false

def Value.allExact : List Value → Bool
  | [] => true
  | v :: vs => v.isExact && Value.allExact vs

def Value.entriesExact : List (Value × Value) → Bool
  | [] => true
  | (.text _, v) :: es => v.isExact && Value.entriesExact es
  | _ :: _ => false

end

mutual

/-- The tree of a value in JSON with sorted keys, `null` for what is not exact. -/
def Value.tree : Value → Json.Tree
  | .null => .null
  | .bool b => .bool b
  | .int i => .number ⟨decide (i < 0), i.natAbs, 0, true⟩
  | .decimal d => .text d.text
  | .text s => .text s
  | .token t => .text t.word
  | .list items | .tuple items => .array (Value.trees items)
  | .dict entries =>
    .object ((Value.memberTrees entries).mergeSort fun m n => Text.atMost m.1 n.1)
  | _ => .null

def Value.trees : List Value → List Json.Tree
  | [] => []
  | v :: vs => v.tree :: Value.trees vs

/-- The members of an object in the order of the entries. -/
def Value.memberTrees : List (Value × Value) → List (String × Json.Tree)
  | [] => []
  | (.text key, v) :: es => (key, v.tree) :: Value.memberTrees es
  | _ :: es => Value.memberTrees es

end

theorem Value.trees_eq (vs : List Value) : trees vs = vs.map tree := by
  induction vs with
  | nil => rfl
  | cons v vs ih => rw [trees, ih, List.map_cons]

theorem Value.allExact_eq (vs : List Value) : allExact vs = vs.all isExact := by
  induction vs with
  | nil => rfl
  | cons v vs ih => rw [allExact, ih, List.all_cons]

/-! ## The writer spells the tree -/

section Written

variable {write : QueryText}

mutual

/-- The JSON text of an exact value spells its tree. -/
theorem Value.spells_tree {v : Value} {depth : UInt8} {s : String} (exact : v.isExact)
    (written : Json.writeAt? (Json.Fallback.plain write) true v depth = some s) :
    Json.Spells s.toList v.tree := by
  cases v with
  | null =>
    cases written
    exact Json.spells_null
  | bool b =>
    cases written
    exact Json.spells_bool b
  | int i =>
    rw [Json.writeAt?] at written
    split at written
    · cases written
      exact Json.spells_int i
    · cases written
  | decimal d =>
    cases written
    exact Json.spells_quoted d.text
  | text t =>
    cases written
    exact Json.spells_quoted t
  | token t =>
    cases written
    exact Json.spells_quoted t.word
  | list items =>
    rw [Json.writeAt?] at written
    split at written
    · cases written
    · obtain ⟨texts, made, ⟨⟩⟩ := Option.bind_eq_some_iff.1 written
      exact Json.spells_array (Value.spells_trees exact made)
  | tuple items =>
    rw [Json.writeAt?] at written
    obtain ⟨texts, made, ⟨⟩⟩ := Option.bind_eq_some_iff.1 written
    exact Json.spells_array (Value.spells_trees exact made)
  | dict entries =>
    rw [Json.writeAt?] at written
    split at written
    · cases written
    · obtain ⟨members, made, ⟨⟩⟩ := Option.bind_eq_some_iff.1 written
      refine Json.spells_object (forall₂_mergeSort ?_ (Value.spells_memberTrees exact made))
      rintro m t m' t' ⟨same, _⟩ ⟨same', _⟩
      rw [same, same']
  | _ => cases exact

theorem Value.spells_trees {vs : List Value} {depth : UInt8} {texts : List String}
    (exact : Value.allExact vs)
    (written : Json.writeItems? (Json.Fallback.plain write) true vs depth = some texts) :
    List.Forall₂ (fun item t => Json.Spells item.toList t) texts (Value.trees vs) := by
  cases vs with
  | nil =>
    cases written
    exact .nil
  | cons v vs =>
    obtain ⟨first, others⟩ := Bool.and_eq_true_iff.1 exact
    rw [Json.writeItems?] at written
    obtain ⟨item, made, written⟩ := Option.bind_eq_some_iff.1 written
    obtain ⟨items, rest, ⟨⟩⟩ := Option.bind_eq_some_iff.1 written
    exact .cons (Value.spells_tree first made) (Value.spells_trees others rest)

theorem Value.spells_memberTrees {es : List (Value × Value)} {depth : UInt8}
    {members : List (String × String)} (exact : Value.entriesExact es)
    (written : Json.writeEntries? (Json.Fallback.plain write) true es depth = some members) :
    List.Forall₂ (fun m t => m.1 = t.1 ∧ Json.Spells m.2.toList t.2) members
      (Value.memberTrees es) := by
  match es with
  | [] =>
    cases written
    exact .nil
  | (.text key, v) :: es =>
    obtain ⟨first, others⟩ := Bool.and_eq_true_iff.1 exact
    rw [Json.writeEntries?] at written
    obtain ⟨value, made, written⟩ := Option.bind_eq_some_iff.1 written
    obtain ⟨behind, rest, ⟨⟩⟩ := Option.bind_eq_some_iff.1 written
    exact .cons ⟨rfl, Value.spells_tree first made⟩ (Value.spells_memberTrees others rest)

end

end Written

/-! ## Members of mappings -/

/-- The tree under a name of an object. -/
def Json.Tree.member? (t : Json.Tree) (name : String) : Option Json.Tree :=
  match t with
  | .object members => members.lookup name
  | _ => none

theorem Value.memberTrees_object (fields : List (String × Value)) :
    memberTrees (fields.map fun (name, value) => (.text name, value)) =
      fields.map fun field => (field.1, field.2.tree) := by
  induction fields with
  | nil => rfl
  | cons field fields ih => rw [List.map_cons, memberTrees, ih, List.map_cons]

theorem Value.isExact_object (fields : List (String × Value)) :
    (object fields).isExact = fields.all fun field => field.2.isExact := by
  rw [object, isExact]
  induction fields with
  | nil => rfl
  | cons field fields ih => rw [List.map_cons, entriesExact, ih, List.all_cons]

/-- A mapping has under a name the tree of the first value that it was made with under it. -/
theorem Value.member?_tree_object (fields : List (String × Value)) (name : String) :
    (object fields).tree.member? name = (fields.lookup name).map tree := by
  rw [object, tree, Json.Tree.member?]
  simp only [memberTrees_object, lookup_mergeSort]
  induction fields with
  | nil => rfl
  | cons field fields ih =>
    obtain ⟨key, value⟩ := field
    cases same : name == key with
    | true => simp [List.lookup_cons, same]
    | false => simpa [List.lookup_cons, same] using ih

/-- Mappings of one tree show the same under every name. -/
theorem Value.lookup_of_tree {fields fields' : List (String × Value)}
    (same : (object fields).tree = (object fields').tree) (name : String) :
    (fields.lookup name).map tree = (fields'.lookup name).map tree := by
  rw [← member?_tree_object, ← member?_tree_object, same]

end RestQuery
