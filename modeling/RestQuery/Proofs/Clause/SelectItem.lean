import RestQuery.Proofs.Sequencing
import RestQuery.Proofs.Text.Form
import RestQuery.Selector
import RestQuery.Query.Embedding

/-!
# Reading a select clause

A select clause is a list of items with commas between them, and an embedding is an item with a list
of items between parentheses.  `SelectItem.readAll?` reads such a text: it is cut at the commas
outside all parentheses (`SelectItem.topPieces`), and each piece is read as a column or as an
embedding, whose inside is read in the same way.  A colon stands behind a name, and two colons
before a cast.

An item whose texts are proper names goes through the cutting in one piece, whatever stands behind
it (`SelectItem.Proper.passes`), so the items of a text are read back: `SelectItem.readAll?_joined`.
-/

namespace RestQuery

/-- An item of a select clause. -/
inductive SelectItem where
  | wildcard
  | column (name : String)
  | path (path : String)
  | modified (column : String) (name cast : Option String)
  | embedding (name : Option String) (resource : String) (inner : Bool) (items : List SelectItem)

namespace SelectItem

/-! ## Writing -/

/-- An item as it is written. -/
def text : SelectItem → String
  | wildcard => "*"
  | column name => name
  | path p => p
  | modified base name cast =>
    name.elim "" (· ++ ":") ++ base ++ cast.elim "" ("::" ++ ·)
  | embedding name resource inner items =>
    nested (name.elim "" (· ++ ":") ++ resource ++ (if inner then "!inner" else ""))
      (",".intercalate (items.map text))

/-- Items with commas between them. -/
def joined (items : List SelectItem) : String := ",".intercalate (items.map text)

/-! ## Reading -/

/-- How many parentheses are open after a character. -/
def depthAfter (depth : Nat) (c : Char) : Nat :=
  if c = '(' then depth + 1 else if c = ')' then depth - 1 else depth

/-- The pieces between the commas that stand outside all parentheses, of which some are open. -/
def topPieces : Nat → List Char → List (List Char)
  | _, [] => [[]]
  | depth, c :: cs =>
    if c = ',' ∧ depth = 0 then [] :: topPieces 0 cs
    else (topPieces (depthAfter depth c) cs).modifyHead (c :: ·)

/-- Reads a text without a modifier. -/
def ofPlain (s : String) : SelectItem :=
  if s = "*" then wildcard
  else if Text.contains s Selector.jsonArrow then path s
  else column s

/-- Reads an item without parentheses: `name:column::cast`, with the name and the cast left out or
not. -/
def ofColumn? (cs : List Char) : Option SelectItem :=
  match Text.pieces ':' cs with
  | [base] => some (ofPlain (.ofList base))
  | [name, base] => some (modified (.ofList base) (some (.ofList name)) none)
  | [base, [], cast] => some (modified (.ofList base) none (some (.ofList cast)))
  | [name, base, [], cast] =>
    some (modified (.ofList base) (some (.ofList name)) (some (.ofList cast)))
  | _ => none

/-- Reads a resource, and whether it is marked as inner. -/
def ofResource? (cs : List Char) : Option (String × Bool) :=
  match Text.pieces '!' cs with
  | [resource] => some (.ofList resource, false)
  | [resource, mark] => if mark = "inner".toList then some (.ofList resource, true) else none
  | _ => none

/-- Reads what stands before a parenthesis: `name:resource!inner`, with the name and the mark left
out or not. -/
def ofHead? (cs : List Char) (items : List SelectItem) : Option SelectItem :=
  match Text.pieces ':' cs with
  | [own] => do
    let (resource, inner) ← ofResource? own
    return embedding none resource inner items
  | [name, own] => do
    let (resource, inner) ← ofResource? own
    return embedding (some (.ofList name)) resource inner items
  | _ => none

/-- Reads one item; `inside` reads what stands between its parentheses. -/
def read? (inside : List Char → Option (List SelectItem)) (cs : List Char) : Option SelectItem :=
  match Text.splitFirst '(' cs with
  | (own, none) => ofColumn? own
  | (head, some rest) =>
    if rest.getLast? = some ')' then do ofHead? head (← inside rest.dropLast) else none

/-- Reads items with fewer than `depth` levels of parentheses. -/
def readWithin? : Nat → List Char → Option (List SelectItem)
  | 0, _ => none
  | depth + 1, cs =>
    if cs = [] then some [] else (topPieces 0 cs).mapM (read? (readWithin? depth))

/-- Reads the items of a select clause.  There are no more levels than opening parentheses. -/
def readAll? (s : String) : Option (List SelectItem) :=
  readWithin? (s.toList.count '(' + 1) s.toList

example : readAll? "a:b::int,d->e,c:f!inner(*,g())" =
    some [.modified "b" (some "a") (some "int"), .path "d->e",
      .embedding (some "c") "f" true [.wildcard, .embedding none "g" false []]] := by rfl

/-! ## Proper items -/

/-- The characters of the grammar. -/
def marks : List Char := [',', '(', ')', ':', '!']

/-- Whether a text is a name: it is not empty and has no character of the grammar. -/
def isName (s : String) : Bool := !s.isEmpty && s.toList.all fun c => !marks.contains c

/-- An item whose texts are names.  A modified column has a name or a cast. -/
inductive Proper : SelectItem → Prop
  | plain {s : String} : isName s → Proper (ofPlain s)
  | modified {base : String} {name cast : Option String} :
    isName base → (∀ n ∈ name, isName n) → (∀ c ∈ cast, isName c) →
    (name.isSome ∨ cast.isSome) → Proper (.modified base name cast)
  | embedding {name : Option String} {resource : String} (inner : Bool)
    {items : List SelectItem} :
    isName resource → (∀ n ∈ name, isName n) → (∀ i ∈ items, i.Proper) →
    Proper (.embedding name resource inner items)

theorem not_mem_of_isName {s : String} (name : isName s) {c : Char} (mark : c ∈ marks) :
    c ∉ s.toList := by
  intro member
  have free := List.all_eq_true.1 (Bool.and_eq_true_iff.1 name).2 c member
  rw [List.contains_iff_mem.2 mark] at free
  cases free

theorem toList_ne_nil_of_isName {s : String} (name : isName s) : s.toList ≠ [] := by
  intro none
  have filled := (Bool.and_eq_true_iff.1 name).1
  rw [String.toList_eq_nil_iff.1 none] at filled
  cases filled

theorem text_ofPlain (s : String) : (ofPlain s).text = s := by
  rw [ofPlain]
  split
  next all => rw [text, all]
  next => split <;> rw [text]

/-! ## Cutting at the commas -/

section Cutting

variable {depth : Nat} {v w : List Char}

/-- The text goes through the cutting in one piece, whatever stands behind it, and all parentheses
that it opens are closed at its end. -/
def Passes (depth : Nat) (w : List Char) : Prop :=
  ∀ rest, topPieces depth (w ++ rest) = (topPieces depth rest).modifyHead (w ++ ·)

theorem modifyHead_append (ps : List (List Char)) :
    (ps.modifyHead (w ++ ·)).modifyHead (v ++ ·) = ps.modifyHead (v ++ w ++ ·) := by
  cases ps with
  | nil => rfl
  | cons p ps => simp only [List.modifyHead_cons, List.append_assoc]

theorem Passes.nil : Passes depth [] := by
  intro rest
  cases pieces : topPieces depth rest <;> simp [pieces]

theorem Passes.append (first : Passes depth v) (second : Passes depth w) :
    Passes depth (v ++ w) := by
  intro rest
  rw [List.append_assoc, first, second, modifyHead_append]

/-- A character other than a comma outside all parentheses stands in the first piece. -/
theorem topPieces_cons {c : Char} (inside : c = ',' → depth ≠ 0) (rest : List Char) :
    topPieces depth (c :: rest) = (topPieces (depthAfter depth c) rest).modifyHead (c :: ·) := by
  rw [topPieces, if_neg fun top => inside top.1 top.2]

theorem Passes.cons {c : Char} (inside : c = ',' → depth ≠ 0) (level : depthAfter depth c = depth)
    (passes : Passes depth w) : Passes depth (c :: w) := by
  intro rest
  rw [List.cons_append, topPieces_cons inside, level, passes]
  exact modifyHead_append (v := [c]) _

/-- A character that neither separates items nor encloses them. -/
theorem Passes.cons_plain {c : Char} (plain : c ∉ ([',', '(', ')'] : List Char))
    (passes : Passes depth w) : Passes depth (c :: w) := by
  simp only [List.mem_cons, List.not_mem_nil, or_false, not_or] at plain
  refine .cons (fun comma => absurd comma plain.1) ?_ passes
  rw [depthAfter, if_neg plain.2.1, if_neg plain.2.2]

theorem Passes.of_free (free : ∀ c ∈ w, c ∉ ([',', '(', ')'] : List Char)) : Passes depth w := by
  induction w with
  | nil => exact .nil
  | cons c cs ih =>
    obtain ⟨first, free⟩ := List.forall_mem_cons.1 free
    exact .cons_plain first (ih free)

/-- Between parentheses, a text has to pass one level further down. -/
theorem Passes.enclosed (passes : Passes (depth + 1) w) :
    Passes depth ('(' :: (w ++ [')'])) := by
  intro rest
  have opening : depthAfter depth '(' = depth + 1 := rfl
  have closing : depthAfter (depth + 1) ')' = depth := rfl
  rw [List.cons_append, topPieces_cons (fun comma => absurd comma (by decide)), opening,
    List.append_assoc, passes, List.singleton_append,
    topPieces_cons (fun comma => absurd comma (by decide)), closing]
  rw [← List.singleton_append]
  exact (congrArg _ (modifyHead_append (w := [')']) _)).trans (modifyHead_append (v := ['(']) _)

/-- Inside parentheses, a list passes if its items do. -/
theorem Passes.intercalate {ws : List (List Char)} (each : ∀ w ∈ ws, Passes (depth + 1) w) :
    Passes (depth + 1) ([','].intercalate ws) := by
  induction ws with
  | nil => exact .nil
  | cons w ws ih =>
    obtain ⟨first, each⟩ := List.forall_mem_cons.1 each
    cases ws with
    | nil => rwa [List.intercalate_singleton]
    | cons w' ws =>
      rw [List.intercalate_cons_cons, List.append_assoc, List.singleton_append]
      exact first.append (.cons (fun _ => depth.succ_ne_zero) rfl (ih each))

/-- Outside all parentheses, the pieces of a list are its items. -/
theorem topPieces_intercalate {ws : List (List Char)} (filled : ws ≠ [])
    (each : ∀ w ∈ ws, Passes 0 w) : topPieces 0 ([','].intercalate ws) = ws := by
  induction ws with
  | nil => exact absurd rfl filled
  | cons w ws ih =>
    obtain ⟨first, each⟩ := List.forall_mem_cons.1 each
    cases ws with
    | nil =>
      have alone := first []
      rw [List.append_nil, topPieces, List.modifyHead_cons, List.append_nil] at alone
      rwa [List.intercalate_singleton]
    | cons w' ws =>
      rw [List.intercalate_cons_cons, List.append_assoc, List.singleton_append, first, topPieces,
        if_pos ⟨rfl, rfl⟩, ih (by simp) each, List.modifyHead_cons, List.append_nil]

end Cutting

/-! ## An item is one piece -/

section Pieces

variable {name : Option String} {w : List Char} {depth : Nat}

theorem passes_of_isName {s : String} (named : isName s) : Passes depth s.toList := by
  have among : ([',', '(', ')'] : List Char) ⊆ marks := by decide
  exact .of_free fun c member mark => not_mem_of_isName named (among mark) member

theorem Passes.colon (passes : Passes depth w) : Passes depth (':' :: w) :=
  passes.cons_plain (by decide)

/-- Behind a name with a colon. -/
theorem Passes.named (passes : Passes depth w) (named : ∀ n ∈ name, isName n) :
    Passes depth ((name.elim "" (· ++ ":")).toList ++ w) := by
  cases name with
  | none => exact passes
  | some n =>
    rw [Option.elim_some, String.toList_append, List.append_assoc]
    exact (passes_of_isName (named n rfl)).append passes.colon

end Pieces

theorem toList_joined (items : List SelectItem) :
    (joined items).toList = [','].intercalate (items.map fun i => i.text.toList) := by
  rw [joined, String.toList_intercalate, List.map_map]
  rfl

theorem toList_modified (base : String) (name cast : Option String) :
    (modified base name cast).text.toList = (name.elim "" (· ++ ":")).toList ++
      (base.toList ++ cast.elim [] fun c => ':' :: ':' :: c.toList) := by
  rw [text, String.append_assoc, String.toList_append, String.toList_append]
  cases cast with
  | none => rfl
  | some c =>
    rw [Option.elim_some, String.toList_append]
    rfl

theorem toList_embedding (name : Option String) (resource : String) (inner : Bool)
    (items : List SelectItem) : (embedding name resource inner items).text.toList =
      (name.elim "" (· ++ ":")).toList ++
        (resource.toList ++ (if inner then "!inner" else "").toList) ++
          '(' :: ((joined items).toList ++ [')']) := by
  rw [text, nested, ← joined]
  simp only [String.toList_append, List.append_assoc]
  rfl

/-- An item goes through the cutting in one piece. -/
theorem Proper.passes {i : SelectItem} (proper : i.Proper) (depth : Nat) :
    Passes depth i.text.toList := by
  induction proper generalizing depth with
  | plain name =>
    rw [text_ofPlain]
    exact passes_of_isName name
  | @modified base name cast based named casted modifies =>
    rw [toList_modified]
    refine .named ((passes_of_isName based).append ?_) named
    cases cast with
    | none => exact .nil
    | some c => exact (passes_of_isName (casted c rfl)).colon.colon
  | @embedding name resource inner items resourced named proper ih =>
    have mark : Passes depth (if inner then "!inner" else "").toList := by
      cases inner with
      | false => exact .nil
      | true =>
        have word : Passes depth "inner".toList := passes_of_isName (by decide)
        exact word.cons_plain (by decide)
    have inside : Passes (depth + 1) (joined items).toList := by
      rw [toList_joined]
      refine .intercalate fun w member => ?_
      obtain ⟨i, stored, rfl⟩ := List.mem_map.1 member
      exact ih i stored (depth + 1)
    rw [toList_embedding]
    exact (Passes.named ((passes_of_isName resourced).append mark) named).append inside.enclosed

/-! ## Reading one item -/

/-- A name with a colon is the first of the pieces between the colons. -/
theorem pieces_named {name : Option String} (named : ∀ n ∈ name, isName n) (rest : List Char) :
    Text.pieces ':' ((name.elim "" (· ++ ":")).toList ++ rest) =
      name.toList.map String.toList ++ Text.pieces ':' rest := by
  cases name with
  | none => rfl
  | some n =>
    rw [Option.elim_some, String.toList_append, List.append_assoc]
    exact Text.pieces_append (not_mem_of_isName (named n rfl) (by decide)) rest

theorem ofColumn?_plain {s : String} (named : isName s) :
    ofColumn? s.toList = some (ofPlain s) := by
  rw [ofColumn?, Text.pieces_of_not_mem (not_mem_of_isName named (by decide))]
  simp only [String.ofList_toList]

theorem ofColumn?_modified {base : String} {name cast : Option String} (based : isName base)
    (named : ∀ n ∈ name, isName n) (casted : ∀ c ∈ cast, isName c)
    (modifies : name.isSome ∨ cast.isSome) :
    ofColumn? (modified base name cast).text.toList = some (modified base name cast) := by
  have free {s : String} (named : isName s) : ':' ∉ s.toList := not_mem_of_isName named (by decide)
  have behind : Text.pieces ':' (base.toList ++ cast.elim [] fun c => ':' :: ':' :: c.toList) =
      base.toList :: cast.elim [] fun c => [[], c.toList] := by
    cases cast with
    | none =>
      rw [Option.elim_none, List.append_nil, Text.pieces_of_not_mem (free based), Option.elim_none]
    | some c =>
      rw [Option.elim_some, Text.pieces_append (free based), Text.pieces, if_pos rfl,
        Text.pieces_of_not_mem (free (casted c rfl)), Option.elim_some]
  rw [ofColumn?, toList_modified, pieces_named named, behind]
  cases name <;> cases cast <;> simp_all

theorem ofResource?_marked {resource : String} (named : isName resource) (inner : Bool) :
    ofResource? (resource.toList ++ (if inner then "!inner" else "").toList) =
      some (resource, inner) := by
  have free : '!' ∉ resource.toList := not_mem_of_isName named (by decide)
  cases inner with
  | false =>
    have alone : resource.toList ++ (if false then "!inner" else "").toList = resource.toList :=
      List.append_nil _
    rw [alone, ofResource?, Text.pieces_of_not_mem free]
    simp only [String.ofList_toList]
  | true =>
    have pieces : Text.pieces '!' (resource.toList ++ (if true then "!inner" else "").toList) =
        [resource.toList, "inner".toList] := Text.pieces_append free _
    rw [ofResource?, pieces]
    simp only [if_true, String.ofList_toList]

theorem ofHead?_text {name : Option String} {resource : String} (named : ∀ n ∈ name, isName n)
    (resourced : isName resource) (inner : Bool) (items : List SelectItem) :
    ofHead? ((name.elim "" (· ++ ":")).toList ++
      (resource.toList ++ (if inner then "!inner" else "").toList)) items =
        some (embedding name resource inner items) := by
  have free : ':' ∉ resource.toList ++ (if inner then "!inner" else "").toList := by
    rw [List.mem_append, not_or]
    exact ⟨not_mem_of_isName resourced (by decide), by cases inner <;> decide⟩
  rw [ofHead?, pieces_named named, Text.pieces_of_not_mem free]
  cases name with
  | none => exact congrArg (· >>= _) (ofResource?_marked resourced inner)
  | some n =>
    simp only [Option.toList_some, List.map_cons, List.map_nil, List.cons_append, List.nil_append]
    rw [ofResource?_marked resourced]
    simp only [String.ofList_toList, Option.bind_eq_bind, Option.bind_some, Option.pure_def]

section Item

variable {inside : List Char → Option (List SelectItem)}

theorem read?_plain {s : String} (named : isName s) :
    read? inside (ofPlain s).text.toList = some (ofPlain s) := by
  rw [text_ofPlain, read?, Text.splitFirst_of_not_mem (not_mem_of_isName named (by decide))]
  exact ofColumn?_plain named

theorem read?_modified {base : String} {name cast : Option String} (based : isName base)
    (named : ∀ n ∈ name, isName n) (casted : ∀ c ∈ cast, isName c)
    (modifies : name.isSome ∨ cast.isSome) :
    read? inside (modified base name cast).text.toList = some (modified base name cast) := by
  have free {s : String} (named : isName s) : '(' ∉ s.toList := not_mem_of_isName named (by decide)
  have whole : '(' ∉ (modified base name cast).text.toList := by
    rw [toList_modified]
    cases name <;> cases cast <;> simp_all
  rw [read?, Text.splitFirst_of_not_mem whole]
  exact ofColumn?_modified based named casted modifies

/-- An embedding is read if its items are. -/
theorem read?_embedding {name : Option String} {resource : String} (named : ∀ n ∈ name, isName n)
    (resourced : isName resource) (inner : Bool) {items : List SelectItem}
    (below : inside (joined items).toList = some items) :
    read? inside (embedding name resource inner items).text.toList =
      some (embedding name resource inner items) := by
  have free : '(' ∉ (name.elim "" (· ++ ":")).toList ++
      (resource.toList ++ (if inner then "!inner" else "").toList) := by
    have closed {s : String} (named : isName s) : '(' ∉ s.toList :=
      not_mem_of_isName named (by decide)
    cases name <;> cases inner <;> simp_all
  rw [toList_embedding, read?, Text.splitFirst_append free]
  simp only [List.getLast?_concat, if_true, List.dropLast_concat, below]
  exact ofHead?_text named resourced inner items

end Item

/-! ## Reading a list -/

theorem count_le_intercalate {c : Char} {w : List Char} {ws : List (List Char)} (member : w ∈ ws) :
    w.count c ≤ ([','].intercalate ws).count c := by
  induction ws with
  | nil => cases member
  | cons w' ws ih =>
    cases ws with
    | nil =>
      exact Nat.le_of_eq (by rw [List.mem_singleton.1 member, List.intercalate_singleton])
    | cons w'' ws =>
      rw [List.intercalate_cons_cons, List.append_assoc, List.count_append, List.count_append]
      rcases List.mem_cons.1 member with rfl | later
      · exact Nat.le_add_right _ _
      · have := ih later
        omega

/-- An embedding opens a parenthesis more than its items. -/
theorem count_joined_lt (name : Option String) (resource : String) (inner : Bool)
    (items : List SelectItem) : (joined items).toList.count '(' <
      (embedding name resource inner items).text.toList.count '(' := by
  rw [toList_embedding]
  simp only [List.count_append, List.count_cons_self]
  omega

theorem Proper.text_ne_nil {i : SelectItem} (proper : i.Proper) : i.text.toList ≠ [] := by
  cases proper with
  | plain named =>
    rw [text_ofPlain]
    exact toList_ne_nil_of_isName named
  | modified based _ _ _ =>
    rw [toList_modified]
    simp [toList_ne_nil_of_isName based]
  | embedding inner _ _ _ =>
    rw [toList_embedding]
    simp

theorem joined_ne_nil {items : List SelectItem} (filled : items ≠ [])
    (proper : ∀ i ∈ items, i.Proper) : (joined items).toList ≠ [] := by
  rw [toList_joined]
  cases items with
  | nil => exact absurd rfl filled
  | cons i items =>
    have first := (proper i List.mem_cons_self).text_ne_nil
    cases items with
    | nil => rwa [List.map_singleton, List.intercalate_singleton]
    | cons i' items =>
      rw [List.map_cons, List.map_cons, List.intercalate_cons_cons]
      simp [first]

/-- Proper items are read back, by a reader that goes down further than parentheses are opened. -/
theorem readWithin?_joined {depth : Nat} {items : List SelectItem} (proper : ∀ i ∈ items, i.Proper)
    (deep : (joined items).toList.count '(' < depth) :
    readWithin? depth (joined items).toList = some items := by
  induction depth generalizing items with
  | zero => cases deep
  | succ depth ih =>
    have each : ∀ i ∈ items, read? (readWithin? depth) i.text.toList = some i := by
      intro i member
      have within : i.text.toList.count '(' ≤ (joined items).toList.count '(' := by
        rw [toList_joined]
        exact count_le_intercalate (List.mem_map.2 ⟨i, member, rfl⟩)
      cases proper i member with
      | plain named => exact read?_plain named
      | modified based named casted modifies => exact read?_modified based named casted modifies
      | @embedding name resource inner items' resourced named below =>
        have inside := count_joined_lt name resource inner items'
        exact read?_embedding named resourced inner (ih below (by omega))
    cases items with
    | nil => rfl
    | cons i items =>
      have filled := joined_ne_nil (List.cons_ne_nil i items) proper
      rw [readWithin?, if_neg filled, toList_joined, topPieces_intercalate (by simp), List.mapM_map]
      · exact mapM_eq_some each
      · intro w member
        obtain ⟨i, stored, rfl⟩ := List.mem_map.1 member
        exact (proper i stored).passes 0

/-- A select clause of proper items is read as these items. -/
theorem readAll?_joined {items : List SelectItem} (proper : ∀ i ∈ items, i.Proper) :
    readAll? (joined items) = some items :=
  readWithin?_joined proper (Nat.lt_succ_self _)

end SelectItem

end RestQuery
