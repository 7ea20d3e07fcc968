import Mathlib.Data.List.Basic
import RestQuery.Settings

/-!
# Entering and leaving a block of overrides

A constant is in step if it has the value of the innermost block that gives one, or the standing
value where none does (`Settings.InStep`).  `Settings.Entered` and `Settings.Left` say all that
becomes of the settings when a block is entered or left, and `Settings.Coherent` what holds of all
settings that are reached in this way.  Entering a block keeps the constants in step, and so does
leaving one unless it uncovers a block that gives nothing to a setting with a standing value
(`Settings.Left.inStep_iff`): nothing as a value cannot be told from no value, so the constant takes
its standing value then.
-/

namespace RestQuery

/-- Whether a value is none at all. -/
def Value.isNothing : Value → Bool
  | .null => true
  | _ => false

namespace Settings

/-- The value that some blocks give to a setting, the innermost one of those that name it. -/
def given? (blocks : List Definitions) (k : Setting) : Option Value :=
  blocks.findSome? fun block => block.value? k.name

/-- The value of a setting where no block gives one. -/
def standing (s : Settings) (k : Setting) : Value := (s.base.value? k.name).getD k.standard

/-- Every constant has the value of the innermost block that gives one, or the standing value. -/
def InStep (s : Settings) : Prop := ∀ k, s.constant k = (given? s.blocks k).getD (s.standing k)

/-- Whether the innermost block stands for a setting before one that gives nothing to it, although
it has a standing value. -/
def coversNothing (s : Settings) : Bool :=
  match s.blocks with
  | [] => false
  | block :: rest => Setting.all.any fun k => (block.value? k.name).isSome &&
    (given? rest k).any Value.isNothing && !(s.standing k).isNothing

end Settings

/-! ## Names and values -/

theorem Value.isNothing_iff {v : Value} : v.isNothing = true ↔ v = .null := by
  cases v <;> simp [isNothing]

namespace Setting

theorem mem_all (k : Setting) : k ∈ all := by
  cases k <;> decide

theorem name_inj {k l : Setting} : k.name = l.name ↔ k = l := by
  refine ⟨fun same => ?_, fun same => same ▸ rfl⟩
  cases k <;> cases l <;> first | rfl | exact absurd same (by decide)

/-- A name belongs to one setting, or to none. -/
theorem ofName?_cases (name : String) :
    (∃ k : Setting, k.name = name ∧ ofName? name = some k) ∨
      (ofName? name = none ∧ ∀ k : Setting, k.name ≠ name) := by
  cases found : ofName? name with
  | some k => exact .inl ⟨k, by simpa using List.find?_some found, rfl⟩
  | none =>
    refine .inr ⟨rfl, fun k named => ?_⟩
    exact absurd named (by simpa using List.find?_eq_none.1 found k k.mem_all)

theorem ofName?_name (k : Setting) : ofName? k.name = some k := by
  cases k <;> decide

end Setting

namespace Definitions

theorem value?_cons (entry : String × Value) (d : Definitions) (name : String) :
    value? (entry :: d) name = if name = entry.1 then some entry.2 else d.value? name := by
  rw [value?, value?, List.find?_cons]
  by_cases named : name = entry.1
  · simp [named]
  · simp [named, Ne.symm named]

theorem value?_eq_none_iff {d : Definitions} {name : String} :
    d.value? name = none ↔ name ∉ d.map (·.1) := by
  induction d with
  | nil => simp [value?]
  | cons entry d ih =>
    rw [value?_cons, List.map_cons, List.mem_cons, not_or, ← ih]
    split <;> simp_all

end Definitions

namespace Settings

/-! ## One entry of a block -/

theorem constant_assign (s : Settings) (name : String) (v : Value) (k : Setting) :
    (s.assign name v).constant k = if k.name = name then v else s.constant k := by
  rw [assign]
  rcases Setting.ofName?_cases name with ⟨l, rfl, known⟩ | ⟨unknown, nobody⟩
  · simp only [known, Setting.name_inj]
  · simp only [unknown, nobody k, if_false]

theorem remembered_remember (s : Settings) (name : String) (k : Setting) :
    (s.remember name).remembered k =
      if k.name = name then some ((s.remembered k).getD (s.constant k)) else s.remembered k := by
  rw [remember]
  rcases Setting.ofName?_cases name with ⟨l, rfl, known⟩ | ⟨unknown, nobody⟩
  · simp only [known, Setting.name_inj]
    split
    next same => rw [same]
    next => rfl
  · simp only [unknown, nobody k, if_false]

/-- Setting a constant leaves all else as it is. -/
theorem assign_eq (s : Settings) (name : String) (v : Value) :
    s.assign name v = { s with constant := (s.assign name v).constant } := by
  rw [assign]
  cases Setting.ofName? name <;> rfl

/-- Remembering a value leaves all else as it is. -/
theorem remember_eq (s : Settings) (name : String) :
    s.remember name = { s with remembered := (s.remember name).remembered } := by
  rw [remember]
  cases Setting.ofName? name <;> rfl

theorem remembered_assign (s : Settings) (name : String) (v : Value) :
    (s.assign name v).remembered = s.remembered := by
  rw [assign_eq]

theorem constant_remember (s : Settings) (name : String) :
    (s.remember name).constant = s.constant := by
  rw [remember_eq]

/-! ## Entering a block -/

/-- What one entry of a block does where the block is entered. -/
def override (s : Settings) (entry : String × Value) : Settings :=
  (s.remember entry.1).assign entry.1 entry.2

theorem constant_override (s : Settings) (entry : String × Value) (k : Setting) :
    (s.override entry).constant k = if k.name = entry.1 then entry.2 else s.constant k := by
  rw [override, constant_assign, constant_remember]

theorem remembered_override (s : Settings) (entry : String × Value) (k : Setting) :
    (s.override entry).remembered k =
      if k.name = entry.1 then some ((s.remembered k).getD (s.constant k))
      else s.remembered k := by
  rw [override, remembered_assign, remembered_remember]

/-- Overriding changes constants and what is remembered of them, and nothing else. -/
theorem foldl_override (s : Settings) (block : Definitions) :
    (block.foldl override s).blocks = s.blocks ∧ (block.foldl override s).base = s.base := by
  induction block generalizing s with
  | nil => exact ⟨rfl, rfl⟩
  | cons entry block ih =>
    rw [List.foldl_cons]
    have same : (s.override entry).blocks = s.blocks ∧ (s.override entry).base = s.base := by
      rw [override, assign_eq, remember_eq]
      exact ⟨rfl, rfl⟩
    exact ⟨(ih _).1.trans same.1, (ih _).2.trans same.2⟩

theorem constant_foldl_override (s : Settings) {block : Definitions}
    (distinct : (block.map (·.1)).Nodup) (k : Setting) :
    (block.foldl override s).constant k = (block.value? k.name).getD (s.constant k) := by
  induction block generalizing s with
  | nil => rfl
  | cons entry block ih =>
    rw [List.map_cons, List.nodup_cons] at distinct
    rw [List.foldl_cons, ih _ distinct.2, constant_override, Definitions.value?_cons]
    split
    next named =>
      rw [named, Definitions.value?_eq_none_iff.2 distinct.1]
      rfl
    next => rfl

theorem remembered_foldl_override (s : Settings) {block : Definitions}
    (distinct : (block.map (·.1)).Nodup) (k : Setting) :
    (block.foldl override s).remembered k =
      if (block.value? k.name).isSome then some ((s.remembered k).getD (s.constant k))
      else s.remembered k := by
  induction block generalizing s with
  | nil => rfl
  | cons entry block ih =>
    rw [List.map_cons, List.nodup_cons] at distinct
    rw [List.foldl_cons, ih _ distinct.2, remembered_override, constant_override,
      Definitions.value?_cons]
    by_cases named : k.name = entry.1
    · simp [named, Definitions.value?_eq_none_iff.2 distinct.1]
    · simp only [if_neg named]

/-- What has become of the settings when a block is entered. -/
structure Entered (s t : Settings) (block : Definitions) : Prop where
  blocks : t.blocks = block :: s.blocks
  base : t.base = s.base
  constant : ∀ k, t.constant k = (block.value? k.name).getD (s.constant k)
  remembered : ∀ k, t.remembered k =
    if (block.value? k.name).isSome then some ((s.remembered k).getD (s.constant k))
    else s.remembered k

theorem entered_enter (s : Settings) {block : Definitions} (distinct : (block.map (·.1)).Nodup) :
    s.Entered (s.enter block) block :=
  ⟨(foldl_override _ block).1, (foldl_override _ block).2,
    constant_foldl_override { s with blocks := block :: s.blocks } distinct,
    remembered_foldl_override { s with blocks := block :: s.blocks } distinct⟩

/-! ## Leaving a block -/

/-- What one entry of a block does where the block is left. -/
def restore (s : Settings) (entry : String × Value) : Settings :=
  s.assign entry.1 (s.restored entry.1)

/-- Restoring changes constants and nothing else, so all entries restore from the same state. -/
theorem foldl_restore (s : Settings) (block : Definitions) :
    block.foldl restore s = { s with constant := (block.foldl restore s).constant } ∧
      ∀ k, (block.foldl restore s).constant k =
        if (block.value? k.name).isSome then s.restored k.name else s.constant k := by
  induction block generalizing s with
  | nil => exact ⟨rfl, fun k => rfl⟩
  | cons entry block ih =>
    have same : s.restore entry = { s with constant := (s.restore entry).constant } := by
      rw [restore]
      exact assign_eq _ _ _
    have restored (name : String) : (s.restore entry).restored name = s.restored name := by
      rw [same]
      rfl
    obtain ⟨rest, constants⟩ := ih (s.restore entry)
    rw [List.foldl_cons]
    refine ⟨by rw [rest, same], fun k => ?_⟩
    rw [constants, restored, restore, constant_assign, Definitions.value?_cons]
    by_cases named : k.name = entry.1
    · simp [named]
    · simp only [if_neg named]

/-- What has become of the settings when a block is left. -/
structure Left (s t : Settings) (block : Definitions) : Prop where
  blocks : s.blocks = block :: t.blocks
  base : t.base = s.base
  remembered : t.remembered = s.remembered
  constant : ∀ k, t.constant k =
    if (block.value? k.name).isSome then t.restored k.name else s.constant k

/-- The innermost block can be left. -/
theorem left_of_blocks {s : Settings} {block : Definitions} {rest : List Definitions}
    (blocks : s.blocks = block :: rest) :
    ∃ t, s.leave? = some t ∧ t.blocks = rest ∧ s.Left t block := by
  obtain ⟨same, constants⟩ := foldl_restore { s with blocks := rest } block
  have left : s.leave? = some (block.foldl restore { s with blocks := rest }) := by
    rw [leave?, blocks]
    rfl
  refine ⟨_, left, by rw [same], by rw [same, blocks], by rw [same], by rw [same], fun k => ?_⟩
  rw [constants]
  congr 1
  rw [same]
  rfl

theorem left_of_leave? {s t : Settings} (left : s.leave? = some t) : ∃ block, s.Left t block := by
  cases blocks : s.blocks with
  | nil =>
    rw [leave?, blocks] at left
    cases left
  | cons block rest =>
    obtain ⟨t', left', _, described⟩ := left_of_blocks blocks
    cases left'.symm.trans left
    exact ⟨block, described⟩

/-! ## What holds of all settings that are reached -/

/-- What is remembered is the standing value, it is remembered of all settings that a block names,
and of a setting that no block names the constant is the standing value. -/
structure Coherent (s : Settings) : Prop where
  remembered : ∀ k v, s.remembered k = some v → v = s.standing k
  named : ∀ k, s.remembered k = none → given? s.blocks k = none
  standing : ∀ k, given? s.blocks k = none → s.constant k = s.standing k

theorem coherent_ofBase (base : Definitions) : (ofBase base).Coherent :=
  ⟨nofun, fun _ _ => rfl, fun _ _ => rfl⟩

theorem inStep_ofBase (base : Definitions) : (ofBase base).InStep := fun _ => rfl

theorem standing_congr {s t : Settings} (base : t.base = s.base) (k : Setting) :
    t.standing k = s.standing k := by
  rw [Settings.standing, Settings.standing, base]

theorem given?_cons (block : Definitions) (rest : List Definitions) (k : Setting) :
    given? (block :: rest) k = (block.value? k.name).or (given? rest k) := by
  rw [given?, given?, List.findSome?_cons]
  cases block.value? k.name <;> rfl

section Steps

variable {s t : Settings} {block : Definitions}

theorem Entered.coherent (entered : s.Entered t block) (coherent : s.Coherent) : t.Coherent := by
  have standing := standing_congr entered.base
  refine ⟨fun k v found => ?_, fun k forgotten => ?_, fun k unnamed => ?_⟩
  · rw [entered.remembered] at found
    rw [standing]
    cases old : s.remembered k with
    | some w =>
      -- What is remembered already stays.
      have kept : w = v := by simpa [old] using found
      exact kept ▸ coherent.remembered k w old
    | none =>
      have own : (block.value? k.name).isSome ∧ s.constant k = v := by simpa [old] using found
      exact own.2 ▸ coherent.standing k (coherent.named k old)
  · rw [entered.remembered] at forgotten
    rw [entered.blocks, given?_cons]
    cases value : block.value? k.name with
    | some v => simp [value] at forgotten
    | none => exact coherent.named k (by simpa [value] using forgotten)
  · rw [entered.blocks, given?_cons, Option.or_eq_none_iff] at unnamed
    rw [entered.constant, unnamed.1, standing]
    exact coherent.standing k unnamed.2

theorem Entered.inStep (entered : s.Entered t block) (inStep : s.InStep) : t.InStep := by
  intro k
  rw [entered.constant, entered.blocks, given?_cons, standing_congr entered.base, inStep k]
  cases block.value? k.name <;> rfl

/-- The value that a constant gets when a block is left that names it: nothing as a value counts as
no value. -/
theorem restored_eq {k : Setting} (remembered : s.remembered k = some (s.standing k)) :
    s.restored k.name =
      match given? s.blocks k with
      | none | some .null => s.standing k
      | some v => v := by
  have defined : s.defined? k.name = (given? s.blocks k).or (s.base.value? k.name) := by
    rw [defined?, given?]
    cases s.blocks.findSome? fun block => Definitions.value? block k.name <;> rfl
  rw [restored, defined, Setting.ofName?_name, Option.bind_some, remembered,
    Option.getD_some]
  cases given? s.blocks k with
  | some w => cases w <;> rfl
  | none =>
    rw [Option.none_or, Settings.standing]
    cases s.base.value? k.name with
    | none => rfl
    | some w => cases w <;> rfl

/-- The constant of a setting that the block names, after the block is left. -/
theorem Left.constant_of_named (left : s.Left t block) (coherent : s.Coherent) {k : Setting}
    (named : (block.value? k.name).isSome) : t.constant k =
      match given? t.blocks k with
      | none | some .null => t.standing k
      | some v => v := by
  have same := standing_congr left.base
  have given : given? s.blocks k ≠ none := by
    rw [left.blocks, given?_cons]
    exact fun none => by simp [(Option.or_eq_none_iff.1 none).1] at named
  obtain ⟨v, known⟩ := Option.ne_none_iff_exists'.1 fun forgotten =>
    given (coherent.named k forgotten)
  rw [left.constant, if_pos named]
  exact restored_eq (by rw [left.remembered, known, coherent.remembered k v known, same])

theorem Left.constant_of_unnamed (left : s.Left t block) {k : Setting}
    (unnamed : block.value? k.name = none) :
    t.constant k = s.constant k ∧ given? t.blocks k = given? s.blocks k := by
  rw [left.constant, left.blocks, given?_cons, unnamed, Option.none_or]
  exact ⟨rfl, rfl⟩

theorem Left.coherent (left : s.Left t block) (coherent : s.Coherent) : t.Coherent := by
  have same := standing_congr left.base
  refine ⟨fun k v found => ?_, fun k forgotten => ?_, fun k free => ?_⟩
  · rw [left.remembered] at found
    rw [same]
    exact coherent.remembered k v found
  · rw [left.remembered] at forgotten
    have free := coherent.named k forgotten
    rw [left.blocks, given?_cons, Option.or_eq_none_iff] at free
    exact free.2
  · cases value : block.value? k.name with
    | some v => rw [left.constant_of_named coherent (by simp [value]), free]
    | none =>
      obtain ⟨constant, given⟩ := left.constant_of_unnamed value
      rw [constant, same]
      exact coherent.standing k (given ▸ free)

theorem coversNothing_eq_false_iff (left : s.Left t block) : s.coversNothing = false ↔
    ∀ k, (block.value? k.name).isSome → given? t.blocks k = some .null → s.standing k = .null := by
  have covers (k : Setting) : ((block.value? k.name).isSome &&
        (given? t.blocks k).any Value.isNothing && !(s.standing k).isNothing) = false ↔
      ((block.value? k.name).isSome → given? t.blocks k = some .null → s.standing k = .null) := by
    have nothing : (given? t.blocks k).any Value.isNothing ↔ given? t.blocks k = some .null := by
      cases given? t.blocks k with
      | none => simp
      | some v => simp [Value.isNothing_iff]
    have table : ∀ a b c : Bool, (a && b && !c) = false ↔ (a → b → c) := by decide
    rw [← Value.isNothing_iff, ← nothing]
    exact table _ _ _
  rw [coversNothing, left.blocks]
  simp only [List.any_eq_false, Bool.not_eq_true, covers]
  exact ⟨fun each k => each k k.mem_all, fun each k _ => each k⟩

/-- If the constants are in step, they are so after a block is left exactly if it does not stand
before one that gives nothing to a setting with a standing value. -/
theorem Left.inStep_iff (left : s.Left t block) (coherent : s.Coherent) (inStep : s.InStep) :
    t.InStep ↔ s.coversNothing = false := by
  have same := standing_congr left.base
  rw [coversNothing_eq_false_iff left]
  refine ⟨fun after k named nothing => ?_, fun covered k => ?_⟩
  · have constant := left.constant_of_named coherent named
    rw [after k, nothing, Option.getD_some] at constant
    exact (same k).symm.trans constant.symm
  · cases value : block.value? k.name with
    | none =>
      obtain ⟨constant, given⟩ := left.constant_of_unnamed value
      rw [constant, given, same, inStep k]
    | some v =>
      have named : (block.value? k.name).isSome := by simp [value]
      rw [left.constant_of_named coherent named]
      split
      next none => rw [none, Option.getD_none]
      next nothing => rw [nothing, Option.getD_some, same, covered k named nothing]
      next w _ given => rw [given, Option.getD_some]

end Steps

end Settings

end RestQuery
