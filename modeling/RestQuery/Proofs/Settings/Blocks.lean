import RestQuery.Proofs.Settings.Steps

/-!
# Blocks of overrides

Blocks of overrides are entered and left one inside the other, a run of `Move`s.  A run undoes its
blocks if after a block every constant is what it was before, and in a block what the innermost
block gives that names its setting (`Settings.Undone`).  By `Settings.blocks_undone` it does so
exactly if it never leaves a block that stands before one that gives nothing to a setting with a
standing value, and `Settings.timeout_not_undone` is a run that does.
-/

namespace RestQuery

/-! ## Moves -/

/-- A block of overrides is entered, or the innermost one is left. -/
inductive Move where
  | enter (block : Definitions)
  | leave

/-- Every block that is entered is left again, the innermost one first. -/
inductive Balanced : List Move → Prop
  | nil : Balanced []
  | block (d : Definitions) {inside after : List Move} : Balanced inside → Balanced after →
    Balanced (.enter d :: (inside ++ .leave :: after))

/-- No block names a setting twice. -/
def Distinct (moves : List Move) : Prop :=
  ∀ block, Move.enter block ∈ moves → (block.map (·.1)).Nodup

theorem Distinct.head {block : Definitions} {moves : List Move}
    (distinct : Distinct (.enter block :: moves)) : (block.map (·.1)).Nodup :=
  distinct block List.mem_cons_self

theorem Distinct.tail {m : Move} {moves : List Move} (distinct : Distinct (m :: moves)) :
    Distinct moves :=
  fun block member => distinct block (List.mem_cons_of_mem m member)

namespace Settings

/-- The settings after a move; there is no block to leave where none is entered. -/
def move? (s : Settings) : Move → Option Settings
  | .enter block => some (s.enter block)
  | .leave => s.leave?

/-- The settings after some moves. -/
def run? (s : Settings) (moves : List Move) : Option Settings := moves.foldlM move? s

/-- Whether some moves leave a block that stands before one that gives nothing. -/
def uncoversNothing (s : Settings) : List Move → Bool
  | [] => false
  | .enter block :: moves => (s.enter block).uncoversNothing moves
  | .leave :: moves => s.coversNothing ||
    match s.leave? with
    | some t => t.uncoversNothing moves
    | none => false

/-! ## Runs -/

theorem run?_cons (s : Settings) (m : Move) (moves : List Move) :
    s.run? (m :: moves) = (s.move? m).bind fun t => t.run? moves := List.foldlM_cons

theorem run?_append (s : Settings) (moves others : List Move) :
    s.run? (moves ++ others) = (s.run? moves).bind fun t => t.run? others := by
  induction moves generalizing s with
  | nil => rfl
  | cons m moves ih =>
    rw [List.cons_append, run?_cons, run?_cons, Option.bind_assoc]
    congr 1
    funext t
    exact ih t

/-- Nested blocks can be run from any settings, and none of them is left over. -/
theorem run?_of_balanced {moves : List Move} (nested : Balanced moves) (s : Settings) :
    ∃ t, s.run? moves = some t ∧ t.blocks = s.blocks ∧ t.base = s.base := by
  induction nested generalizing s with
  | nil => exact ⟨s, rfl, rfl, rfl⟩
  | @block d inside after _ _ insideRuns afterRuns =>
    have entered := foldl_override { s with blocks := d :: s.blocks } d
    obtain ⟨t, runInside, blocks, base⟩ := insideRuns (s.enter d)
    obtain ⟨u, leave, rest, left⟩ := left_of_blocks (blocks.trans entered.1)
    obtain ⟨w, runAfter, blocks', base'⟩ := afterRuns u
    refine ⟨w, ?_, blocks'.trans rest, ?_⟩
    · rw [run?_cons, move?, Option.bind_some, run?_append, runInside, Option.bind_some, run?_cons,
        move?, leave, Option.bind_some, runAfter]
    · exact base'.trans (left.base.trans (base.trans entered.2))

/-- Before each of some moves, and after the last one, a condition holds. -/
def Throughout (P : Settings → Prop) (s : Settings) (moves : List Move) : Prop :=
  ∀ before after t, moves = before ++ after → s.run? before = some t → P t

section Throughout

variable {P : Settings → Prop} {s : Settings}

theorem throughout_nil : Throughout P s [] ↔ P s := by
  refine ⟨fun all => all [] [] s rfl rfl, fun holds before after t split run => ?_⟩
  obtain ⟨rfl, rfl⟩ := List.append_eq_nil_iff.1 split.symm
  cases run
  exact holds

theorem throughout_cons {m : Move} {moves : List Move} :
    Throughout P s (m :: moves) ↔ P s ∧ ∀ t, s.move? m = some t → Throughout P t moves := by
  constructor
  · intro all
    refine ⟨all [] _ s rfl rfl, fun t step before after u split run => ?_⟩
    refine all (m :: before) after u (congrArg (m :: ·) split) ?_
    rw [run?_cons, step, Option.bind_some, run]
  · rintro ⟨first, rest⟩ before after u split run
    cases before with
    | nil =>
      cases run
      exact first
    | cons m' before =>
      obtain ⟨rfl, others⟩ := List.cons.inj split
      rw [run?_cons] at run
      obtain ⟨t, step, run⟩ := Option.bind_eq_some_iff.1 run
      exact rest t step before after u others run

end Throughout

/-- All settings that are reached are coherent. -/
theorem Coherent.throughout {s : Settings} (coherent : s.Coherent) {moves : List Move}
    (distinct : Distinct moves) : Throughout Coherent s moves := by
  induction moves generalizing s with
  | nil => exact throughout_nil.2 coherent
  | cons m moves ih =>
    refine throughout_cons.2 ⟨coherent, fun t step => ih ?_ distinct.tail⟩
    cases m with
    | enter block =>
      cases step
      exact (entered_enter s distinct.head).coherent coherent
    | leave =>
      obtain ⟨block, left⟩ := left_of_leave? step
      exact left.coherent coherent

/-- The constants stay in step exactly if no block is left that stands before one that gives
nothing. -/
theorem inStep_throughout_iff {s : Settings} (coherent : s.Coherent) (inStep : s.InStep)
    {moves : List Move} (distinct : Distinct moves) :
    s.uncoversNothing moves = false ↔ Throughout InStep s moves := by
  induction moves generalizing s with
  | nil => exact iff_of_true rfl (throughout_nil.2 inStep)
  | cons m moves ih =>
    rw [throughout_cons, and_iff_right inStep]
    cases m with
    | enter block =>
      have entered := entered_enter s distinct.head
      rw [uncoversNothing, ih (entered.coherent coherent) (entered.inStep inStep) distinct.tail]
      simp [move?]
    | leave =>
      rw [uncoversNothing, Bool.or_eq_false_iff, move?]
      cases step : s.leave? with
      | none =>
        have blocks : s.blocks = [] := by
          cases blocks : s.blocks with
          | nil => rfl
          | cons block rest =>
            obtain ⟨t, left, _⟩ := left_of_blocks blocks
            cases step.symm.trans left
        simp [coversNothing, blocks]
      | some t =>
        obtain ⟨block, left⟩ := left_of_leave? step
        have further := fun after : t.InStep => ih (left.coherent coherent) after distinct.tail
        rw [← left.inStep_iff coherent inStep]
        constructor
        · rintro ⟨after, rest⟩ _ ⟨⟩
          exact (further after).1 rest
        · intro all
          have after : t.InStep := all t rfl [] moves t rfl rfl
          exact ⟨after, (further after).2 (all t rfl)⟩

/-! ## Blocks that are undone -/

/-- After a block every constant is what it was before, and in a block it is what the innermost one
of those that name the setting gives. -/
structure Undone (s : Settings) (moves : List Move) : Prop where
  restored : ∀ (before inside after : List Move) (block : Definitions) (t : Settings),
    moves = before ++ .enter block :: (inside ++ .leave :: after) → Balanced inside →
    s.run? before = some t →
    ∃ u, t.run? (.enter block :: (inside ++ [.leave])) = some u ∧ u.constant = t.constant
  innermost : Throughout (fun t => ∀ k v, given? t.blocks k = some v → t.constant k = v) s moves

/-- The block that a move enters or leaves. -/
def concerned (s : Settings) : Move → Definitions
  | .enter block => block
  | .leave => s.blocks.headD []

/-- A run undoes its blocks exactly if the constants are in step throughout. -/
theorem undone_iff_inStep {s : Settings} (coherent : s.Coherent) {moves : List Move}
    (distinct : Distinct moves) : s.Undone moves ↔ Throughout InStep s moves := by
  constructor
  · intro undone before after t split run k
    cases given : given? t.blocks k with
    | some v => exact undone.innermost before after t split run k v given
    | none => exact (coherent.throughout distinct before after t split run).standing k given
  · intro inStep
    refine ⟨fun before inside after block t split nested run => ?_,
      fun before after t split run k v given => ?_⟩
    · have whole : Balanced (.enter block :: (inside ++ [.leave])) := .block block nested .nil
      obtain ⟨u, through, blocks, base⟩ := run?_of_balanced whole t
      refine ⟨u, through, funext fun k => ?_⟩
      have reached : s.run? (before ++ .enter block :: (inside ++ [.leave])) = some u := by
        rw [run?_append, run, Option.bind_some, through]
      have split' : moves = (before ++ .enter block :: (inside ++ [.leave])) ++ after := by
        simp [split]
      have here := inStep before (.enter block :: (inside ++ .leave :: after)) t split run
      rw [inStep _ after u split' reached k, here k, blocks, standing_congr base]
    · rw [inStep before after t split run k, given, Option.getD_some]

/-- A setting that a block does not name keeps its constant when the block is entered or left. -/
theorem constant_of_unnamed {s t : Settings} {m : Move} (distinct : Distinct [m])
    (step : s.move? m = some t) {k : Setting} (unnamed : (s.concerned m).value? k.name = none) :
    t.constant k = s.constant k := by
  cases m with
  | enter block =>
    cases step
    have unnamed : block.value? k.name = none := unnamed
    rw [(entered_enter s distinct.head).constant, unnamed, Option.getD_none]
  | leave =>
    obtain ⟨block, left⟩ := left_of_leave? step
    rw [concerned, left.blocks, List.headD_cons] at unnamed
    exact (left.constant_of_unnamed unnamed).1

/-- Nested blocks can be run.  They are undone exactly if none is left that stands, for a setting
with a standing value, before one that gives nothing to it; and in any case a constant changes only
where a block that names its setting is entered or left. -/
theorem blocks_undone (base : Definitions) {moves : List Move} (nested : Balanced moves)
    (distinct : Distinct moves) :
    (∃ s, (ofBase base).run? moves = some s ∧ s.blocks = []) ∧
      ((ofBase base).uncoversNothing moves = false ↔ (ofBase base).Undone moves) ∧
      ∀ before after m s t k, moves = before ++ m :: after →
        (ofBase base).run? before = some s → s.move? m = some t →
        (s.concerned m).value? k.name = none → t.constant k = s.constant k := by
  have coherent := coherent_ofBase base
  obtain ⟨s, run, blocks, _⟩ := run?_of_balanced nested (ofBase base)
  refine ⟨⟨s, run, blocks⟩, ?_, fun before after m s t k split _ step unnamed => ?_⟩
  · rw [undone_iff_inStep coherent distinct]
    exact inStep_throughout_iff coherent (inStep_ofBase base) distinct
  · refine constant_of_unnamed (fun block member => distinct block ?_) step unnamed
    rw [List.mem_singleton] at member
    rw [split, member]
    exact List.mem_append_right _ List.mem_cons_self

/-- A page size and a time zone, and inside them no page size and another timeout. -/
def pageMoves : List Move :=
  [.enter [("PGRESTCLIENT_DEFAULT_PAGE_SIZE", .int 25), ("TIME_ZONE", .text "UTC")],
    .enter [("PGRESTCLIENT_DEFAULT_PAGE_SIZE", .null), ("PGRESTCLIENT_TIMEOUT", .int 1)],
    .leave, .leave]

theorem blocks_undone_pageMoves :
    Balanced pageMoves ∧ Distinct pageMoves ∧
      (ofBase [("PGRESTCLIENT_TIMEOUT", .int 5)]).uncoversNothing pageMoves = false ∧
      (ofBase [("PGRESTCLIENT_TIMEOUT", .int 5)]).Undone pageMoves := by
  have nested : Balanced pageMoves := .block _ (.block _ .nil .nil) .nil
  have distinct : Distinct pageMoves := by
    simp [Distinct, pageMoves]
  have covered : (ofBase [("PGRESTCLIENT_TIMEOUT", .int 5)]).uncoversNothing pageMoves = false := by
    decide
  exact ⟨nested, distinct, covered, (blocks_undone _ nested distinct).2.1.1 covered⟩

/-- No timeout, and inside it a timeout. -/
def timeoutMoves : List Move :=
  [.enter [("PGRESTCLIENT_TIMEOUT", .null)], .enter [("PGRESTCLIENT_TIMEOUT", .int 1)], .leave,
    .leave]

/-- The timeout that was set to nothing takes its standing value after a block inside is left. -/
theorem timeout_not_undone :
    Balanced timeoutMoves ∧ Distinct timeoutMoves ∧
      ¬(ofBase [("PGRESTCLIENT_TIMEOUT", .int 5)]).Undone timeoutMoves := by
  have nested : Balanced timeoutMoves := .block _ (.block _ .nil .nil) .nil
  refine ⟨nested, by simp [Distinct, timeoutMoves], fun undone => ?_⟩
  obtain ⟨u, run, same⟩ := undone.restored [.enter [("PGRESTCLIENT_TIMEOUT", .null)]] []
    [.leave] _ _ rfl .nil rfl
  cases run
  have timeout := congrFun same .timeout
  cases timeout

end Settings

end RestQuery
