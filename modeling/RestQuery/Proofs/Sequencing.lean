import Mathlib.Data.List.Forall2

/-!
# Steps that can fail

Writing a query is a sequence of steps each of which can fail, so what is written is described by
the laws of such sequences: how a step goes on after a success and after a failure, and that
`List.flatMapM` runs through an appended or a nested list as through its parts.  `Succeeds` says
that a step does not fail, and a run of steps succeeds if each of them does; `FailsOnly` says for
which causes a step can fail.  Lists that agree position by position are run through alike
(`mapM_forall₂`, `flatMapM_forall₂`), and what two runs give tells of what they ran through
(`forall₂_of_mapM_eq_ok`).
-/

namespace RestQuery

section Steps

variable {ε α β : Type}

theorem ok_eq_pure (a : α) : (Except.ok a : Except ε α) = pure a := rfl

@[simp] theorem ok_bind (a : α) (f : α → Except ε β) : (Except.ok a >>= f) = f a := rfl

@[simp] theorem error_bind (cause : ε) (f : α → Except ε β) :
    (Except.error cause >>= f) = .error cause := rfl

@[simp] theorem ok_map (f : α → β) (a : α) : (f <$> (Except.ok a : Except ε α)) = .ok (f a) := rfl

@[simp] theorem error_map (f : α → β) (cause : ε) :
    (f <$> (Except.error cause : Except ε α)) = .error cause := rfl

/-- A run of two steps gives a result exactly when the second one does after the first. -/
theorem bind_eq_ok {step : Except ε α} {next : α → Except ε β} {b : β} :
    (step >>= next) = .ok b ↔ ∃ a, step = .ok a ∧ next a = .ok b := by
  cases step with
  | ok a => simp
  | error cause => simp

theorem map_eq_ok {step : Except ε α} {f : α → β} {b : β} :
    f <$> step = .ok b ↔ ∃ a, step = .ok a ∧ f a = b := by
  cases step with
  | ok a => simp
  | error cause => simp

/-- The step does not fail. -/
def Succeeds (step : Except ε α) : Prop := ∃ a, step = .ok a

theorem Succeeds.pure (a : α) : Succeeds (Pure.pure a : Except ε α) := ⟨a, rfl⟩

theorem Succeeds.map {step : Except ε α} (first : Succeeds step) (f : α → β) :
    Succeeds (f <$> step) := by
  obtain ⟨a, rfl⟩ := first
  exact ⟨f a, rfl⟩

theorem Succeeds.bind {step : Except ε α} {next : α → Except ε β} (first : Succeeds step)
    (rest : ∀ a, Succeeds (next a)) : Succeeds (step >>= next) := by
  obtain ⟨a, rfl⟩ := first
  exact rest a

theorem Succeeds.mapM {f : α → Except ε β} {xs : List α} (each : ∀ x ∈ xs, Succeeds (f x)) :
    Succeeds (xs.mapM f) := by
  induction xs with
  | nil => exact ⟨[], rfl⟩
  | cons x xs ih =>
    rw [List.mapM_cons]
    have rest := ih fun y member => each y (List.mem_cons_of_mem x member)
    exact (each x List.mem_cons_self).bind fun y => rest.bind fun ys => .pure (y :: ys)

theorem Succeeds.flatMapM {f : α → Except ε (List β)} {xs : List α}
    (each : ∀ x ∈ xs, Succeeds (f x)) : Succeeds (xs.flatMapM f) := by
  induction xs with
  | nil => exact ⟨[], rfl⟩
  | cons x xs ih =>
    rw [List.flatMapM_cons]
    have rest := ih fun y member => each y (List.mem_cons_of_mem x member)
    exact (each x List.mem_cons_self).bind fun ys => rest.bind fun zs => .pure (ys ++ zs)

/-- What holds of the result of every step holds of all results. -/
theorem forall_of_mapM_eq_ok {motive : β → Prop} {f : α → Except ε β} {xs : List α}
    (each : ∀ x ∈ xs, ∀ y, f x = .ok y → motive y) {ys : List β} (run : xs.mapM f = .ok ys) :
    ∀ y ∈ ys, motive y := by
  induction xs generalizing ys with
  | nil =>
    cases run
    exact List.forall_mem_nil _
  | cons x xs ih =>
    rw [List.mapM_cons] at run
    obtain ⟨y, first, run⟩ := bind_eq_ok.1 run
    obtain ⟨others, rest, run⟩ := bind_eq_ok.1 run
    cases run
    have behind := ih (fun x' member => each x' (List.mem_cons_of_mem x member)) rest
    exact List.forall_mem_cons.2 ⟨each x List.mem_cons_self y first, behind⟩

theorem forall_of_flatMapM_eq_ok {motive : β → Prop} {f : α → Except ε (List β)} {xs : List α}
    (each : ∀ x ∈ xs, ∀ ys, f x = .ok ys → ∀ y ∈ ys, motive y) {ys : List β}
    (run : xs.flatMapM f = .ok ys) : ∀ y ∈ ys, motive y := by
  induction xs generalizing ys with
  | nil =>
    cases run
    exact List.forall_mem_nil _
  | cons x xs ih =>
    rw [List.flatMapM_cons] at run
    obtain ⟨own, first, run⟩ := bind_eq_ok.1 run
    obtain ⟨others, rest, run⟩ := bind_eq_ok.1 run
    cases run
    have behind := ih (fun x' member => each x' (List.mem_cons_of_mem x member)) rest
    exact List.forall_mem_append.2 ⟨each x List.mem_cons_self own first, behind⟩

/-- Every step of a run that gives a result gives one, and it is among the results. -/
theorem exists_of_mapM_eq_ok {f : α → Except ε β} {xs : List α} {ys : List β}
    (run : xs.mapM f = .ok ys) {x : α} (member : x ∈ xs) : ∃ y, f x = .ok y ∧ y ∈ ys := by
  induction xs generalizing ys with
  | nil => cases member
  | cons x' xs ih =>
    rw [List.mapM_cons] at run
    obtain ⟨y, first, run⟩ := bind_eq_ok.1 run
    obtain ⟨others, rest, run⟩ := bind_eq_ok.1 run
    cases run
    rcases List.mem_cons.1 member with rfl | later
    · exact ⟨y, first, List.mem_cons_self⟩
    · obtain ⟨y', own, among⟩ := ih rest later
      exact ⟨y', own, List.mem_cons_of_mem y among⟩

theorem exists_of_flatMapM_eq_ok {f : α → Except ε (List β)} {xs : List α} {ys : List β}
    (run : xs.flatMapM f = .ok ys) {x : α} (member : x ∈ xs) :
    ∃ own, f x = .ok own ∧ ∀ y ∈ own, y ∈ ys := by
  induction xs generalizing ys with
  | nil => cases member
  | cons x' xs ih =>
    rw [List.flatMapM_cons] at run
    obtain ⟨first, written, run⟩ := bind_eq_ok.1 run
    obtain ⟨others, rest, run⟩ := bind_eq_ok.1 run
    cases run
    rcases List.mem_cons.1 member with rfl | later
    · exact ⟨first, written, fun y among => List.mem_append_left others among⟩
    · obtain ⟨own, written, within⟩ := ih rest later
      exact ⟨own, written, fun y among => List.mem_append_right first (within y among)⟩

/-- The step fails only for causes of a kind. -/
def FailsOnly (kind : ε → Prop) (step : Except ε α) : Prop :=
  ∀ cause, step = .error cause → kind cause

variable {kind : ε → Prop}

theorem FailsOnly.ok (a : α) : FailsOnly kind (.ok a : Except ε α) :=
  fun _ failed => nomatch failed

theorem FailsOnly.error {cause : ε} (expected : kind cause) :
    FailsOnly kind (.error cause : Except ε α) := by
  rintro _ ⟨⟩
  exact expected

theorem FailsOnly.mono {kind' : ε → Prop} {step : Except ε α} (fails : FailsOnly kind step)
    (wider : ∀ cause, kind cause → kind' cause) : FailsOnly kind' step :=
  fun cause failed => wider cause (fails cause failed)

theorem FailsOnly.bind {step : Except ε α} {next : α → Except ε β} (first : FailsOnly kind step)
    (rest : ∀ a, FailsOnly kind (next a)) : FailsOnly kind (step >>= next) := by
  cases step with
  | ok a => exact rest a
  | error cause => exact .error (first cause rfl)

theorem FailsOnly.forM {f : α → Except ε Unit} {xs : List α}
    (each : ∀ x ∈ xs, FailsOnly kind (f x)) : FailsOnly kind (xs.forM f) := by
  induction xs with
  | nil => exact .ok ()
  | cons x xs ih =>
    have rest := ih fun y member => each y (List.mem_cons_of_mem x member)
    exact (each x List.mem_cons_self).bind fun _ => rest

end Steps

section Checks

variable {ε α β : Type}

end Checks

section Runs

variable {m : Type → Type} [Monad m] [LawfulMonad m] {α β γ : Type}

theorem mapM_map_result (g : β → γ) (f : α → m β) (xs : List α) :
    xs.mapM (fun x => g <$> f x) = List.map g <$> xs.mapM f := by
  induction xs with
  | nil => simp
  | cons x xs ih => simp only [List.mapM_cons, ih, bind_map_left, map_bind, map_pure, List.map_cons]

theorem mapM_congr {f g : α → m β} {xs : List α} (same : ∀ x ∈ xs, f x = g x) :
    xs.mapM f = xs.mapM g := by
  induction xs with
  | nil => rfl
  | cons x xs ih =>
    rw [List.mapM_cons, List.mapM_cons, same x List.mem_cons_self,
      ih fun y member => same y (List.mem_cons_of_mem x member)]

theorem mapM_flatMap (g : γ → List α) (f : α → m β) (xs : List γ) :
    (xs.flatMap g).mapM f = xs.flatMapM fun x => (g x).mapM f := by
  induction xs with
  | nil => simp
  | cons x xs ih => rw [List.flatMap_cons, List.mapM_append, List.flatMapM_cons, ih]

theorem flatMapM_append (f : α → m (List β)) (xs ys : List α) :
    (xs ++ ys).flatMapM f = (do return (← xs.flatMapM f) ++ (← ys.flatMapM f)) := by
  induction xs with
  | nil => simp
  | cons x xs ih =>
    simp only [List.cons_append, List.flatMapM_cons, ih, bind_assoc, pure_bind, List.append_assoc]

theorem flatMapM_map (g : γ → α) (f : α → m (List β)) (xs : List γ) :
    (xs.map g).flatMapM f = xs.flatMapM fun x => f (g x) := by
  induction xs with
  | nil => simp
  | cons x xs ih => rw [List.map_cons, List.flatMapM_cons, List.flatMapM_cons, ih]

theorem flatMapM_flatMap (g : γ → List α) (f : α → m (List β)) (xs : List γ) :
    (xs.flatMap g).flatMapM f = xs.flatMapM fun x => (g x).flatMapM f := by
  induction xs with
  | nil => simp
  | cons x xs ih => rw [List.flatMap_cons, flatMapM_append, List.flatMapM_cons, ih]

theorem flatMapM_map_result (g : β → γ) (f : α → m (List β)) (xs : List α) :
    xs.flatMapM (fun x => List.map g <$> f x) = List.map g <$> xs.flatMapM f := by
  induction xs with
  | nil => simp
  | cons x xs ih =>
    simp only [List.flatMapM_cons, ih, bind_map_left, map_bind, map_pure, List.map_append]

theorem flatMapM_congr {f g : α → m (List β)} {xs : List α} (same : ∀ x ∈ xs, f x = g x) :
    xs.flatMapM f = xs.flatMapM g := by
  induction xs with
  | nil => rfl
  | cons x xs ih =>
    rw [List.flatMapM_cons, List.flatMapM_cons, same x List.mem_cons_self,
      ih fun y member => same y (List.mem_cons_of_mem x member)]

end Runs

section Pairs

variable {m : Type → Type} [Monad m] [LawfulMonad m] {α β γ δ : Type}

theorem mapM_forall₂ {f : α → m γ} {g : β → m γ} {xs : List α} {ys : List β}
    (agree : List.Forall₂ (fun x y => f x = g y) xs ys) : xs.mapM f = ys.mapM g := by
  induction agree with
  | nil => rfl
  | cons first _ ih => rw [List.mapM_cons, List.mapM_cons, first, ih]

theorem flatMapM_forall₂ {f : α → m (List γ)} {g : β → m (List γ)} {xs : List α} {ys : List β}
    (agree : List.Forall₂ (fun x y => f x = g y) xs ys) :
    xs.flatMapM f = ys.flatMapM g := by
  induction agree with
  | nil => rfl
  | cons first _ ih => rw [List.flatMapM_cons, List.flatMapM_cons, first, ih]

/-- Two steps that both succeed, with results that belong together, or both fail, for causes that
do. -/
inductive Matched {ε : Type} (R : α → β → Prop) (F : ε → ε → Prop) :
    Except ε α → Except ε β → Prop
  | ok {a : α} {b : β} : R a b → Matched R F (.ok a) (.ok b)
  | error {cause cause' : ε} : F cause cause' → Matched R F (.error cause) (.error cause')

theorem Matched.of_ok {ε : Type} {R : α → β → Prop} {F : ε → ε → Prop} {step : Except ε α}
    {step' : Except ε β} (matched : Matched R F step step') {a : α} (made : step = .ok a) :
    ∃ b, step' = .ok b ∧ R a b := by
  cases matched with
  | ok same =>
    cases made
    exact ⟨_, rfl, same⟩
  | error causes => cases made

theorem Matched.of_error {ε : Type} {R : α → β → Prop} {F : ε → ε → Prop} {step : Except ε α}
    {step' : Except ε β} (matched : Matched R F step step') {cause : ε}
    (failed : step = .error cause) : ∃ cause', step' = .error cause' ∧ F cause cause' := by
  cases matched with
  | ok same => cases failed
  | error causes =>
    cases failed
    exact ⟨_, rfl, causes⟩

theorem Matched.mono {ε : Type} {R : α → β → Prop} {F F' : ε → ε → Prop} {step : Except ε α}
    {step' : Except ε β} (matched : Matched R F step step') (wider : ∀ e e', F e e' → F' e e') :
    Matched R F' step step' := by
  cases matched with
  | ok same => exact .ok same
  | error causes => exact .error (wider _ _ causes)

theorem Matched.same {ε : Type} {F : ε → ε → Prop} {step : Except ε α} (causes : ∀ e, F e e) :
    Matched (· = ·) F step step := by
  cases step with
  | ok a => exact .ok rfl
  | error cause => exact .error (causes cause)

theorem Matched.bind {ε : Type} {R : α → β → Prop} {S : γ → δ → Prop} {F : ε → ε → Prop}
    {step : Except ε α} {step' : Except ε β} {next : α → Except ε γ} {next' : β → Except ε δ}
    (first : Matched R F step step') (rest : ∀ a b, R a b → Matched S F (next a) (next' b)) :
    Matched S F (step >>= next) (step' >>= next') := by
  cases first with
  | ok same => exact rest _ _ same
  | error causes => exact .error causes

/-- Steps that match go on alike, if whatever follows them does. -/
theorem Matched.bind_eq {ε : Type} {R : α → β → Prop} {step : Except ε α} {step' : Except ε β}
    {next : α → Except ε γ} {next' : β → Except ε γ} (first : Matched R (· = ·) step step')
    (rest : ∀ a b, R a b → next a = next' b) : (step >>= next) = (step' >>= next') := by
  cases first with
  | ok same => exact rest _ _ same
  | error causes => exact congrArg Except.error causes

/-- Lists whose elements give matching results position by position do so as wholes. -/
theorem Matched.mapM {ε : Type} {f : α → Except ε γ} {g : β → Except ε δ} {R : γ → δ → Prop}
    {F : ε → ε → Prop} {xs : List α} {ys : List β}
    (agree : List.Forall₂ (fun x y => Matched R F (f x) (g y)) xs ys) :
    Matched (List.Forall₂ R) F (xs.mapM f) (ys.mapM g) := by
  induction agree with
  | nil => exact .ok .nil
  | cons first _ ih =>
    rw [List.mapM_cons, List.mapM_cons]
    exact first.bind fun a b same => ih.bind fun as bs others => .ok (.cons same others)

theorem forall₂_imp_of_mem {R S : α → β → Prop} {xs : List α} {ys : List β}
    (agree : List.Forall₂ R xs ys) (each : ∀ x ∈ xs, ∀ y ∈ ys, R x y → S x y) :
    List.Forall₂ S xs ys := by
  induction agree with
  | nil => exact .nil
  | @cons x y xs ys first _ ih =>
    exact .cons (each x List.mem_cons_self y List.mem_cons_self first)
      (ih fun x' left y' right =>
        each x' (List.mem_cons_of_mem x left) y' (List.mem_cons_of_mem y right))

/-- Lists with one image agree position by position. -/
theorem forall₂_of_map_eq {f : α → γ} {g : β → γ} {xs : List α} {ys : List β}
    (same : xs.map f = ys.map g) : List.Forall₂ (fun x y => f x = g y) xs ys := by
  rwa [← List.forall₂_eq_eq_eq, List.forall₂_map_left_iff, List.forall₂_map_right_iff] at same

/-- Two runs whose results agree under `key` ran through lists that agree position by position. -/
theorem forall₂_of_mapM_eq_ok {ε : Type} {f : α → Except ε γ} {g : β → Except ε γ} {key : γ → δ}
    {xs : List α} {ys : List β} {as bs : List γ} (first : xs.mapM f = .ok as)
    (second : ys.mapM g = .ok bs) (same : as.map key = bs.map key) :
    List.Forall₂ (fun x y => ∃ a b, f x = .ok a ∧ g y = .ok b ∧ key a = key b) xs ys := by
  induction xs generalizing ys as bs with
  | nil =>
    cases first
    cases bs with
    | cons b bs => cases same
    | nil =>
      cases ys with
      | nil => exact .nil
      | cons y ys =>
        rw [List.mapM_cons] at second
        obtain ⟨_, _, second⟩ := bind_eq_ok.1 second
        obtain ⟨_, _, ⟨⟩⟩ := bind_eq_ok.1 second
  | cons x xs ih =>
    rw [List.mapM_cons] at first
    obtain ⟨a, made, first⟩ := bind_eq_ok.1 first
    obtain ⟨as, others, ⟨⟩⟩ := bind_eq_ok.1 first
    cases ys with
    | nil =>
      cases second
      cases same
    | cons y ys =>
      rw [List.mapM_cons] at second
      obtain ⟨b, made', second⟩ := bind_eq_ok.1 second
      obtain ⟨bs, others', ⟨⟩⟩ := bind_eq_ok.1 second
      obtain ⟨head, tail⟩ := List.cons.inj same
      exact .cons ⟨a, b, made, made', head⟩ (ih others others' tail)

end Pairs

theorem mapM_eq_some {α : Type} {f : α → Option α} {xs : List α} (each : ∀ x ∈ xs, f x = some x) :
    xs.mapM f = some xs := by
  rw [mapM_congr each]
  exact (List.mapM_pure).trans (congrArg some (List.map_id' xs))

end RestQuery
