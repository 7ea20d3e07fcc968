import RestQuery.Proofs.Sequencing
import RestQuery.Proofs.Value.Equal

/-!
# Comparisons that are equivalences

A comparison `Equates` the elements of a set if it never fails on them and is an equivalence there.
What compares records, lists and alternatives does so if the comparisons of their parts do: there is
one lemma for every way in which a comparison is put together.
-/

namespace RestQuery.Verdict

/-- On a set, a comparison never fails, and it is reflexive, symmetric and transitive. -/
structure Equates {α : Type} (S : α → Prop) (compare : α → α → Verdict) : Prop where
  total : ∀ {x y}, S x → S y → Succeeds (compare x y)
  refl : ∀ {x}, S x → compare x x = .ok true
  symm : ∀ {x y}, S x → S y → compare x y = .ok true → compare y x = .ok true
  trans : ∀ {x y z}, S x → S y → S z → compare x y = .ok true → compare y z = .ok true →
    compare x z = .ok true

namespace Equates

variable {α β : Type} {S : α → Prop} {T : β → Prop} {compare compare' : α → α → Verdict}

theorem mono {S' : α → Prop} (equates : Equates S compare) (within : ∀ x, S' x → S x) :
    Equates S' compare where
  total left right := equates.total (within _ left) (within _ right)
  refl own := equates.refl (within _ own)
  symm left right := equates.symm (within _ left) (within _ right)
  trans first second third := equates.trans (within _ first) (within _ second) (within _ third)

/-- What is not equal is told apart. -/
theorem eq_ok_false (equates : Equates S compare) {x y : α} (left : S x) (right : S y)
    (different : compare x y ≠ .ok true) : compare x y = .ok false := by
  obtain ⟨same, told⟩ := equates.total left right
  cases same with
  | true => exact absurd told different
  | false => exact told

/-- Equal elements are told apart in either order. -/
theorem eq_ok_false_comm (equates : Equates S compare) {x y : α} (left : S x) (right : S y)
    (apart : compare x y = .ok false) : compare y x = .ok false := by
  refine equates.eq_ok_false right left fun same => ?_
  cases apart.symm.trans (equates.symm right left same)

theorem both (first : Equates S compare) (second : Equates S compare') :
    Equates S fun x y => both (compare x y) (compare' x y) where
  total left right := by
    obtain ⟨same, told⟩ := first.total left right
    rw [told]
    cases same with
    | true => exact second.total left right
    | false => exact ⟨false, rfl⟩
  refl own := both_eq_ok_true.2 ⟨first.refl own, second.refl own⟩
  symm left right same := by
    obtain ⟨one, other⟩ := both_eq_ok_true.1 same
    exact both_eq_ok_true.2 ⟨first.symm left right one, second.symm left right other⟩
  trans ownX ownY ownZ same same' := by
    obtain ⟨one, other⟩ := both_eq_ok_true.1 same
    obtain ⟨one', other'⟩ := both_eq_ok_true.1 same'
    exact both_eq_ok_true.2
      ⟨first.trans ownX ownY ownZ one one', second.trans ownX ownY ownZ other other'⟩

/-- Elements are compared by something that is made of them. -/
theorem comap {inner : β → β → Verdict} (equates : Equates T inner) {f : α → β}
    (into : ∀ x, S x → T (f x)) (same : ∀ x y, S x → S y → compare x y = inner (f x) (f y)) :
    Equates S compare where
  total left right := by
    rw [same _ _ left right]
    exact equates.total (into _ left) (into _ right)
  refl own := by
    rw [same _ _ own own]
    exact equates.refl (into _ own)
  symm left right := by
    rw [same _ _ left right, same _ _ right left]
    exact equates.symm (into _ left) (into _ right)
  trans first second third := by
    rw [same _ _ first second, same _ _ second third, same _ _ first third]
    exact equates.trans (into _ first) (into _ second) (into _ third)

theorem on {inner : β → β → Verdict} (equates : Equates T inner) (f : α → β)
    (into : ∀ x, S x → T (f x)) : Equates S fun x y => inner (f x) (f y) :=
  equates.comap into fun _ _ _ _ => rfl

/-- Pairs are compared by their first and then by their second components. -/
theorem prod {inner : β → β → Verdict} (first : Equates S compare) (second : Equates T inner) :
    Equates (fun p : α × β => S p.1 ∧ T p.2) fun p r =>
      Verdict.both (compare p.1 r.1) (inner p.2 r.2) :=
  (first.on Prod.fst fun _ own => own.1).both (second.on Prod.snd fun _ own => own.2)

/-- Elements are compared by a part that is equal or not. -/
theorem field [BEq β] [LawfulBEq β] (f : α → β) : Equates S fun x y => .ok (f x == f y) where
  total _ _ := ⟨_, rfl⟩
  refl _ := ok_beq_eq_ok_true.2 rfl
  symm _ _ same := ok_beq_eq_ok_true.2 (ok_beq_eq_ok_true.1 same).symm
  trans _ _ _ first second :=
    ok_beq_eq_ok_true.2 ((ok_beq_eq_ok_true.1 first).trans (ok_beq_eq_ok_true.1 second))

/-- Elements that are all made in one way are compared by what they are made of. -/
theorem image {inner : β → β → Verdict} (equates : Equates T inner) (f : β → α)
    (onto : ∀ x, S x → ∃ a, T a ∧ f a = x) (same : ∀ a b, compare (f a) (f b) = inner a b) :
    Equates S compare where
  total left right := by
    obtain ⟨a, inA, rfl⟩ := onto _ left
    obtain ⟨b, inB, rfl⟩ := onto _ right
    rw [same]
    exact equates.total inA inB
  refl own := by
    obtain ⟨a, inA, rfl⟩ := onto _ own
    rw [same]
    exact equates.refl inA
  symm left right := by
    obtain ⟨a, inA, rfl⟩ := onto _ left
    obtain ⟨b, inB, rfl⟩ := onto _ right
    rw [same, same]
    exact equates.symm inA inB
  trans first second third := by
    obtain ⟨a, inA, rfl⟩ := onto _ first
    obtain ⟨b, inB, rfl⟩ := onto _ second
    obtain ⟨c, inC, rfl⟩ := onto _ third
    rw [same, same, same]
    exact equates.trans inA inB inC

/-- Elements of different kinds are not equal, so each kind can be looked at by itself. -/
theorem of_kinds {κ : Type} (kind : α → κ)
    (apart : ∀ {x y}, S x → S y → kind x ≠ kind y → compare x y = .ok false)
    (each : ∀ x, S x → Equates (fun y => S y ∧ kind y = kind x) compare) : Equates S compare where
  total {x y} left right := by
    by_cases same : kind y = kind x
    · exact (each x left).total ⟨left, rfl⟩ ⟨right, same⟩
    · exact ⟨false, apart left right (Ne.symm same)⟩
  refl {x} own := (each x own).refl ⟨own, rfl⟩
  symm {x y} left right equal := by
    by_cases same : kind y = kind x
    · exact (each x left).symm ⟨left, rfl⟩ ⟨right, same⟩ equal
    · cases equal.symm.trans (apart left right (Ne.symm same))
  trans {x y z} first second third equal equal' := by
    by_cases same : kind y = kind x
    · by_cases same' : kind z = kind y
      · have alike := each x first
        exact alike.trans ⟨first, rfl⟩ ⟨second, same⟩ ⟨third, same'.trans same⟩ equal equal'
      · cases equal'.symm.trans (apart second third (Ne.symm same'))
    · cases equal.symm.trans (apart first second (Ne.symm same))

/-- Lists are compared item by item. -/
theorem runs {run : List α → List α → Verdict} (through : RunsThrough compare run)
    (equates : Equates S compare) : Equates (fun xs => ∀ x ∈ xs, S x) run where
  total {xs ys} left right := by
    induction xs generalizing ys with
    | nil => exact ⟨_, through.nil ys⟩
    | cons x xs ih =>
      cases ys with
      | nil => exact ⟨_, through.more x xs⟩
      | cons y ys =>
        obtain ⟨own, others⟩ := List.forall_mem_cons.1 left
        obtain ⟨own', others'⟩ := List.forall_mem_cons.1 right
        obtain ⟨same, told⟩ := equates.total own own'
        rw [through.cons, told]
        cases same with
        | true => exact ih others others'
        | false => exact ⟨false, rfl⟩
  refl {xs} own := by
    rw [through.eq_ok_true, List.forall₂_same]
    exact fun x member => equates.refl (own x member)
  symm {xs ys} left right same := by
    have agree := forall₂_imp_of_mem (through.eq_ok_true.1 same) fun x inside y inside' equal =>
      equates.symm (left x inside) (right y inside') equal
    exact through.eq_ok_true.2 agree.flip
  trans {xs ys zs} first second third same same' := by
    rw [through.eq_ok_true] at same same' ⊢
    induction same generalizing zs with
    | nil =>
      cases same'
      exact .nil
    | @cons x y xs ys equal _ ih =>
      cases same' with
      | @cons _ z _ zs equal' rest =>
        obtain ⟨own, others⟩ := List.forall_mem_cons.1 first
        obtain ⟨own', others'⟩ := List.forall_mem_cons.1 second
        obtain ⟨own'', others''⟩ := List.forall_mem_cons.1 third
        exact .cons (equates.trans own own' own'' equal equal') (ih others others' others'' rest)

end Equates

end RestQuery.Verdict
