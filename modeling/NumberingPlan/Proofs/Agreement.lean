import NumberingPlan.Proofs.Outcome

/-! Two runs side by side: both fail, with the same fault, or both succeed, with related results.
Lists and options are related member by member. -/
namespace NumberingPlan

inductive Agree {ε α β : Type} (R : α → β → Prop) : Except ε α → Except ε β → Prop
  | fault (e : ε) : Agree R (.error e) (.error e)
  | result {a : α} {b : β} (h : R a b) : Agree R (.ok a) (.ok b)

namespace Agree

variable {ε α β γ δ : Type} {R : α → β → Prop} {S : γ → δ → Prop} {x : Except ε α}
  {y : Except ε β}

theorem of_eq {x y : Except ε α} {R : α → α → Prop} (h : x = y) (hR : ∀ a, R a a) :
    Agree R x y := by
  subst h
  cases x with
  | error e => exact .fault e
  | ok a => exact .result (hR a)

theorem bind {f : α → Except ε γ} {g : β → Except ε δ} (h : Agree R x y)
    (hfg : ∀ a b, R a b → Agree S (f a) (g b)) : Agree S (x >>= f) (y >>= g) := by
  cases h with
  | fault e => exact .fault e
  | result hab => exact hfg _ _ hab

theorem map {f : α → γ} {g : β → δ} (h : Agree R x y) (hfg : ∀ a b, R a b → S (f a) (g b)) :
    Agree S (x.map f) (y.map g) := by
  cases h with
  | fault e => exact .fault e
  | result hab => exact .result (hfg _ _ hab)

theorem mapError {ε' : Type} {f : ε → ε'} (h : Agree R x y) :
    Agree R (x.mapError f) (y.mapError f) := by
  cases h with
  | fault e => exact .fault (f e)
  | result hab => exact .result hab

/-- What is known of every result of the second run may be added to the relation. -/
theorem strengthen {P : β → Prop} (h : Agree R x y) (hP : ∀ b, y = .ok b → P b) :
    Agree (fun a b => R a b ∧ P b) x y := by
  cases h with
  | fault e => exact .fault e
  | result hab => exact .result ⟨hab, hP _ rfl⟩

theorem mapM {f : γ → Except ε α} {g : γ → Except ε β} (h : ∀ x, Agree R (f x) (g x))
    (xs : List γ) : Agree (List.Forall₂ R) (xs.mapM f) (xs.mapM g) := by
  induction xs with
  | nil => exact .result .nil
  | cons x xs ih =>
    rw [List.mapM_cons, List.mapM_cons]
    refine (h x).bind fun a b hab => ?_
    refine ih.bind fun as bs habs => ?_
    exact .result (.cons hab habs)

end Agree

section Members

variable {α β γ : Type} {R : α → β → Prop} {f : α → γ} {g : β → γ}

theorem rel_eq_refl (x : Option α) : Option.Rel Eq x x := by
  cases x with
  | none => exact .none
  | some a => exact .some rfl

theorem rel_imp {S : α → β → Prop} {x : Option α} {y : Option β} (h : Option.Rel R x y)
    (hRS : ∀ a b, R a b → S a b) : Option.Rel S x y := by
  cases h with
  | none => exact .none
  | some hab => exact .some (hRS _ _ hab)

theorem map_eq_of_rel {x : Option α} {y : Option β} (h : Option.Rel R x y)
    (hfg : ∀ a b, R a b → f a = g b) : x.map f = y.map g := by
  cases h with
  | none => rfl
  | some hab => exact congrArg some (hfg _ _ hab)

theorem map_eq_of_forall₂ {xs : List α} {ys : List β} (h : List.Forall₂ R xs ys)
    (hfg : ∀ a b, R a b → f a = g b) : xs.map f = ys.map g := by
  rw [← List.forall₂_eq_eq_eq, List.forall₂_map_left_iff, List.forall₂_map_right_iff]
  exact h.imp hfg

theorem head?_related {xs : List α} {ys : List β} (h : List.Forall₂ R xs ys) :
    Option.Rel R xs.head? ys.head? := by
  cases h with
  | nil => exact .none
  | cons hab => exact .some hab

end Members

theorem mapM_congr {ε α β γ : Type} {f : α → Except ε γ} {g : β → Except ε γ} {xs : List α}
    {ys : List β} (h : List.Forall₂ (fun x y => f x = g y) xs ys) : xs.mapM f = ys.mapM g := by
  induction h with
  | nil => rfl
  | cons hxy _ ih => rw [List.mapM_cons, List.mapM_cons, hxy, ih]

def outcome {ε σ α : Type} : EStateM.Result ε σ α → Except ε σ
  | .ok _ s => .ok s
  | .error e _ => .error e

theorem outcome_bind_ofExcept {ε σ α β : Type} (x : Except ε α) (f : α → EStateM ε σ β) (s : σ) :
    outcome ((MonadExcept.ofExcept x >>= f : EStateM ε σ β).run s) =
      x >>= fun a => outcome ((f a).run s) := by
  cases x <;> rfl

theorem outcome_bind {ε σ β : Type} (x : EStateM ε σ Unit) (f : Unit → EStateM ε σ β) (s : σ) :
    outcome ((x >>= f).run s) = outcome (x.run s) >>= fun m => outcome ((f ()).run m) := by
  simp only [Bind.bind, EStateM.bind, EStateM.run]
  cases x s <;> rfl

end NumberingPlan
