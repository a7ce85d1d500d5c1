import NumberingPlan.Proofs.Agreement

/-! Failed runs, taken apart: which step of a sequence ends it, what it leaves behind, and which
kinds of faults a run can end in, by one rule for each way to combine runs. -/
namespace NumberingPlan

theorem bind_eq_error {ε α β : Type} {x : Except ε α} {f : α → Except ε β} {e : ε} :
    x >>= f = .error e ↔ x = .error e ∨ ∃ a, x = .ok a ∧ f a = .error e := by
  cases x with
  | error d => simp [bind, Except.bind]
  | ok a => simp [bind, Except.bind]

theorem map_eq_error {ε α β : Type} {x : Except ε α} {f : α → β} {e : ε} :
    x.map f = .error e ↔ x = .error e := by
  cases x <;> simp [Except.map]

theorem mapError_eq_error {ε ε' α : Type} {x : Except ε α} {f : ε → ε'} {e : ε'} :
    x.mapError f = .error e ↔ ∃ d, x = .error d ∧ f d = e := by
  cases x <;> simp [Except.mapError]

theorem mapM_cons_eq_error {ε α β : Type} {f : α → Except ε β} {x : α} {xs : List α} {e : ε} :
    (x :: xs).mapM f = .error e ↔
      f x = .error e ∨ (∃ y, f x = .ok y) ∧ xs.mapM f = .error e := by
  simp [List.mapM_cons, bind_eq_error, pure, Except.pure]

/-- A list with a head is split at its head or behind it. -/
theorem exists_split_cons {α : Type} {x : α} {xs : List α} {P : List α → α → Prop} :
    (∃ before y after, x :: xs = before ++ y :: after ∧ P before y) ↔
      P [] x ∨ ∃ before y after, xs = before ++ y :: after ∧ P (x :: before) y := by
  constructor
  · intro h
    obtain ⟨before, y, after, hsplit, hP⟩ := h
    cases before with
    | nil =>
      obtain ⟨rfl, -⟩ := List.cons.inj hsplit
      exact .inl hP
    | cons z zs =>
      obtain ⟨rfl, rfl⟩ := List.cons.inj hsplit
      exact .inr ⟨zs, y, after, rfl, hP⟩
  · intro h
    rcases h with hP | ⟨before, y, after, rfl, hP⟩
    · exact ⟨[], x, xs, rfl, hP⟩
    · exact ⟨x :: before, y, after, rfl, hP⟩

/-- The first element without a result decides, whatever comes after it. -/
theorem mapM_eq_error {ε α β : Type} {f : α → Except ε β} {xs : List α} {e : ε} :
    xs.mapM f = .error e ↔
      ∃ before x after, xs = before ++ x :: after ∧ (∀ y ∈ before, ∃ z, f y = .ok z) ∧
        f x = .error e := by
  induction xs with
  | nil => simp [pure, Except.pure]
  | cons x xs ih =>
    rw [mapM_cons_eq_error, ih, exists_split_cons]
    constructor
    · intro h
      rcases h with hx | ⟨hx, before, y, after, hsplit, hbefore, hy⟩
      · exact .inl ⟨by simp, hx⟩
      · exact .inr ⟨before, y, after, hsplit, List.forall_mem_cons.2 ⟨hx, hbefore⟩, hy⟩
    · intro h
      rcases h with ⟨-, hx⟩ | ⟨before, y, after, hsplit, hbefore, hy⟩
      · exact .inl hx
      · obtain ⟨hx, hbefore⟩ := List.forall_mem_cons.1 hbefore
        exact .inr ⟨hx, before, y, after, hsplit, hbefore, hy⟩

def FailsOnly {ε α : Type} (P : ε → Prop) (x : Except ε α) : Prop := ∀ e, x = .error e → P e

namespace FailsOnly

variable {ε α β : Type} {P : ε → Prop}

theorem ok (a : α) : FailsOnly P (.ok a : Except ε α) := fun _ h => nomatch h

theorem error {e : ε} (h : P e) : FailsOnly P (.error e : Except ε α) := by
  intro d hd
  cases hd
  exact h

/-- What is known of the first result may be used of the second run. -/
theorem bind {x : Except ε α} {f : α → Except ε β} (h : FailsOnly P x)
    (hf : ∀ a, x = .ok a → FailsOnly P (f a)) : FailsOnly P (x >>= f) := by
  intro e he
  rcases bind_eq_error.1 he with hx | ⟨a, ha, hfa⟩
  · exact h e hx
  · exact hf a ha e hfa

theorem map {x : Except ε α} {f : α → β} (h : FailsOnly P x) : FailsOnly P (x.map f) := by
  cases x with
  | error e => exact error (h e rfl)
  | ok a => exact ok (f a)

theorem mapError {ε' : Type} {Q : ε' → Prop} {f : ε → ε'} {x : Except ε α} (h : FailsOnly P x)
    (hf : ∀ e, P e → Q (f e)) : FailsOnly Q (x.mapError f) := by
  intro e he
  obtain ⟨d, hd, rfl⟩ := mapError_eq_error.1 he
  exact hf d (h d hd)

theorem mapM {f : α → Except ε β} {xs : List α} (h : ∀ x ∈ xs, FailsOnly P (f x)) :
    FailsOnly P (xs.mapM f) := by
  intro e he
  obtain ⟨before, x, after, rfl, -, hx⟩ := mapM_eq_error.1 he
  exact h x (by simp) e hx

end FailsOnly

/-- How a run ends, whatever it leaves behind. -/
def verdict {ε σ α : Type} : EStateM.Result ε σ α → Except ε α
  | .ok a _ => .ok a
  | .error e _ => .error e

/-- What a run leaves behind, however it ends. -/
def remains {ε σ α : Type} : EStateM.Result ε σ α → σ
  | .ok _ s => s
  | .error _ s => s

section Runs

variable {ε σ α β : Type} {s s' : σ} {e : ε}

theorem result_eq_ok {x : EStateM.Result ε σ α} {a : α} :
    x = .ok a s ↔ verdict x = .ok a ∧ s = remains x := by
  cases x <;> simp [verdict, remains, eq_comm]

theorem result_eq_error {x : EStateM.Result ε σ α} :
    x = .error e s ↔ verdict x = .error e ∧ s = remains x := by
  cases x <;> simp [verdict, remains, eq_comm]

theorem verdict_bind (x : EStateM ε σ α) (f : α → EStateM ε σ β) (s : σ) :
    verdict ((x >>= f).run s) =
      verdict (x.run s) >>= fun a => verdict ((f a).run (remains (x.run s))) := by
  simp only [bind, EStateM.bind, EStateM.run]
  cases x s <;> rfl

theorem run_bind_eq_error {x : EStateM ε σ α} {f : α → EStateM ε σ β} :
    (x >>= f).run s = .error e s' ↔
      x.run s = .error e s' ∨ ∃ a m, x.run s = .ok a m ∧ (f a).run m = .error e s' := by
  simp only [bind, EStateM.bind, EStateM.run]
  cases x s <;> simp

theorem run_modify_eq_error {f : σ → σ} :
    (modify f : EStateM ε σ PUnit).run s = .error e s' ↔ False := by
  have hrun : (modify f : EStateM ε σ PUnit).run s = .ok ⟨⟩ (f s) := rfl
  simp [hrun]

theorem run_ofExcept_eq_error {x : Except ε α} :
    (MonadExcept.ofExcept x : EStateM ε σ α).run s = .error e s' ↔ x = .error e ∧ s' = s := by
  cases x with
  | error d =>
    have hrun : (MonadExcept.ofExcept (.error d) : EStateM ε σ α).run s = .error d s := rfl
    simp [hrun, eq_comm]
  | ok a =>
    have hrun : (MonadExcept.ofExcept (.ok a) : EStateM ε σ α).run s = .ok a s := rfl
    simp [hrun]

end Runs

end NumberingPlan
