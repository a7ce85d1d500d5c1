import Mathlib.Data.List.Forall2

/-! Successful runs, taken apart: what has to succeed for a whole to succeed, and in which state. -/
namespace NumberingPlan

theorem bind_eq_ok {ε α β : Type} {x : Except ε α} {f : α → Except ε β} {b : β} :
    x >>= f = .ok b ↔ ∃ a, x = .ok a ∧ f a = .ok b := by
  cases x with
  | error e => simp [bind, Except.bind]
  | ok a => simp [bind, Except.bind]

theorem pure_eq_ok {ε α : Type} {a b : α} : (pure a : Except ε α) = .ok b ↔ a = b := by
  simp [pure, Except.pure]

theorem map_eq_ok {ε α β : Type} {x : Except ε α} {f : α → β} {b : β} :
    x.map f = .ok b ↔ ∃ a, x = .ok a ∧ f a = b := by
  cases x <;> simp [Except.map]

theorem run_bind_eq_ok {ε σ α β : Type} {x : EStateM ε σ α} {f : α → EStateM ε σ β} {s s' : σ}
    {b : β} :
    (x >>= f).run s = .ok b s' ↔ ∃ a m, x.run s = .ok a m ∧ (f a).run m = .ok b s' := by
  simp only [bind, EStateM.bind, EStateM.run]
  cases h : x s with
  | error e m => simp
  | ok a m =>
    constructor
    · exact fun hf => ⟨a, m, rfl, hf⟩
    · intro h
      obtain ⟨_, _, ⟨rfl, rfl⟩, hf⟩ := h
      exact hf

theorem run_pure_eq_ok {ε σ α : Type} {a b : α} {s s' : σ} :
    (pure a : EStateM ε σ α).run s = .ok b s' ↔ a = b ∧ s = s' := by
  simp [pure, EStateM.pure, EStateM.run]

theorem run_ofExcept_eq_ok {ε σ α : Type} {x : Except ε α} {s s' : σ} {a : α} :
    (MonadExcept.ofExcept x : EStateM ε σ α).run s = .ok a s' ↔ x = .ok a ∧ s = s' := by
  cases x with
  | error e =>
    have hrun : (MonadExcept.ofExcept (.error e) : EStateM ε σ α).run s = .error e s := rfl
    rw [hrun]
    simp
  | ok b =>
    have hrun : (MonadExcept.ofExcept (.ok b) : EStateM ε σ α).run s = .ok b s := rfl
    rw [hrun]
    simp

theorem run_modify_eq_ok {ε σ : Type} {f : σ → σ} {s s' : σ} {u : PUnit} :
    (modify f : EStateM ε σ PUnit).run s = .ok u s' ↔ f s = s' := by
  have hrun : (modify f : EStateM ε σ PUnit).run s = .ok ⟨⟩ (f s) := rfl
  rw [hrun]
  simp

/-- Each element is turned into one result, in order. -/
theorem mapM_eq_ok {ε α β : Type} {f : α → Except ε β} {xs : List α} {ys : List β} :
    xs.mapM f = .ok ys ↔ List.Forall₂ (fun x y => f x = .ok y) xs ys := by
  induction xs generalizing ys with
  | nil =>
    rw [List.mapM_nil, pure_eq_ok, List.forall₂_nil_left_iff]
    exact eq_comm
  | cons x xs ih =>
    simp only [List.mapM_cons, bind_eq_ok, pure_eq_ok, List.forall₂_cons_left_iff, ih]
    constructor
    · intro h
      obtain ⟨y, hy, zs, hzs, rfl⟩ := h
      exact ⟨y, zs, hy, hzs, rfl⟩
    · intro h
      obtain ⟨y, zs, hy, hzs, rfl⟩ := h
      exact ⟨y, hy, zs, hzs, rfl⟩

theorem exists_of_mem_mapM {ε α β : Type} {f : α → Except ε β} {xs : List α} {ys : List β} {y : β}
    (h : xs.mapM f = .ok ys) (hy : y ∈ ys) : ∃ x ∈ xs, f x = .ok y := by
  have hf := mapM_eq_ok.1 h
  clear h
  induction hf with
  | nil => simp at hy
  | cons hx _ ih =>
    rcases List.mem_cons.1 hy with rfl | hy
    · exact ⟨_, List.mem_cons_self, hx⟩
    · obtain ⟨x, hmem, hx⟩ := ih hy
      exact ⟨x, List.mem_cons_of_mem _ hmem, hx⟩

theorem exists_result_of_mem {ε α β : Type} {f : α → Except ε β} {xs : List α} {ys : List β}
    {x : α} (h : xs.mapM f = .ok ys) (hx : x ∈ xs) : ∃ y, f x = .ok y := by
  have hf := mapM_eq_ok.1 h
  clear h
  induction hf with
  | nil => simp at hx
  | cons hy _ ih =>
    rcases List.mem_cons.1 hx with rfl | hx
    · exact ⟨_, hy⟩
    · exact ih hx

end NumberingPlan
