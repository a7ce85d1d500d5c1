import NumberingPlan.Pattern.Path

/-! Matches in a text that goes on. What takes characters is not concerned with what follows them;
only a look can be. Main statement: `Tree.Spans.append`. -/
namespace NumberingPlan.Pattern

theorem Chain.imp {P Q : Nat → Nat → Prop} (hPQ : ∀ i j, P i j → Q i j) {k i j : Nat}
    (h : Chain P k i j) : Chain Q k i j := by
  induction k generalizing i with
  | zero => exact h
  | succ k ih =>
    obtain ⟨m, him, hmj⟩ := h
    exact ⟨m, hPQ i m him, ih hmj⟩

namespace Tree

instance decidableForall {α : Type} (p : α → Prop) [DecidablePred p] :
    (t : Tree α) → Decidable (t.Forall p)
  | empty => .isTrue trivial
  | atom a => inferInstanceAs (Decidable (p a))
  | cat s t | alt s t =>
    have := decidableForall p s
    have := decidableForall p t
    inferInstanceAs (Decidable (s.Forall p ∧ t.Forall p))
  | rep t _ _ => decidableForall p t

theorem Forall.imp {α : Type} {p q : α → Prop} (hpq : ∀ a, p a → q a) {t : Tree α}
    (h : t.Forall p) : t.Forall q := by
  induction t with
  | empty => trivial
  | atom a => exact hpq a h
  | cat s t ihs iht | alt s t ihs iht => exact ⟨ihs h.1, iht h.2⟩
  | rep t lo more ih => exact ih h

/-- A path stays one where every atom keeps its steps. -/
theorem Path.imp {α : Type} {R S : α → Nat → Nat → Prop} {t : Tree α}
    (ht : t.Forall fun a => ∀ i j, R a i j → S a i j) {i j : Nat} (h : t.Path R i j) :
    t.Path S i j := by
  induction t generalizing i j with
  | empty => exact h
  | atom a => exact ht i j h
  | cat s t ihs iht =>
    obtain ⟨m, hs, htm⟩ := h
    exact ⟨m, ihs ht.1 hs, iht ht.2 htm⟩
  | alt s t ihs iht =>
    rcases h with hs | htm
    · exact .inl (ihs ht.1 hs)
    · exact .inr (iht ht.2 htm)
  | rep t lo more ih =>
    obtain ⟨k, hk, hchain⟩ := h
    exact ⟨k, hk, hchain.imp fun _ _ => ih ht⟩

end Tree

def Atom.isLook : Atom → Bool
  | one _ => false
  | look _ => true

/-- A pattern that looks at nothing around a gap: every atom takes a character. -/
def Tree.LookFree (t : Tree Atom) : Prop := t.Forall fun a => a.isLook = false

instance (t : Tree Atom) : Decidable t.LookFree :=
  inferInstanceAs (Decidable (t.Forall fun a => a.isLook = false))

theorem Atom.Spans.append {a : Atom} (ha : a.isLook = false) {text : List Char} {i j : Nat}
    (h : a.Spans text i j) (more : List Char) : a.Spans (text ++ more) i j := by
  cases a with
  | one s =>
    obtain ⟨hj, c, hc, hmem⟩ := h
    have hlt : i < text.length := (List.getElem?_eq_some_iff.1 hc).1
    exact ⟨hj, c, by rw [List.getElem?_append_left hlt, hc], hmem⟩
  | look l => cases ha

/-- Without looks a match is a match in any longer text as well. -/
theorem Tree.Spans.append {t : Tree Atom} (ht : t.LookFree) {text : List Char} {i j : Nat}
    (h : t.Spans text i j) (more : List Char) : t.Spans (text ++ more) i j :=
  Path.imp (Forall.imp (fun _ ha _ _ hspans => hspans.append ha more) ht) h

end NumberingPlan.Pattern
