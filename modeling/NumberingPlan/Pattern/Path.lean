import NumberingPlan.Pattern.Match

/-! What it means for a pattern to match: a path through the gaps of the text, each atom one step.
Main statement: `isMatch` decides whether there is such a path, wherever it starts and ends. -/
namespace NumberingPlan.Pattern

/-- So many steps of a relation in a row. -/
def Chain (P : Nat → Nat → Prop) : Nat → Nat → Nat → Prop
  | 0, i, j => i = j
  | k + 1, i, j => ∃ m, P i m ∧ Chain P k m j

/-- A path from gap `i` to gap `j`, for atoms that are steps of `R`. -/
def Tree.Path {α : Type} (R : α → Nat → Nat → Prop) : Tree α → Nat → Nat → Prop
  | empty, i, j => i = j
  | atom a, i, j => R a i j
  | cat s t, i, j => ∃ m, s.Path R i m ∧ t.Path R m j
  | alt s t, i, j => s.Path R i j ∨ t.Path R i j
  | rep t lo more, i, j => ∃ k, (∀ m ∈ more, k ≤ m) ∧ Chain (t.Path R) (lo + k) i j

def before? (text : List Char) (i : Nat) : Option Char := if i = 0 then none else text[i - 1]?

def Atom.Spans (text : List Char) : Atom → Nat → Nat → Prop
  | one s, i, j => j = i + 1 ∧ ∃ c, text[i]? = some c ∧ s.mem c = true
  | look l, i, j => i = j ∧ i ≤ text.length ∧ l.holds (before? text i) text[i]? = true

/-- The pattern matches the piece of the text between two gaps. -/
def Tree.Spans (t : Tree Atom) (text : List Char) (i j : Nat) : Prop := t.Path (Atom.Spans text) i j

theorem Chain.append {P : Nat → Nat → Prop} {a b i m j : Nat} (h : Chain P a i m)
    (h' : Chain P b m j) : Chain P (a + b) i j := by
  induction a generalizing i with
  | zero => cases h; simpa using h'
  | succ a ih =>
    obtain ⟨x, hx, hxm⟩ := h
    rw [Nat.succ_add]
    exact ⟨x, hx, ih hxm⟩

theorem chain_add {P : Nat → Nat → Prop} {a b i j : Nat} :
    Chain P (a + b) i j ↔ ∃ m, Chain P a i m ∧ Chain P b m j := by
  constructor
  · intro h
    induction a generalizing i with
    | zero => exact ⟨i, rfl, by simpa using h⟩
    | succ a ih =>
      rw [Nat.succ_add] at h
      obtain ⟨x, hx, h⟩ := h
      obtain ⟨m, hxm, hm⟩ := ih h
      exact ⟨m, ⟨x, hx, hxm⟩, hm⟩
  · intro h
    obtain ⟨m, h, h'⟩ := h
    exact h.append h'

/-- Steps that never go back can be dropped where they stand still. -/
theorem Chain.shorten {P : Nat → Nat → Prop} (mono : ∀ i j, P i j → i ≤ j) {k i j : Nat}
    (h : Chain P k i j) : i ≤ j ∧ ∃ k', k' ≤ k ∧ k' ≤ j - i ∧ Chain P k' i j := by
  induction k generalizing i with
  | zero => cases h; exact ⟨Nat.le_refl _, 0, by simp [Chain]⟩
  | succ k ih =>
    obtain ⟨m, hm, hj⟩ := h
    obtain ⟨hmj, k', hk, hk', hc⟩ := ih hj
    have him := mono i m hm
    rcases Nat.eq_or_lt_of_le him with rfl | hlt
    · exact ⟨hmj, k', by omega, hk', hc⟩
    · exact ⟨by omega, k' + 1, by omega, by omega, m, hm, hc⟩

theorem testBit_ofBits (bs : List Bool) (i : Nat) : (ofBits bs).testBit i = bs[i]?.getD false := by
  induction bs generalizing i with
  | nil => simp [ofBits]
  | cons b bs ih =>
    cases i with
    | zero => cases b <;> simp [ofBits, Nat.testBit_zero]
    | succ i =>
      have half : ofBits (b :: bs) / 2 = ofBits bs := by
        have := Bool.toNat_le b
        simp only [ofBits]
        omega
      rw [Nat.testBit_succ, half, List.getElem?_cons_succ]
      exact ih i

def Move.Spans : Move → Nat → Nat → Prop
  | advance mask, i, j => j = i + 1 ∧ mask.testBit i = true
  | stay mask, i, j => i = j ∧ mask.testBit i = true

theorem Move.testBit_apply (m : Move) (gaps j : Nat) :
    (m.apply gaps).testBit j = true ↔ ∃ i, gaps.testBit i = true ∧ m.Spans i j := by
  cases m with
  | advance mask =>
    simp only [apply, Spans, Nat.testBit_shiftLeft, Nat.testBit_and, Bool.and_eq_true,
      decide_eq_true_eq]
    constructor
    · intro h
      obtain ⟨h, hg, hm⟩ := h
      exact ⟨j - 1, hg, by omega, hm⟩
    · intro h
      obtain ⟨i, hg, rfl, hm⟩ := h
      simpa using ⟨hg, hm⟩
  | stay mask =>
    simp only [apply, Spans, Nat.testBit_and, Bool.and_eq_true]
    constructor
    · intro h
      obtain ⟨hg, hm⟩ := h
      exact ⟨j, hg, rfl, hm⟩
    · intro h
      obtain ⟨i, hg, rfl, hm⟩ := h
      exact ⟨hg, hm⟩

/-- Stopping early changes nothing. -/
theorem settle_succ (f : Nat → Nat) (k x : Nat) : settle f (k + 1) x = settle f k (f x) := by
  by_cases h : f x = x
  · have fixed : ∀ k, settle f k x = x := by
      intro k
      cases k with
      | zero => rfl
      | succ k => simp [settle, h]
    simp [settle, h, fixed]
  · simp [settle, h]

def Follows (f : Nat → Nat) (P : Nat → Nat → Prop) : Prop :=
  ∀ gaps j, (f gaps).testBit j = true ↔ ∃ i, gaps.testBit i = true ∧ P i j

theorem Follows.settle {f : Nat → Nat} {P : Nat → Nat → Prop} (h : Follows f P) (k : Nat) :
    Follows (Pattern.settle f k) (Chain P k) := by
  induction k with
  | zero => intro gaps j; simp [Pattern.settle, Chain]
  | succ k ih =>
    intro gaps j
    rw [settle_succ, ih]
    constructor
    · intro h
      obtain ⟨m, hm, hj⟩ := h
      obtain ⟨i, hi, him⟩ := (h gaps m).1 hm
      exact ⟨i, hi, m, him, hj⟩
    · intro h
      obtain ⟨i, hi, m, him, hj⟩ := h
      exact ⟨m, (h gaps m).2 ⟨i, hi, him⟩, hj⟩

theorem Follows.settle_or {f : Nat → Nat} {P : Nat → Nat → Prop} (h : Follows f P) (k : Nat) :
    Follows (Pattern.settle (fun g => g ||| f g) k) fun i j => ∃ m, m ≤ k ∧ Chain P m i j := by
  have step : Follows (fun g => g ||| f g) fun i j => i = j ∨ P i j := by
    intro gaps j
    simp only [Nat.testBit_or, Bool.or_eq_true, h gaps j]
    constructor
    · intro h
      rcases h with hj | ⟨i, hi, hij⟩
      · exact ⟨j, hj, .inl rfl⟩
      · exact ⟨i, hi, .inr hij⟩
    · intro h
      rcases h with ⟨i, hi, rfl | hij⟩
      · exact .inl hi
      · exact .inr ⟨i, hi, hij⟩
  have chains : ∀ k i j, Chain (fun i j => i = j ∨ P i j) k i j ↔ ∃ m, m ≤ k ∧ Chain P m i j := by
    intro k
    induction k with
    | zero =>
      intro i j
      simp [Chain]
    | succ k ih =>
      intro i j
      constructor
      · intro h
        rcases h with ⟨m, rfl | him, hj⟩
        · obtain ⟨a, ha, hc⟩ := (ih i j).1 hj
          exact ⟨a, by omega, hc⟩
        · obtain ⟨a, ha, hc⟩ := (ih m j).1 hj
          exact ⟨a + 1, by omega, m, him, hc⟩
      · intro h
        obtain ⟨a, ha, hc⟩ := h
        cases a with
        | zero => exact ⟨i, .inl rfl, (ih i j).2 ⟨0, by omega, hc⟩⟩
        | succ a =>
          obtain ⟨m, him, hj⟩ := hc
          exact ⟨m, .inr him, (ih m j).2 ⟨a, by omega, hj⟩⟩
  intro gaps j
  rw [step.settle k gaps j]
  exact exists_congr fun i => and_congr_right fun _ => chains k i j

namespace Tree

def Forall {α : Type} (p : α → Prop) : Tree α → Prop
  | empty => True
  | atom a => p a
  | cat s t | alt s t => s.Forall p ∧ t.Forall p
  | rep t _ _ => t.Forall p

theorem Path.mono {α : Type} {R : α → Nat → Nat → Prop} {n : Nat} {t : Tree α}
    (ht : t.Forall fun a => ∀ i j, R a i j → i ≤ j ∧ j ≤ n) {i j : Nat} (h : t.Path R i j) :
    i ≤ j ∧ (i = j ∨ j ≤ n) := by
  induction t generalizing i j with
  | empty => exact ⟨Nat.le_of_eq h, .inl h⟩
  | atom a => exact ⟨(ht i j h).1, .inr (ht i j h).2⟩
  | cat s t ihs iht =>
    obtain ⟨m, hs, hj⟩ := h
    have h1 := ihs ht.1 hs
    have h2 := iht ht.2 hj
    omega
  | alt s t ihs iht =>
    rcases h with h | h
    · exact ihs ht.1 h
    · exact iht ht.2 h
  | rep t lo more ih =>
    obtain ⟨k, _, hc⟩ := h
    have chain : ∀ k i, Chain (t.Path R) k i j → i ≤ j ∧ (i = j ∨ j ≤ n) := by
      intro k
      induction k with
      | zero => exact fun i h => ⟨Nat.le_of_eq h, .inl h⟩
      | succ k ihk =>
        rintro i ⟨m, him, hmj⟩
        have h1 := ih ht him
        have h2 := ihk m hmj
        omega
    exact chain _ _ hc

theorem follows_reach {n : Nat} {t : Tree Move}
    (ht : t.Forall fun m => ∀ i j, m.Spans i j → i ≤ j ∧ j ≤ n) :
    Follows (t.reach n) (t.Path Move.Spans) := by
  induction t with
  | empty => intro gaps j; simp [reach, Path]
  | atom m => exact m.testBit_apply
  | cat s t ihs iht =>
    intro gaps j
    simp only [reach, Path, iht ht.2 _ j, ihs ht.1 gaps]
    constructor
    · intro h
      obtain ⟨m, ⟨i, hi, him⟩, hmj⟩ := h
      exact ⟨i, hi, m, him, hmj⟩
    · intro h
      obtain ⟨i, hi, m, him, hmj⟩ := h
      exact ⟨m, ⟨i, hi, him⟩, hmj⟩
  | alt s t ihs iht =>
    intro gaps j
    simp only [reach, Path, Nat.testBit_or, Bool.or_eq_true, ihs ht.1 gaps j, iht ht.2 gaps j]
    constructor
    · intro h
      rcases h with ⟨i, hi, h⟩ | ⟨i, hi, h⟩
      · exact ⟨i, hi, .inl h⟩
      · exact ⟨i, hi, .inr h⟩
    · intro h
      rcases h with ⟨i, hi, h | h⟩
      · exact .inl ⟨i, hi, h⟩
      · exact .inr ⟨i, hi, h⟩
  | rep t lo more ih =>
    have hf := ih ht
    intro gaps j
    simp only [reach, hf.settle_or (more.getD n) _ j, hf.settle lo gaps, Path]
    constructor
    · intro h
      obtain ⟨m, ⟨i, hi, him⟩, k, hk, hmj⟩ := h
      refine ⟨i, hi, k, ?_, him.append hmj⟩
      intro x hx
      cases more with
      | none => simp at hx
      | some y =>
        simp only [Option.mem_def, Option.some.injEq] at hx
        simpa [← hx] using hk
    · intro h
      obtain ⟨i, hi, k, hk, hc⟩ := h
      obtain ⟨m, him, hmj⟩ := chain_add.1 hc
      cases more with
      | some y => exact ⟨m, ⟨i, hi, him⟩, k, hk y rfl, hmj⟩
      | none =>
        have ht' : t.Forall fun m => ∀ i j, m.Spans i j → i ≤ j ∧ j ≤ n := ht
        obtain ⟨hle, k', _, hk', hc'⟩ := hmj.shorten fun i j h => (Path.mono ht' h).1
        have hj : m = j ∨ j ≤ n :=
          (Path.mono (t := t.rep 0 none) ht' ⟨k', by simp, by simpa using hc'⟩).2
        exact ⟨m, ⟨i, hi, him⟩, k', by simp only [Option.getD_none]; omega, hc'⟩

theorem path_map {α β : Type} (f : α → β) (R : β → Nat → Nat → Prop) (t : Tree α) :
    (t.map f).Path R = t.Path fun a => R (f a) := by
  induction t with
  | empty => rfl
  | atom a => rfl
  | cat s t ihs iht => funext i j; simp only [map, Path, ihs, iht]
  | alt s t ihs iht => funext i j; simp only [map, Path, ihs, iht]
  | rep t lo more ih => funext i j; simp only [map, Path, ih]

theorem forall_map {α β : Type} (f : α → β) {p : β → Prop} (h : ∀ a, p (f a)) (t : Tree α) :
    (t.map f).Forall p := by
  induction t with
  | empty => trivial
  | atom a => exact h a
  | cat s t ihs iht | alt s t ihs iht => exact ⟨ihs, iht⟩
  | rep t lo more ih => exact ih

end Tree

theorem neighbours_getElem? (text : List Char) (before : Option Char) (i : Nat) :
    (neighbours before text)[i]? =
      if i ≤ text.length then some (if i = 0 then before else text[i - 1]?, text[i]?)
      else none := by
  induction text generalizing before i with
  | nil => cases i <;> simp [neighbours]
  | cons c cs ih =>
    cases i with
    | zero => simp [neighbours]
    | succ i =>
      simp only [neighbours, List.getElem?_cons_succ, ih, List.length_cons,
        Nat.add_le_add_iff_right]
      cases i <;> simp

theorem Atom.spans_on (text : List Char) (a : Atom) : (a.on text).Spans = a.Spans text := by
  funext i j
  cases a with
  | one s =>
    simp only [on, Move.Spans, Spans, testBit_ofBits, List.getElem?_map]
    cases text[i]? <;> simp
  | look l =>
    simp only [on, Move.Spans, Spans, testBit_ofBits, List.getElem?_map, neighbours_getElem?]
    by_cases h : i ≤ text.length <;> simp [h, before?]

theorem Atom.Spans.le {text : List Char} {a : Atom} {i j : Nat} (h : a.Spans text i j) :
    i ≤ j ∧ j ≤ text.length := by
  cases a with
  | one s =>
    obtain ⟨rfl, c, hc, _⟩ := h
    exact ⟨by omega, (List.getElem?_eq_some_iff.1 hc).1⟩
  | look l =>
    obtain ⟨rfl, hl, _⟩ := h
    exact ⟨Nat.le_refl _, hl⟩

/-- A pattern is found in a text exactly if it matches the piece between some two gaps of it. -/
theorem Tree.isMatch_iff (t : Tree Atom) (text : List Char) :
    t.isMatch text = true ↔ ∃ i j, i ≤ text.length ∧ t.Spans text i j := by
  have follows : Follows ((t.map (Atom.on text)).reach text.length) (t.Spans text) := by
    have h := follows_reach (n := text.length) (t := t.map (Atom.on text))
      (forall_map _ (fun a i j h => Atom.Spans.le (by rwa [Atom.spans_on] at h)) t)
    rw [path_map] at h
    simp only [Atom.spans_on] at h
    exact h
  have nonzero : ∀ x : Nat, x ≠ 0 ↔ ∃ j, x.testBit j = true := fun x =>
    ⟨Nat.exists_testBit_of_ne_zero, fun ⟨j, hj⟩ h => by simp [h] at hj⟩
  simp only [isMatch, decide_eq_true_eq, ne_eq]
  rw [← ne_eq, nonzero]
  constructor
  · intro h
    obtain ⟨j, hj⟩ := h
    obtain ⟨i, hi, hs⟩ := (follows _ j).1 hj
    rw [Nat.one_shiftLeft, Nat.testBit_two_pow_sub_one] at hi
    exact ⟨i, j, by simpa [Nat.lt_succ_iff] using hi, hs⟩
  · intro h
    obtain ⟨i, j, hi, hs⟩ := h
    refine ⟨j, (follows _ j).2 ⟨i, ?_, hs⟩⟩
    rw [Nat.one_shiftLeft, Nat.testBit_two_pow_sub_one]
    simpa [Nat.lt_succ_iff] using hi

end NumberingPlan.Pattern
