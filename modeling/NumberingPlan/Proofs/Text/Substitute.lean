import Mathlib.Data.List.Infix
import NumberingPlan.Text.Substitute

/-! Replacing the leftmost occurrences of two pieces of text. Where no piece can begin inside
anything else that is put into the text or taken out of it, the two replacements do not see each
other. Main statement: `filled_iff`; they commute by `replaceFirst_comm`. -/
namespace NumberingPlan.Text

variable {x x' y y' text before after a b s : List Char}

/-- Of the places where `piece` stands in a text, the leftmost is between `before` and `after`. -/
structure Leftmost (piece text before after : List Char) : Prop where
  split : text = before ++ piece ++ after
  least : ∀ before' after', text = before' ++ piece ++ after' → before.length ≤ before'.length

namespace Leftmost

theorem unique (h : Leftmost x text a b) (h' : Leftmost x text before after) :
    before = a ∧ after = b := by
  have hlength : before.length = a.length :=
    Nat.le_antisymm (h'.least a b h.split) (h.least before after h'.split)
  have hsplit : before ++ (x ++ after) = a ++ (x ++ b) := by
    rw [← List.append_assoc, ← List.append_assoc, ← h.split, ← h'.split]
  obtain ⟨hbefore, hrest⟩ := List.append_inj hsplit hlength
  exact ⟨hbefore, List.append_cancel_left hrest⟩

theorem isInfix (h : Leftmost x text before after) : x <:+: text := ⟨before, after, h.split.symm⟩

theorem not_isInfix (h : Leftmost x text before after) (hx : x ≠ []) : ¬ x <:+: before := by
  intro hin
  obtain ⟨a, b, rfl⟩ := hin
  have hle := h.least a (b ++ x ++ after) (by rw [h.split]; simp)
  have hpos := List.length_pos_iff.2 hx
  simp only [List.length_append] at hle
  omega

theorem drop (h : Leftmost x (s ++ text) (s ++ before) after) : Leftmost x text before after where
  split := by simpa using h.split
  least a b hab := by
    have hle := h.least (s ++ a) b (by rw [hab]; simp)
    simpa using hle

theorem take (h : Leftmost x (text ++ s) before (after ++ s)) : Leftmost x text before after where
  split := by
    have hsplit : text ++ s = before ++ x ++ after ++ s := by simpa using h.split
    exact List.append_cancel_right hsplit
  least a b hab := h.least a (b ++ s) (by rw [hab]; simp)

end Leftmost

/-- Either nothing is replaced, or the leftmost occurrence is. -/
theorem replaceFirst_cases (old new text : List Char) :
    (¬ old <:+: text ∧ replaceFirst old new text = text) ∨
      ∃ before after, Leftmost old text before after ∧
        replaceFirst old new text = before ++ new ++ after := by
  induction text with
  | nil =>
    cases old with
    | nil => exact .inr ⟨[], [], ⟨rfl, fun _ _ _ => Nat.zero_le _⟩, by simp [replaceFirst]⟩
    | cons c cs => exact .inl ⟨by simp, rfl⟩
  | cons c cs ih =>
    by_cases hp : old <+: c :: cs
    · obtain ⟨rest, hrest⟩ := hp
      refine .inr ⟨[], rest, ⟨hrest.symm, fun _ _ _ => Nat.zero_le _⟩, ?_⟩
      have hfound : old.isPrefixOf (c :: cs) = true := List.isPrefixOf_iff_prefix.2 ⟨rest, hrest⟩
      rw [replaceFirst, if_pos hfound, ← hrest, List.drop_left, List.nil_append]
    · have hskip : replaceFirst old new (c :: cs) = c :: replaceFirst old new cs := by
        have hnot : ¬ old.isPrefixOf (c :: cs) = true := fun h => hp (List.isPrefixOf_iff_prefix.1 h)
        rw [replaceFirst, if_neg hnot]
      rw [hskip]
      rcases ih with ⟨hno, hsame⟩ | ⟨before, after, hleft, hnew⟩
      · refine .inl ⟨fun hin => ?_, by rw [hsame]⟩
        exact (List.infix_cons_iff.1 hin).elim hp hno
      · refine .inr ⟨c :: before, after, ⟨by simp [hleft.split], fun a b hab => ?_⟩, by simp [hnew]⟩
        cases a with
        | nil => exact absurd ⟨b, by simpa using hab.symm⟩ hp
        | cons d a =>
          have htail : cs = a ++ old ++ b := by simpa using (List.cons.inj hab).2
          exact Nat.succ_le_succ (hleft.least a b htail)

theorem replaceFirst_eq_self (h : ¬ x <:+: text) : replaceFirst x x' text = text := by
  rcases replaceFirst_cases x x' text with ⟨-, hsame⟩ | ⟨before, after, hleft, -⟩
  · exact hsame
  · exact absurd hleft.isInfix h

theorem Leftmost.replaceFirst_eq (h : Leftmost x text before after) :
    replaceFirst x x' text = before ++ x' ++ after := by
  rcases replaceFirst_cases x x' text with ⟨hno, -⟩ | ⟨a, b, hleft, hnew⟩
  · exact absurd h.isInfix hno
  · obtain ⟨rfl, rfl⟩ := hleft.unique h
    exact hnew

theorem exists_leftmost (h : x <:+: text) : ∃ before after, Leftmost x text before after := by
  rcases replaceFirst_cases x [] text with ⟨hno, -⟩ | ⟨before, after, hleft, -⟩
  · exact absurd h hno
  · exact ⟨before, after, hleft⟩

def BeginsIn (y x : List Char) : Prop := ∃ z ∈ x.tails, z ≠ [] ∧ (z <+: y ∨ y <+: z)

/-- Neither text can begin inside the other, so that nowhere do the two overlap. -/
def Apart (x y : List Char) : Prop := ¬ BeginsIn y x ∧ ¬ BeginsIn x y

instance (x y : List Char) : Decidable (BeginsIn x y) :=
  inferInstanceAs (Decidable (∃ z ∈ y.tails, z ≠ [] ∧ (z <+: x ∨ x <+: z)))

instance (x y : List Char) : Decidable (Apart x y) :=
  inferInstanceAs (Decidable (¬ BeginsIn y x ∧ ¬ BeginsIn x y))

theorem not_beginsIn_of_disjoint (hy : y ≠ []) (h : ∀ c ∈ x, c ∉ y) : ¬ BeginsIn y x := by
  intro hin
  obtain ⟨z, hz, hne, hzy | hyz⟩ := hin
  · have hmem := List.head_mem hne
    exact h _ (((List.mem_tails _ _).1 hz).subset hmem) (hzy.subset hmem)
  · have hmem := List.head_mem hy
    exact h _ (((List.mem_tails _ _).1 hz).subset (hyz.subset hmem)) hmem

theorem apart_of_disjoint (hx : x ≠ []) (hy : y ≠ []) (h : ∀ c ∈ x, c ∉ y) : Apart x y :=
  ⟨not_beginsIn_of_disjoint hy h, not_beginsIn_of_disjoint hx fun c hy hx => h c hx hy⟩

/-- A `y` behind the beginning of an `x` is behind all of it. -/
theorem exists_of_not_beginsIn (h : ¬ BeginsIn y x) (e : x ++ b = s ++ (y ++ after)) :
    ∃ m, s = x ++ m ∧ b = m ++ (y ++ after) := by
  rcases List.append_eq_append_iff.1 e with ⟨m, hs, hb⟩ | ⟨z, hx, hrest⟩
  · exact ⟨m, hs, hb⟩
  · -- what `x` still has when the `y` begins
    have hz : z = [] := by
      by_contra hne
      have hcompare : z <+: y ∨ y <+: z :=
        List.prefix_or_prefix_of_prefix ⟨b, hrest.symm⟩ ⟨after, rfl⟩
      exact h ⟨z, (List.mem_tails _ _).2 ⟨s, hx.symm⟩, hne, hcompare⟩
    subst hz
    exact ⟨[], by simpa using hx.symm, by simpa using hrest.symm⟩

/-- Of two texts that keep apart, one stands before the other. -/
theorem Apart.before_or_after (h : Apart x y) (e : a ++ x ++ b = before ++ y ++ after) :
    (∃ m, a = before ++ y ++ m ∧ after = m ++ x ++ b) ∨
      ∃ m, before = a ++ x ++ m ∧ b = m ++ y ++ after := by
  have e' : a ++ (x ++ b) = before ++ (y ++ after) := by simpa using e
  rcases List.append_eq_append_iff.1 e' with ⟨s, hbefore, hs⟩ | ⟨s, ha, hs⟩
  · obtain ⟨m, rfl, hb⟩ := exists_of_not_beginsIn h.1 hs
    exact .inr ⟨m, by simpa using hbefore, by simpa using hb⟩
  · obtain ⟨m, rfl, hafter⟩ := exists_of_not_beginsIn h.2 hs
    exact .inl ⟨m, by simpa using ha, by simpa using hafter⟩

namespace Apart

theorem not_isInfix (h : Apart x y) (ha : ¬ y <:+: a) (hb : ¬ y <:+: b) :
    ¬ y <:+: a ++ x ++ b := by
  intro hin
  obtain ⟨before, after, e⟩ := hin
  rcases h.before_or_after e.symm with ⟨m, hm, -⟩ | ⟨m, -, hm⟩
  · exact ha ⟨before, m, hm.symm⟩
  · exact hb ⟨m, after, hm.symm⟩

theorem leftmost_before (h : Apart x y) (ha : Leftmost y a before after) :
    Leftmost y (a ++ x ++ b) before (after ++ x ++ b) where
  split := by simp [ha.split]
  least c d e := by
    rcases h.before_or_after e with ⟨m, hm, -⟩ | ⟨m, rfl, -⟩
    · exact ha.least c m hm
    · have hlength := congrArg List.length ha.split
      simp only [List.length_append] at hlength ⊢
      omega

theorem leftmost_after (h : Apart x y) (ha : ¬ y <:+: a) (hb : Leftmost y b before after) :
    Leftmost y (a ++ x ++ b) (a ++ x ++ before) after where
  split := by simp [hb.split]
  least c d e := by
    rcases h.before_or_after e with ⟨m, hm, -⟩ | ⟨m, rfl, hm⟩
    · exact absurd ⟨c, m, hm.symm⟩ ha
    · have hle := hb.least m d hm
      simp only [List.length_append]
      omega

end Apart

/-- A text in which the leftmost `x` and the leftmost `y` have given way to `x'` and `y'`, each
where it stands in the text as it was, and in which all else is kept. -/
inductive Filled (x x' y y' text : List Char) : List Char → Prop
  | neither (hx : ¬ x <:+: text) (hy : ¬ y <:+: text) : Filled x x' y y' text text
  | onlyLeft {a b : List Char} (hx : Leftmost x text a b) (hy : ¬ y <:+: text) :
    Filled x x' y y' text (a ++ x' ++ b)
  | onlyRight {a b : List Char} (hx : ¬ x <:+: text) (hy : Leftmost y text a b) :
    Filled x x' y y' text (a ++ y' ++ b)
  | leftFirst {a m b : List Char} (hx : Leftmost x text a (m ++ y ++ b))
    (hy : Leftmost y text (a ++ x ++ m) b) : Filled x x' y y' text (a ++ x' ++ m ++ y' ++ b)
  | rightFirst {a m b : List Char} (hy : Leftmost y text a (m ++ x ++ b))
    (hx : Leftmost x text (a ++ y ++ m) b) : Filled x x' y y' text (a ++ y' ++ m ++ x' ++ b)

theorem Filled.symm (h : Filled x x' y y' text s) : Filled y y' x x' text s := by
  cases h with
  | neither hx hy => exact .neither hy hx
  | onlyLeft hx hy => exact .onlyRight hy hx
  | onlyRight hx hy => exact .onlyLeft hy hx
  | leftFirst hx hy => exact .rightFirst hx hy
  | rightFirst hy hx => exact .leftFirst hy hx

theorem exists_filled (h : Apart x y) (x' y' text : List Char) :
    ∃ s, Filled x x' y y' text s := by
  by_cases hx : x <:+: text
  · obtain ⟨a, b, hleft⟩ := exists_leftmost hx
    obtain rfl := hleft.split
    by_cases ha : y <:+: a
    · obtain ⟨c, d, hy⟩ := exists_leftmost ha
      obtain rfl := hy.split
      exact ⟨_, .rightFirst (h.leftmost_before hy) hleft⟩
    · by_cases hb : y <:+: b
      · obtain ⟨c, d, hy⟩ := exists_leftmost hb
        obtain rfl := hy.split
        exact ⟨_, .leftFirst hleft (h.leftmost_after ha hy)⟩
      · exact ⟨_, .onlyLeft hleft (h.not_isInfix ha hb)⟩
  · by_cases hy : y <:+: text
    · obtain ⟨a, b, hright⟩ := exists_leftmost hy
      exact ⟨_, .onlyRight hx hright⟩
    · exact ⟨_, .neither hx hy⟩

/-- What is put in for the first piece neither makes nor hides an occurrence of the second. -/
theorem Filled.eq_replaceFirst (h : Filled x x' y y' text s) (hy : y ≠ []) (hx'y : Apart x' y) :
    s = replaceFirst y y' (replaceFirst x x' text) := by
  cases h with
  | neither hx hno => rw [replaceFirst_eq_self hx, replaceFirst_eq_self hno]
  | @onlyLeft a b hx hno =>
    have ha : ¬ y <:+: a := fun hin => hno (hin.trans ⟨[], x ++ b, by simp [hx.split]⟩)
    have hb : ¬ y <:+: b := fun hin => hno (hin.trans ⟨a ++ x, [], by simp [hx.split]⟩)
    rw [hx.replaceFirst_eq, replaceFirst_eq_self (hx'y.not_isInfix ha hb)]
  | onlyRight hx hright => rw [replaceFirst_eq_self hx, hright.replaceFirst_eq]
  | @leftFirst a m b hx hright =>
    obtain rfl := hx.split
    have ha : ¬ y <:+: a := fun hin => hright.not_isInfix hy (hin.trans ⟨[], x ++ m, by simp⟩)
    rw [hx.replaceFirst_eq, (hx'y.leftmost_after ha hright.drop).replaceFirst_eq]
  | @rightFirst a m b hright hx =>
    obtain rfl := hx.split
    have hbefore : Leftmost y (a ++ y ++ m) a m :=
      Leftmost.take (s := x ++ b) (by simpa using hright)
    rw [hx.replaceFirst_eq, (hx'y.leftmost_before hbefore).replaceFirst_eq]
    simp

/-- Replacing one piece after the other is replacing both at once. -/
theorem filled_iff (hy : y ≠ []) (hxy : Apart x y) (hx'y : Apart x' y) :
    Filled x x' y y' text s ↔ replaceFirst y y' (replaceFirst x x' text) = s := by
  constructor
  · intro h
    exact (h.eq_replaceFirst hy hx'y).symm
  · intro h
    subst h
    obtain ⟨s, hs⟩ := exists_filled hxy x' y' text
    exact hs.eq_replaceFirst hy hx'y ▸ hs

theorem replaceFirst_comm (hx : x ≠ []) (hy : y ≠ []) (hxy : Apart x y) (hx'y : Apart x' y)
    (hy'x : Apart y' x) (text : List Char) :
    replaceFirst x x' (replaceFirst y y' text) = replaceFirst y y' (replaceFirst x x' text) := by
  obtain ⟨s, hs⟩ := exists_filled hxy x' y' text
  rw [← hs.eq_replaceFirst hy hx'y, ← hs.symm.eq_replaceFirst hx hy'x]

end NumberingPlan.Text
