import Mathlib.Data.List.Induction
import Mathlib.Data.List.TakeWhile
import Mathlib.Data.Nat.Digits.Defs
import NumberingPlan.Text.Blank
import NumberingPlan.Text.Digit

/-! Decimal numbers and the blanks around them. A number grows with every digit behind it, so one
that has passed the limit stays beyond it: reading within a limit fails exactly where the number
that all the digits write is too great. Main statements: `readDecimal?_eq_some`,
`trim_eq_iff_padded`. -/
namespace NumberingPlan.Text

/-- ASCII digits and the number they write, however many zeros they begin with. -/
structure Writes (digits : List Char) (n : Nat) : Prop where
  nonempty : digits ≠ []
  isDigit : ∀ c ∈ digits, c.isDigit = true
  value : Nat.ofDigits 10 (digits.reverse.map fun c => c.toNat - '0'.toNat) = n

theorem decimalValue_eq_ofDigits (cs : List Char) :
    decimalValue cs = Nat.ofDigits 10 (cs.reverse.map fun c => c.toNat - '0'.toNat) := by
  induction cs using List.reverseRecOn with
  | nil => rfl
  | append_singleton cs c ih =>
    have hfold : decimalValue (cs ++ [c]) = 10 * decimalValue cs + (c.toNat - 0x30) := by
      simp [decimalValue, appendDigit]
    rw [hfold, ih, List.reverse_append, List.reverse_singleton, List.singleton_append,
      List.map_cons, Nat.ofDigits_cons, Nat.add_comm]
    rfl

theorem le_appendDigit (n : Nat) (c : Char) : n ≤ appendDigit n c := by
  unfold appendDigit
  omega

theorem le_foldl_appendDigit (n : Nat) (cs : List Char) : n ≤ cs.foldl appendDigit n := by
  induction cs generalizing n with
  | nil => exact Nat.le_refl n
  | cons c cs ih => exact Nat.le_trans (le_appendDigit n c) (ih _)

theorem foldlM_appendDigit?_eq_some {limit n m : Nat} {cs : List Char} (hn : n ≤ limit) :
    cs.foldlM (appendDigit? limit) n = some m ↔ cs.foldl appendDigit n = m ∧ m ≤ limit := by
  induction cs generalizing n with
  | nil =>
    simp only [List.foldlM_nil, List.foldl_nil, Option.pure_def, Option.some.injEq, iff_self_and]
    intro h
    exact h ▸ hn
  | cons c cs ih =>
    rw [List.foldlM_cons, List.foldl_cons, appendDigit?]
    by_cases hc : appendDigit n c ≤ limit
    · rw [if_pos hc]
      exact ih hc
    · rw [if_neg hc]
      -- the digits that follow cannot bring the number back
      have hgrows := le_foldl_appendDigit (appendDigit n c) cs
      simp only [Option.bind_eq_bind, Option.bind_none, reduceCtorEq, false_iff, not_and, not_le]
      omega

/-- Digit by digit or all at once, what is read is the number that the digits write. -/
theorem readDecimal?_eq_some {limit n : Nat} {cs : List Char} :
    readDecimal? limit cs = some n ↔ Writes cs n ∧ n ≤ limit := by
  have hread : readDecimal? limit cs = some n ↔
      cs ≠ [] ∧ (∀ c ∈ cs, c.isDigit = true) ∧ decimalValue cs = n ∧ n ≤ limit := by
    simp [readDecimal?, decimalValue, foldlM_appendDigit?_eq_some, and_assoc]
  rw [hread, decimalValue_eq_ofDigits]
  constructor
  · intro h
    obtain ⟨hne, hdigits, hvalue, hn⟩ := h
    exact ⟨⟨hne, hdigits, hvalue⟩, hn⟩
  · intro h
    obtain ⟨⟨hne, hdigits, hvalue⟩, hn⟩ := h
    exact ⟨hne, hdigits, hvalue, hn⟩

def Padded (cs text : List Char) : Prop :=
  ∃ before after, cs = before ++ text ++ after ∧ ∀ c ∈ before ++ after, isBlank c = true

theorem padded_trim (cs : List Char) : Padded cs (trim cs) := by
  let rest := trimLeft cs
  have hleft : cs = cs.takeWhile isBlank ++ rest := List.takeWhile_append_dropWhile.symm
  have hright : rest = trim cs ++ (rest.reverse.takeWhile isBlank).reverse := by
    have hsplit : rest.reverse.takeWhile isBlank ++ trimLeft rest.reverse = rest.reverse :=
      List.takeWhile_append_dropWhile
    have hreverse := congrArg List.reverse hsplit
    rw [List.reverse_append, List.reverse_reverse] at hreverse
    exact hreverse.symm
  refine ⟨cs.takeWhile isBlank, (rest.reverse.takeWhile isBlank).reverse, ?_, ?_⟩
  · rw [List.append_assoc, ← hright, ← hleft]
  · intro c hc
    rcases List.mem_append.1 hc with hc | hc
    · exact List.mem_takeWhile_imp hc
    · exact List.mem_takeWhile_imp (List.mem_reverse.1 hc)

theorem trimLeft_append {before text : List Char} (h : ∀ c ∈ before, isBlank c = true) :
    trimLeft (before ++ text) = trimLeft text :=
  List.dropWhile_append_of_pos h

theorem trimLeft_of_no_blank {text : List Char} (h : ∀ c ∈ text, isBlank c = false)
    (hne : text ≠ []) (after : List Char) : trimLeft (text ++ after) = text ++ after := by
  cases text with
  | nil => exact absurd rfl hne
  | cons c text => exact List.dropWhile_cons_of_neg (by simp [h c])

/-- A text without blanks is what trimming leaves exactly if there are but blanks around it. -/
theorem trim_eq_iff_padded {cs text : List Char} (h : ∀ c ∈ text, isBlank c = false) :
    trim cs = text ↔ Padded cs text := by
  constructor
  · intro htrim
    exact htrim ▸ padded_trim cs
  · intro hpadded
    obtain ⟨before, after, rfl, hblank⟩ := hpadded
    obtain ⟨hbefore, hafter⟩ := List.forall_mem_append.1 hblank
    have hafter' : ∀ c ∈ after.reverse, isBlank c = true :=
      fun c hc => hafter c (List.mem_reverse.1 hc)
    rw [trim, List.append_assoc, trimLeft_append hbefore]
    by_cases hne : text = []
    · have hnil : trimLeft after = [] := List.dropWhile_eq_nil_iff.2 hafter
      rw [hne, List.nil_append, hnil]
      rfl
    · have hback : ∀ c ∈ text.reverse, isBlank c = false := fun c hc => h c (List.mem_reverse.1 hc)
      have hback' := trimLeft_of_no_blank hback (by simpa using hne) []
      rw [List.append_nil] at hback'
      rw [trimLeft_of_no_blank h hne, trimRight, List.reverse_append, trimLeft_append hafter',
        hback', List.reverse_reverse]

/-- No digit is a blank. -/
theorem isBlank_of_isDigit {c : Char} (h : c.isDigit = true) : isBlank c = false := by
  have hrange : 48 ≤ c.toNat ∧ c.toNat ≤ 57 := by
    simpa [Char.isDigit, Char.le_def, UInt32.le_iff_toNat_le] using h
  simp only [isBlank, Bool.or_eq_false_iff, Bool.and_eq_false_iff, decide_eq_false_iff_not,
    beq_eq_false_iff_ne]
  omega

theorem writes_trim_iff {cs : List Char} {n : Nat} :
    Writes (trim cs) n ↔ ∃ digits, Padded cs digits ∧ Writes digits n := by
  constructor
  · intro h
    exact ⟨trim cs, padded_trim cs, h⟩
  · intro h
    obtain ⟨digits, hpadded, hwrites⟩ := h
    have hblank : ∀ c ∈ digits, isBlank c = false :=
      fun c hc => isBlank_of_isDigit (hwrites.isDigit c hc)
    rw [(trim_eq_iff_padded hblank).2 hpadded]
    exact hwrites

end NumberingPlan.Text
