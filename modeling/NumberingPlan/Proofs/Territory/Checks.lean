import NumberingPlan.Proofs.Outcome
import NumberingPlan.Proofs.Text.Decimal
import NumberingPlan.Territory.Attributes

/-! Texts that pass a check, and the attributes they stand in. -/
namespace NumberingPlan

theorem readCallingCode_eq_ok {v : String} {code : Int} :
    readCallingCode v = .ok code ↔
      ∃ n : Nat, Text.Writes (Text.trim v.toList) n ∧ 0 < n ∧ n ≤ greatestCallingCode ∧
        code = n := by
  unfold readCallingCode
  cases hr : Text.readDecimal? greatestCallingCode (Text.trim v.toList) with
  | none =>
    simp only [reduceCtorEq, false_iff, not_exists]
    intro n h
    have hsome := Text.readDecimal?_eq_some.2 ⟨h.1, h.2.2.1⟩
    rw [hr] at hsome
    cases hsome
  | some n =>
    have hread : ∀ m, Text.Writes (Text.trim v.toList) m ∧ m ≤ greatestCallingCode ↔ n = m :=
      fun m => by rw [← Text.readDecimal?_eq_some, hr, Option.some.injEq]
    obtain ⟨hwrites, hle⟩ := (hread n).2 rfl
    by_cases hn : 0 < n
    · simp only [if_pos hn, Except.ok.injEq]
      constructor
      · intro h
        exact ⟨n, hwrites, hn, hle, h.symm⟩
      · intro h
        obtain ⟨m, hm, -, hm', rfl⟩ := h
        rw [(hread m).1 ⟨hm, hm'⟩]
    · simp only [if_neg hn, reduceCtorEq, false_iff, not_exists]
      intro m h
      have hnm := (hread m).1 ⟨h.1, h.2.2.1⟩
      exact hn (hnm ▸ h.2.1)

theorem Element.required_eq_ok {e : Element} {key v : String} :
    e.required key = .ok v ↔ e.attribute? key = some v := by
  unfold Element.required
  cases e.attribute? key <;> simp

theorem Element.checked_eq_ok {e : Element} {key : String} {check : String → Except Fault String}
    {x : Option String} :
    e.checked key check = .ok x ↔
      e.attribute? key = none ∧ x = none ∨
        ∃ v p, e.attribute? key = some v ∧ check v = .ok p ∧ x = some p := by
  unfold Element.checked
  cases e.attribute? key with
  | none =>
    simp only [Except.ok.injEq, true_and, reduceCtorEq, false_and, exists_false, or_false]
    exact eq_comm
  | some v =>
    simp only [map_eq_ok, reduceCtorEq, false_and, false_or, Option.some.injEq, exists_and_left,
      exists_eq_left']
    exact exists_congr fun p => and_congr_right fun _ => eq_comm

variable [Pattern.Engine]

def IsPattern (s : String) : Prop := Pattern.Compiles s.toList

instance (s : String) : Decidable (IsPattern s) :=
  inferInstanceAs (Decidable (Pattern.Compiles s.toList))

def IsBarePattern (s : String) : Prop := IsPattern s ∧ Text.withoutBlanks s = s

theorem checkPattern_eq_ok {s p : String} : checkPattern s = .ok p ↔ IsPattern s ∧ p = s := by
  unfold checkPattern IsPattern Pattern.Compiles
  cases Pattern.compile s.toList with
  | error d => simp
  | ok t =>
    simp only [Except.ok.injEq, exists_eq', true_and]
    exact eq_comm

theorem isPattern_of_check {s p : String} (h : checkPattern s = .ok p) : IsPattern p := by
  obtain ⟨hs, rfl⟩ := checkPattern_eq_ok.1 h
  exact hs

theorem isBarePattern_of_check {s p : String} (h : checkBarePattern s = .ok p) :
    IsBarePattern p := by
  obtain ⟨hs, rfl⟩ := checkPattern_eq_ok.1 h
  exact ⟨hs, Text.withoutBlanks_withoutBlanks s⟩

theorem Element.isPattern_of_checked {e : Element} {key p : String}
    {check : String → Except Fault String} (hcheck : ∀ s p, check s = .ok p → IsPattern p)
    {x : Option String} (h : e.checked key check = .ok x) (hp : p ∈ x) : IsPattern p := by
  rcases Element.checked_eq_ok.1 h with ⟨-, rfl⟩ | ⟨v, q, -, hv, rfl⟩
  · exact nomatch hp
  · cases hp
    exact hcheck v p hv

end NumberingPlan
