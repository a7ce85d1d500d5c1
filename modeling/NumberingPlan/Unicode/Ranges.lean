/-! Sets of characters given as ascending, disjoint ranges of code points. -/
namespace NumberingPlan.Unicode

abbrev Ranges := List (Nat × Nat)

/-- Membership; the search stops at the first range that lies above the code point. -/
def Ranges.has : Ranges → Nat → Bool
  | [], _ => false
  | (lo, hi) :: rest, n => if n < lo then false else n ≤ hi || has rest n

end NumberingPlan.Unicode
