/-! Regions by calling code: kept in ascending order of codes, and found by halving. -/
namespace NumberingPlan

abbrev CodeIndex := Array (Int × List String)

namespace CodeIndex

/-- Entries in ascending order of their codes. -/
def ofEntries (entries : List (Int × List String)) : CodeIndex :=
  (entries.mergeSort fun a b => a.1 ≤ b.1).toArray

/-- Where a code stands from `lo` on and before `hi`: the window is halved until the code is in its
middle, or nothing is left. -/
def position? (x : CodeIndex) (code : Int) (lo hi : Nat) (h : hi ≤ x.size) : Option (Fin x.size) :=
  if hlt : lo < hi then
    let mid := lo + (hi - lo) / 2
    have hmid : mid < x.size := by omega
    if x[mid].1 = code then some ⟨mid, hmid⟩
    else if x[mid].1 < code then position? x code (mid + 1) hi h
    else position? x code lo mid (by omega)
  else none
termination_by hi - lo

def regions? (x : CodeIndex) (code : Int) : Option (List String) :=
  (x.position? code 0 x.size (Nat.le_refl _)).map fun i => x[i].2

end CodeIndex

end NumberingPlan
