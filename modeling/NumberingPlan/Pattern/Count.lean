import NumberingPlan.Text.Blank

/-! The bounds of a counted repetition, read character by character between the braces. -/
namespace NumberingPlan.Pattern

inductive Count where
  /-- In or before the digits of the lower bound. -/
  | low (n : Option Nat)
  | lowDone (n : Nat)
  /-- Right behind the comma, where a closing brace means no upper bound. -/
  | comma (lo : Nat)
  /-- In or before the digits of the upper bound. -/
  | high (lo : Nat) (n : Option Nat)
  | highDone (lo hi : Nat)
  deriving DecidableEq, Repr

namespace Count

/-- The greatest number that may stand as a bound. -/
def limit : Nat := 0xFFFFFFFF

/-- At the closing brace: the lower bound, and how many copies the upper bound allows beyond it. -/
def close? : Count → Option (Nat × Option Nat)
  | low (some n) | lowDone n => if n ≤ limit then some (n, some 0) else none
  | comma lo => if lo ≤ limit then some (lo, none) else none
  | high lo (some hi) | highDone lo hi =>
    if lo ≤ hi && hi ≤ limit then some (lo, some (hi - lo)) else none
  | low none | high _ none => none

def digit? (c : Char) : Option Nat := if c.isDigit then some (c.toNat - '0'.toNat) else none

/-- Reads a character other than the closing brace. Blanks may stand around a number. -/
def step (k : Count) (c : Char) : Option Count :=
  match k, digit? c with
  | low n, some d => some (low (some (10 * n.getD 0 + d)))
  | comma lo, some d => some (high lo (some d))
  | high lo n, some d => some (high lo (some (10 * n.getD 0 + d)))
  | lowDone _, some _ | highDone _ _, some _ => none
  | k, none =>
    if Text.isBlank c then
      match k with
      | low (some n) => some (lowDone n)
      | comma lo => some (high lo none)
      | high lo (some hi) => some (highDone lo hi)
      | k => some k
    else if c = ',' then
      match k with
      | low (some n) | lowDone n => some (comma n)
      | _ => none
    else none

end Count

end NumberingPlan.Pattern
