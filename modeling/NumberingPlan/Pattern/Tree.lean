/-! Regular expressions over atoms of any kind. Groups leave no node of their own, and neither does
greediness: which texts match depends on neither. -/
namespace NumberingPlan.Pattern

inductive Tree (α : Type) where
  | empty
  | atom (a : α)
  | cat (s t : Tree α)
  | alt (s t : Tree α)
  /-- So many copies (`lo`) and up to `more` further ones, any number of these for `none`. -/
  | rep (t : Tree α) (lo : Nat) (more : Option Nat)
  deriving DecidableEq, Repr

namespace Tree

def map {α β : Type} (f : α → β) : Tree α → Tree β
  | empty => empty
  | atom a => atom (f a)
  | cat s t => cat (s.map f) (t.map f)
  | alt s t => alt (s.map f) (t.map f)
  | rep t lo more => rep (t.map f) lo more

end Tree

end NumberingPlan.Pattern
