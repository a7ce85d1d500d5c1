import NumberingPlan.Pattern.Atom
import NumberingPlan.Pattern.Flags

/-! The inside of a group while it is read: finished alternatives, and the parts of the one at
hand. -/
namespace NumberingPlan.Pattern

/-- A finished piece of a pattern. `depth` counts nested groups, repetitions, classes,
concatenations and alternations. A flag directive is a piece that cannot be repeated. -/
structure Part where
  tree : Tree Atom
  depth : Nat
  repeatable : Bool := true
  deriving DecidableEq, Repr

def Part.set (s : CharSet) (depth : Nat) : Part := { tree := .atom (.one s), depth }

def Part.look (l : Look) : Part := { tree := .atom (.look l), depth := 0 }

def Part.directive : Part := { tree := .empty, depth := 0, repeatable := false }

structure Level where
  flags : Flags := {}
  /-- Finished alternatives, latest first. -/
  alternatives : List Part := []
  /-- Parts of the alternative at hand, latest first. -/
  parts : List Part := []
  deriving DecidableEq, Repr

namespace Level

def push (l : Level) (p : Part) : Level := { l with parts := p :: l.parts }

/-- The alternative at hand as one piece. -/
def branch (l : Level) : Part where
  tree := l.parts.foldl (fun t p => .cat p.tree t) .empty
  depth :=
    l.parts.foldl (fun d p => max d p.depth) 0 + if 2 ≤ l.parts.length then 1 else 0

def alternate (l : Level) : Level :=
  { l with alternatives := l.branch :: l.alternatives, parts := [] }

def close (l : Level) : Part where
  tree := l.alternatives.foldl (fun t p => .alt p.tree t) l.branch.tree
  depth :=
    l.alternatives.foldl (fun d p => max d p.depth) l.branch.depth +
      if l.alternatives.isEmpty then 0 else 1

/-- Repeats the last part; there has to be one, and no flag directive. -/
def repeatLast? (l : Level) (lo : Nat) (more : Option Nat) : Option Level :=
  match l.parts with
  | p :: ps =>
    if p.repeatable then
      some { l with parts := { tree := .rep p.tree lo more, depth := p.depth + 1 } :: ps }
    else none
  | [] => none

end Level

end NumberingPlan.Pattern
