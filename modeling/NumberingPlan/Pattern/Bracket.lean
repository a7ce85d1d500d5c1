import NumberingPlan.Pattern.CharSet
import NumberingPlan.Pattern.Flags

/-! An open character class: its members so far, and the operand that waits for the right side of a
set operation. Depth counts how deep classes, unions and operations are nested. -/
namespace NumberingPlan.Pattern

inductive SetOp where
  | inter | diff | symmDiff
  deriving DecidableEq, Repr

/-- The character that, written twice, is the operator. -/
def SetOp.ofChar? : Char → Option SetOp
  | '&' => some inter
  | '-' => some diff
  | '~' => some symmDiff
  | _ => none

def SetOp.apply : SetOp → CharSet → CharSet → CharSet
  | inter => .inter
  | diff => .diff
  | symmDiff => .symmDiff

def Flags.fold (f : Flags) (s : CharSet) : CharSet :=
  if f.ignoreCase then if f.unicode then .folded s else .asciiFolded s else s

/-- Closure under case, then complement. Without the flag `u` a pattern speaks of bytes, and a
complement would take in parts of a character: it is refused. -/
def Flags.foldAndNegate? (f : Flags) (negated : Bool) (s : CharSet) : Option CharSet :=
  if negated then if f.unicode then some (.compl (f.fold s)) else none else some (f.fold s)

/-- Whether a character may be written in a class. -/
def Flags.admits (f : Flags) (c : Char) : Bool := f.unicode || c.toNat < 0x80

structure Bracket where
  negated : Bool := false
  /-- The union of what was read since the last operator. -/
  members : CharSet := .none
  size : Nat := 0
  depth : Nat := 0
  waiting : Option (SetOp × CharSet × Nat) := none
  /-- What was read since the class was opened, latest first. -/
  raw : List Char := []
  deriving DecidableEq, Repr

namespace Bracket

def add (b : Bracket) (s : CharSet) (depth : Nat) : Bracket :=
  { b with members := .union b.members s, size := b.size + 1, depth := max b.depth depth }

/-- The set read so far with its depth. Operators bind to the left, and both their operands are
closed under case. -/
def value (b : Bracket) (f : Flags) : CharSet × Nat :=
  let depth := if 2 ≤ b.size then b.depth + 1 else b.depth
  match b.waiting with
  | none => (b.members, depth)
  | some (op, left, leftDepth) =>
    (op.apply (f.fold left) (f.fold b.members), max leftDepth depth + 1)

def operator (b : Bracket) (f : Flags) (op : SetOp) : Bracket :=
  let (s, depth) := b.value f
  { negated := b.negated, waiting := some (op, s, depth), raw := b.raw }

def close? (b : Bracket) (f : Flags) : Option (CharSet × Nat) :=
  let (s, depth) := b.value f
  (f.foldAndNegate? b.negated s).map fun s => (s, depth + 1)

/-- The named ASCII class that a class inside a class is when its text is `:name:` or `:^name:`. -/
def named? (b : Bracket) : Option (Bool × CharSet) :=
  match b.raw with
  | ']' :: ':' :: back =>
    match back.reverse with
    | ':' :: '^' :: name => (CharSet.ofAsciiName? (String.ofList name)).map (true, ·)
    | ':' :: name => (CharSet.ofAsciiName? (String.ofList name)).map (false, ·)
    | _ => none
  | _ => none

def closeInner? (b : Bracket) (f : Flags) : Option (CharSet × Nat) :=
  match b.named? with
  | some (negated, s) => (f.foldAndNegate? negated s).map fun s => (s, 0)
  | none => b.close? f

end Bracket

end NumberingPlan.Pattern
