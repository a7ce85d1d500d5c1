import NumberingPlan.Pattern.Atom

/-! Matching. A set of gaps of a text (before, between and behind its characters) is a number whose
bit `i` stands for gap `i`. A pattern moves sets of gaps: from those where a match may start to
those where it may end. So all matches are followed at once, and nothing is ever tried twice. -/
namespace NumberingPlan.Pattern

/-- The number whose binary digits are listed, least first. -/
def ofBits : List Bool → Nat
  | [] => 0
  | b :: bs => 2 * ofBits bs + b.toNat

/-- What an atom does to a set of gaps of one given text. -/
inductive Move where
  /-- Steps over the character behind the gap. -/
  | advance (mask : Nat)
  | stay (mask : Nat)
  deriving DecidableEq, Repr

def Move.apply : Move → Nat → Nat
  | advance mask, gaps => (gaps &&& mask) <<< 1
  | stay mask, gaps => gaps &&& mask

/-- The neighbours of each gap, given the character before the first. -/
def neighbours (before : Option Char) : List Char → List (Option Char × Option Char)
  | [] => [(before, none)]
  | c :: cs => (before, some c) :: neighbours (some c) cs

def Atom.on (text : List Char) : Atom → Move
  | one s => .advance (ofBits (text.map s.mem))
  | look l => .stay (ofBits ((neighbours none text).map fun g => l.holds g.1 g.2))

/-- Applies `f` up to `k` times, and stops where it no longer changes anything. -/
def settle (f : Nat → Nat) : Nat → Nat → Nat
  | 0, x => x
  | k + 1, x =>
    let y := f x
    if y = x then x else settle f k y

namespace Tree

/-- The gaps that a match from one of the given gaps can end at, in a text of length `n`. Without an
upper bound `n` more copies are enough: only those that step forward count. -/
def reach (n : Nat) : Tree Move → Nat → Nat
  | empty, gaps => gaps
  | atom m, gaps => m.apply gaps
  | cat s t, gaps => t.reach n (s.reach n gaps)
  | alt s t, gaps => s.reach n gaps ||| t.reach n gaps
  | rep t lo more, gaps =>
    settle (fun g => g ||| t.reach n g) (more.getD n) (settle (t.reach n) lo gaps)

/-- Whether the pattern matches somewhere in the text. -/
def isMatch (t : Tree Atom) (text : List Char) : Bool :=
  (t.map (Atom.on text)).reach text.length (1 <<< (text.length + 1) - 1) ≠ 0

end Tree

end NumberingPlan.Pattern
