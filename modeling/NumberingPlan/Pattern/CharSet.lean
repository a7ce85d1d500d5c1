import NumberingPlan.Text.Blank
import NumberingPlan.Unicode.Fold
import NumberingPlan.Unicode.Greek
import NumberingPlan.Unicode.Word

/-! Sets of characters as a pattern writes them: ranges, properties, set operations and closure
under case. A set stays in the form in which it was written; `mem` decides membership. -/
namespace NumberingPlan.Pattern

inductive Property where
  | letter | number | decimal | greek | word | blank
  deriving DecidableEq, Repr

def Property.holds : Property → Char → Bool
  | letter, c => Unicode.letters.has c.toNat
  | number, c => Unicode.numbers.has c.toNat
  | decimal, c => Text.isDecimal c
  | greek, c => Unicode.greekScript.has c.toNat
  | word, c => Unicode.isWord c
  | blank, c => Text.isBlank c

inductive CharSet where
  | none
  | range (lo hi : Char)
  | property (p : Property)
  | compl (s : CharSet)
  | union (s t : CharSet)
  | inter (s t : CharSet)
  | diff (s t : CharSet)
  | symmDiff (s t : CharSet)
  /-- Whatever equals a member without regard to case. -/
  | folded (s : CharSet)
  /-- The same for the letters of ASCII only. -/
  | asciiFolded (s : CharSet)
  deriving DecidableEq, Repr

def swapAsciiCase (c : Char) : Char :=
  if c.isLower then c.toUpper else if c.isUpper then c.toLower else c

namespace CharSet

def mem : CharSet → Char → Bool
  | none, _ => false
  | range lo hi, c => lo ≤ c && c ≤ hi
  | property p, c => p.holds c
  | compl s, c => !s.mem c
  | union s t, c => s.mem c || t.mem c
  | inter s t, c => s.mem c && t.mem c
  | diff s t, c => s.mem c && !t.mem c
  | symmDiff s t, c => s.mem c != t.mem c
  | folded s, c => (Unicode.orbit c).any fun d => s.mem d
  | asciiFolded s, c => s.mem c || s.mem (swapAsciiCase c)

def single (c : Char) : CharSet := range c c

def all : CharSet := range (Char.ofNat 0) (Char.ofNat 0x10FFFF)

def ofRanges (rs : List (Char × Char)) : CharSet :=
  rs.foldr (fun r s => union (range r.1 r.2) s) none

def asciiDigits : CharSet := range '0' '9'

def asciiBlanks : CharSet := ofRanges [('\t', '\r'), (' ', ' ')]

def asciiWord : CharSet := ofRanges [('0', '9'), ('A', 'Z'), ('_', '_'), ('a', 'z')]

/-- The ASCII classes that stand between `[:` and `:]`. -/
def ofAsciiName? (name : String) : Option CharSet :=
  match name with
  | "alnum" => some (ofRanges [('0', '9'), ('A', 'Z'), ('a', 'z')])
  | "alpha" => some (ofRanges [('A', 'Z'), ('a', 'z')])
  | "ascii" => some (range '\x00' '\x7F')
  | "blank" => some (ofRanges [('\t', '\t'), (' ', ' ')])
  | "cntrl" => some (ofRanges [('\x00', '\x1F'), ('\x7F', '\x7F')])
  | "digit" => some asciiDigits
  | "graph" => some (range '!' '~')
  | "lower" => some (range 'a' 'z')
  | "print" => some (range ' ' '~')
  | "punct" => some (ofRanges [('!', '/'), (':', '@'), ('[', '\x60'), ('\x7B', '~')])
  | "space" => some asciiBlanks
  | "upper" => some (range 'A' 'Z')
  | "word" => some asciiWord
  | "xdigit" => some (ofRanges [('0', '9'), ('A', 'F'), ('a', 'f')])
  | _ => .none

end CharSet

end NumberingPlan.Pattern
