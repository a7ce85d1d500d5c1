import NumberingPlan.Pattern.Atom
import NumberingPlan.Pattern.Bracket

/-! What single characters and escapes stand for under the flags in force. -/
namespace NumberingPlan.Pattern

/-- The meaning of a character or an escape. `byte` marks a character written by two hexadecimal
digits, which without the flag `u` names a byte. -/
inductive Primitive where
  | char (c : Char) (byte : Bool)
  | set (s : CharSet)
  | look (l : Look)
  deriving DecidableEq, Repr

/-- The properties of characters that have a name. -/
class PropertyTable where
  /-- The set behind a name, and whether the name asks for what is outside of the set. -/
  find? : List Char → Option (Bool × CharSet)
  find?_close : find? [')'] = none
  find?_dollar : find? ['$'] = none

namespace Flags

def literal? (f : Flags) (c : Char) (byte : Bool) : Option CharSet :=
  if byte && !f.admits c then none else some (f.fold (.single c))

/-- The dot. It never stands for bytes, so it needs the flag `u`. -/
def dot? (f : Flags) : Option CharSet :=
  if !f.unicode then none
  else if f.dotAll then some .all
  else if f.crlf then some (.compl (.union (.single '\n') (.single '\r')))
  else some (.compl (.single '\n'))

def caret (f : Flags) : Look := if f.multiLine then .lineStart f.crlf else .textStart

def dollar (f : Flags) : Look := if f.multiLine then .lineEnd f.crlf else .textEnd

def wordLook (f : Flags) (k : WordLook) : Look := .word k (!f.unicode)

def property? [PropertyTable] (f : Flags) (negated : Bool) (name : List Char) : Option CharSet :=
  if f.unicode then
    (PropertyTable.find? name).bind fun (outside, s) => f.foldAndNegate? (negated != outside) s
  else none

/-- A shorthand class: the property, or without the flag `u` its part in ASCII, which has no
complement among whole characters. -/
def shorthand? (f : Flags) (negated : Bool) (p : Property) (ascii : CharSet) : Option CharSet :=
  if f.unicode then some (if negated then .compl (.property p) else .property p)
  else if negated then none
  else some ascii

end Flags

/-- Digits, blanks and word characters by the lowercase letter of their escape; the uppercase letter
takes the complement. -/
def shorthandClass? : Char → Option (Property × CharSet)
  | 'd' => some (.decimal, .asciiDigits)
  | 's' => some (.blank, .asciiBlanks)
  | 'w' => some (.word, .asciiWord)
  | _ => none

def controlEscape? : Char → Option Char
  | 'a' => some '\x07'
  | 'f' => some '\x0C'
  | 't' => some '\t'
  | 'n' => some '\n'
  | 'r' => some '\r'
  | 'v' => some '\x0B'
  | _ => none

/-- Escapes that look at their surroundings. -/
def Flags.lookEscape? (f : Flags) : Char → Option Look
  | 'A' => some .textStart
  | 'z' => some .textEnd
  | 'b' => some (f.wordLook .boundary)
  | 'B' => some (f.wordLook .inside)
  | '<' => some (f.wordLook .start)
  | '>' => some (f.wordLook .finish)
  | _ => none

/-- The boundaries with a name in braces. -/
def WordLook.ofName? (name : String) : Option WordLook :=
  match name with
  | "start" => some .start
  | "end" => some .finish
  | "start-half" => some .startHalf
  | "end-half" => some .finishHalf
  | _ => none

/-- ASCII characters other than letters and digits stand for themselves behind a backslash. -/
def escapesItself (c : Char) : Bool :=
  c.toNat < 0x80 && !c.isAlphanum && c ≠ '<' && c ≠ '>'

def hexValue? (c : Char) : Option Nat :=
  if '0' ≤ c && c ≤ '9' then some (c.toNat - 0x30)
  else if 'a' ≤ c && c ≤ 'f' then some (c.toNat - 0x57)
  else if 'A' ≤ c && c ≤ 'F' then some (c.toNat - 0x37)
  else none

/-- The character of a code point, if it is a scalar value. -/
def scalar? (n : Nat) : Option Char := if n.isValidChar then some (Char.ofNat n) else none

/-- How many digits a hexadecimal escape without braces has. -/
def hexWidth? : Char → Option Nat
  | 'x' => some 2
  | 'u' => some 4
  | 'U' => some 8
  | _ => none

end NumberingPlan.Pattern
