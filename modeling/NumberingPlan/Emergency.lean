import NumberingPlan.Pattern.Match
import NumberingPlan.Pattern.Standard
import NumberingPlan.Registry
import NumberingPlan.Text.Digit

/-! Emergency numbers: whether a dialled number is one, and whether it connects to one. -/
namespace NumberingPlan

inductive Dialling where
  /-- Some emergency number stands at the front. -/
  | connects
  /-- The number is one exactly; a star may precede it. -/
  | exactly
  deriving DecidableEq, Repr

def isPlus (c : Char) : Bool := c == '+' || c == '\uFF0B'

/-- Hyphen-minus, the dashes and hyphens of general punctuation, the minus sign and the full-width
hyphen-minus. -/
def isDash (c : Char) : Bool :=
  c == '-' || ('\u2010' ≤ c && c ≤ '\u2015') || c == '\u2212' || c == '\uFF0D'

def plainDigits (number : List Char) : List Char :=
  (number.map Text.toAsciiDigit).filter fun c => !(Text.isBlank c || isDash c)

def dropStar : List Char → List Char
  | '*' :: cs => cs
  | cs => cs

/-- The text to be matched. A number that starts with a plus sign is international, and emergency
numbers cannot be dialled internationally. -/
def Dialling.digits? (d : Dialling) (number : String) : Option (List Char) :=
  let cs := Text.trimLeft number.toList
  if cs.head?.any isPlus then none
  else match d with
    | connects => some (plainDigits cs)
    | exactly => some (plainDigits (dropStar cs))

/-- The pattern bound to the front of the text, or to the front and the end. -/
def Dialling.anchor (d : Dialling) (pattern : String) : String :=
  match d with
  | connects => "^(?:" ++ pattern ++ ")"
  | exactly => "^(?:" ++ pattern ++ ")$"

structure Question where
  dialling : Dialling
  number : String
  region : String
  deriving DecidableEq, Repr

/-- The anchored pattern and the text it has to match; none where the answer is no in any case. -/
def Question.match? (q : Question) (g : Registry) : Option (String × List Char) := do
  let digits ← q.dialling.digits? q.number
  let record ← g.record? q.region
  let emergency := record.description .emergency
  if emergency.hasNationalNumbers then some (q.dialling.anchor emergency.national, digits) else none

variable [Pattern.Engine]

namespace Registry

/-- A pattern that does not compile matches nothing. -/
def answer (g : Registry) (q : Question) : Bool :=
  match q.match? g with
  | none => false
  | some (pattern, digits) =>
    match Pattern.compile pattern.toList with
    | .ok t => t.isMatch digits
    | .error _ => false

def connectsToEmergency (g : Registry) (number region : String) : Bool :=
  g.answer { dialling := .connects, number, region }

def isEmergency (g : Registry) (number region : String) : Bool :=
  g.answer { dialling := .exactly, number, region }

end Registry

abbrev PatternCache := List (String × Pattern.Tree Pattern.Atom)

/-- Looks a pattern up, or compiles it; what does not compile is not kept. -/
def PatternCache.get (pattern : String) :
    StateM PatternCache (Option (Pattern.Tree Pattern.Atom)) := fun cache =>
  match cache.lookup pattern with
  | some t => (some t, cache)
  | none =>
    match Pattern.compile pattern.toList with
    | .ok t => (some t, (pattern, t) :: cache)
    | .error _ => (none, cache)

/-- Answers as `answer` does, and keeps what it compiles. -/
def Registry.ask (g : Registry) (q : Question) : StateM PatternCache Bool := do
  match q.match? g with
  | none => return false
  | some (pattern, digits) =>
    match ← PatternCache.get pattern with
    | some t => return t.isMatch digits
    | none => return false

end NumberingPlan
