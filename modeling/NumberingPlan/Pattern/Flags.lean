/-! The flags of a pattern, written by one letter each. -/
namespace NumberingPlan.Pattern

inductive Flag where
  | ignoreCase | multiLine | dotAll | swapGreed | unicode | crlf | verbose
  deriving DecidableEq, Repr

def Flag.ofChar? : Char → Option Flag
  | 'i' => some ignoreCase
  | 'm' => some multiLine
  | 's' => some dotAll
  | 'U' => some swapGreed
  | 'u' => some unicode
  | 'R' => some crlf
  | 'x' => some verbose
  | _ => none

/-- The flags in force. Swapped greediness is not among them: it never decides whether a text
matches. -/
structure Flags where
  ignoreCase : Bool := false
  multiLine : Bool := false
  dotAll : Bool := false
  unicode : Bool := true
  crlf : Bool := false
  verbose : Bool := false
  deriving DecidableEq, Repr

def Flags.set (f : Flags) (value : Bool) : Flag → Flags
  | .ignoreCase => { f with ignoreCase := value }
  | .multiLine => { f with multiLine := value }
  | .dotAll => { f with dotAll := value }
  | .swapGreed => f
  | .unicode => { f with unicode := value }
  | .crlf => { f with crlf := value }
  | .verbose => { f with verbose := value }

/-- A list of flags while it is read: those before a minus sign, and those after it once there is
one. -/
structure Directive where
  raised : List Flag := []
  lowered : Option (List Flag) := none
  deriving DecidableEq, Repr

namespace Directive

def isEmpty (d : Directive) : Bool := d.raised.isEmpty && d.lowered.isNone

/-- A flag stands once at most, on either side of the minus sign. -/
def step (d : Directive) (c : Char) : Option Directive :=
  if c = '-' then
    if d.lowered.isNone then some { d with lowered := some [] } else none
  else do
    let f ← Flag.ofChar? c
    if f ∈ d.raised ++ d.lowered.getD [] then none
    else match d.lowered with
      | none => some { d with raised := f :: d.raised }
      | some fs => some { d with lowered := some (f :: fs) }

/-- The flags afterwards; a minus sign with nothing behind it is refused. -/
def resolve? (d : Directive) (f : Flags) : Option Flags :=
  if d.lowered = some [] then none
  else
    let up := d.raised.foldl (fun f x => f.set true x) f
    some ((d.lowered.getD []).foldl (fun f x => f.set false x) up)

end Directive

end NumberingPlan.Pattern
