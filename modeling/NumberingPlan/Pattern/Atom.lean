import NumberingPlan.Pattern.CharSet
import NumberingPlan.Pattern.Tree

/-! The atoms of a pattern: one character out of a set, or a look at the two characters around a
gap of the text. -/
namespace NumberingPlan.Pattern

inductive WordLook where
  | boundary | inside | start | finish | startHalf | finishHalf
  deriving DecidableEq, Repr

inductive Look where
  | textStart | textEnd
  /-- Line ends are line feeds, or with `crlf` also carriage returns and the pair of both. -/
  | lineStart (crlf : Bool)
  | lineEnd (crlf : Bool)
  | word (kind : WordLook) (ascii : Bool)
  deriving DecidableEq, Repr

/-- What a look at the word characters before and after a gap asks for. -/
def WordLook.holds : WordLook → Bool → Bool → Bool
  | boundary, before, after => before != after
  | inside, before, after => before == after
  | start, before, after => !before && after
  | finish, before, after => before && !after
  | startHalf, before, _ => !before
  | finishHalf, _, after => !after

/-- Whether a look holds at the gap between two neighbours; at an end of the text one is `none`. -/
def Look.holds (before after : Option Char) : Look → Bool
  | textStart => before.isNone
  | textEnd => after.isNone
  | lineStart false => before.isNone || before == some '\n'
  | lineStart true =>
    before.isNone || before == some '\n' || (before == some '\r' && after != some '\n')
  | lineEnd false => after.isNone || after == some '\n'
  | lineEnd true =>
    after.isNone || after == some '\r' || (after == some '\n' && before != some '\r')
  | word kind ascii =>
    let isWord := if ascii then CharSet.asciiWord.mem else Unicode.isWord
    kind.holds (before.any isWord) (after.any isWord)

inductive Atom where
  | one (s : CharSet)
  | look (l : Look)
  deriving DecidableEq, Repr

end NumberingPlan.Pattern
