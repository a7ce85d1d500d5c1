import NumberingPlan.Pattern.Count
import NumberingPlan.Pattern.Level
import NumberingPlan.Pattern.Literal

/-! Reading the text of a pattern, one character at a time. The reader holds the open groups and
classes, and a mode that says what the next character belongs to; so reading a text and then another
is reading the two together. Flags are resolved while reading: the tree has none. -/
namespace NumberingPlan.Pattern

/-- Where the meaning of an escape goes. -/
inductive Place where
  | branch | item
  | rangeEnd (first : Primitive)
  deriving DecidableEq, Repr

inductive Mode where
  /-- A new part may start. -/
  | branch
  /-- Behind a repetition sign, where a question mark only makes it lazy. -/
  | repeated
  | count (k : Count)
  /-- Behind the closing brace of a counted repetition. -/
  | counted
  /-- Behind an opening parenthesis. -/
  | opened
  /-- Behind an opening parenthesis and a question mark. -/
  | extension
  /-- Behind `(?P`. -/
  | named
  | name (cs : List Char)
  | directive (d : Directive)
  | escape (p : Place)
  /-- Behind `\b`, where a brace may name another boundary. -/
  | boundary
  | boundaryBrace
  | boundaryName (cs : List Char)
  | hex (p : Place) (width : Nat)
  | hexDigits (p : Place) (width left value : Nat)
  | hexBrace (p : Place) (value : Option Nat)
  | property (p : Place) (negated : Bool)
  | propertyName (p : Place) (negated : Bool) (cs : List Char)
  | bracketOpen
  /-- Behind the opening of a class, its circumflex and its first hyphens. -/
  | bracketLead
  | items
  /-- Behind the first character of what may be a set operator. -/
  | operator (c : Char)
  | item (p : Primitive)
  /-- Behind an item and a hyphen, with or without blanks after the hyphen. -/
  | dash (p : Primitive) (adjacent : Bool)
  /-- The same, behind a number sign: whether a range follows is decided by the next character that
  is no blank, even where that character belongs to the comment. -/
  | dashComment (p : Primitive) (unfinished : Bool)
  | rangeEnd (first : Primitive)
  deriving DecidableEq, Repr

def Mode.skipsBlanks : Mode → Bool
  | branch | count _ | counted | opened | boundaryBrace | boundaryName _ | hex .. | hexDigits ..
  | hexBrace .. | property .. | propertyName .. | bracketOpen | bracketLead | items | item _
  | rangeEnd _ => true
  | repeated | extension | named | name _ | directive _ | escape _ | boundary | operator _ | dash ..
  | dashComment .. => false

/-- Whether a pattern may end here. -/
def Mode.final : Mode → Bool
  | branch | repeated | counted | boundary => true
  | _ => false

structure Reader where
  level : Level := {}
  /-- The levels around it, innermost first. -/
  outer : List Level := []
  /-- Open classes, innermost first. -/
  brackets : List Bracket := []
  /-- The names of groups so far, each with its last character first. -/
  names : List (List Char) := []
  /-- Inside a comment. -/
  comment : Bool := false
  mode : Mode := .branch
  deriving DecidableEq, Repr

namespace Reader

def flags (r : Reader) : Flags := r.level.flags

def enter (r : Reader) (m : Mode) : Reader := { r with mode := m }

def push (r : Reader) (p : Part) : Reader := { r with level := r.level.push p, mode := .branch }

def openGroup (r : Reader) (f : Flags) : Reader :=
  { r with level := { flags := f }, outer := r.level :: r.outer, mode := .branch }

def closeGroup? (r : Reader) : Option Reader :=
  match r.outer with
  | [] => none
  | up :: rest =>
    let p := r.level.close
    some { r with level := up.push { p with depth := p.depth + 1 }, outer := rest, mode := .branch }

def repeatLast? (r : Reader) (lo : Nat) (more : Option Nat) (m : Mode) : Option Reader :=
  (r.level.repeatLast? lo more).map fun l => { r with level := l, mode := m }

/-- A brace opens a count only behind a part that can be repeated. -/
def openCount? (r : Reader) : Option Reader :=
  match r.level.parts with
  | p :: _ => if p.repeatable then some (r.enter (.count (.low none))) else none
  | [] => none

def onCount (r : Reader) (k : Count) (c : Char) : Option Reader :=
  if c = '}' then k.close?.bind fun (lo, more) => r.repeatLast? lo more .counted
  else (k.step c).map fun k => r.enter (.count k)

def onBranch (r : Reader) (c : Char) : Option Reader :=
  match c with
  | '(' => some (r.enter .opened)
  | ')' => r.closeGroup?
  | '|' => some { r with level := r.level.alternate, mode := .branch }
  | '[' => some { r with brackets := [{}], mode := .bracketOpen }
  | '?' => r.repeatLast? 0 (some 1) .repeated
  | '*' => r.repeatLast? 0 none .repeated
  | '+' => r.repeatLast? 1 none .repeated
  | '{' => r.openCount?
  | '\\' => some (r.enter (.escape .branch))
  | '.' => r.flags.dot?.map fun s => r.push (.set s 0)
  | '^' => some (r.push (.look r.flags.caret))
  | '$' => some (r.push (.look r.flags.dollar))
  | c => (r.flags.literal? c false).map fun s => r.push (.set s 0)

def onOpened (r : Reader) (c : Char) : Option Reader :=
  if c = '?' then some (r.enter .extension) else (r.openGroup r.flags).onBranch c

/-- Ends a list of flags: they hold to the end of this group, or in the group that starts here. -/
def onDirective (r : Reader) (d : Directive) (c : Char) : Option Reader :=
  if c = ')' then
    if d.isEmpty then none
    else (d.resolve? r.flags).map fun f =>
      { r with level := { r.level.push .directive with flags := f }, mode := .branch }
  else if c = ':' then (d.resolve? r.flags).map r.openGroup
  else (d.step c).map fun d => r.enter (.directive d)

def onExtension (r : Reader) (c : Char) : Option Reader :=
  if c = 'P' then some (r.enter .named)
  else if c = '<' then some (r.enter (.name []))
  else r.onDirective {} c

def admitsName (first : Bool) (c : Char) : Bool :=
  c == '_' || if first then Unicode.isAlphabetic c
    else c == '.' || c == '[' || c == ']' || Unicode.isAlphanumeric c

def onName (r : Reader) (cs : List Char) (c : Char) : Option Reader :=
  if c = '>' then
    if cs.isEmpty || r.names.contains cs then none
    else some { r.openGroup r.flags with names := cs :: r.names }
  else if admitsName cs.isEmpty c then some (r.enter (.name (c :: cs)))
  else none

def addItem? (r : Reader) (s : CharSet) (depth : Nat) : Option Reader :=
  match r.brackets with
  | b :: bs => some { r with brackets := b.add s depth :: bs, mode := .items }
  | [] => none

def addPrimitive? (r : Reader) : Primitive → Option Reader
  | .char c _ => if r.flags.admits c then r.addItem? (.single c) 0 else none
  | .set s => r.addItem? s 0
  | .look _ => none

/-- Both ends of a range are single characters, in order. -/
def addRange? (r : Reader) : Primitive → Primitive → Option Reader
  | .char lo _, .char hi _ =>
    if r.flags.admits lo && r.flags.admits hi && lo ≤ hi then r.addItem? (.range lo hi) 0 else none
  | _, _ => none

def closeBracket? (r : Reader) : Option Reader :=
  match r.brackets with
  | [] => none
  | [b] =>
    (b.close? r.flags).map fun (s, depth) => { r.push (.set s depth) with brackets := [] }
  | b :: rest =>
    (b.closeInner? r.flags).bind fun (s, depth) => { r with brackets := rest }.addItem? s depth

def onOperator (r : Reader) (c : Char) : Option Reader :=
  match r.brackets, SetOp.ofChar? c with
  | b :: bs, some op => some { r with brackets := b.operator r.flags op :: bs, mode := .items }
  | _, _ => none

def onItems (r : Reader) (c : Char) : Option Reader :=
  match c with
  | '[' => some { r with brackets := {} :: r.brackets, mode := .bracketOpen }
  | ']' => r.closeBracket?
  | '&' | '-' | '~' => some (r.enter (.operator c))
  | '\\' => some (r.enter (.escape .item))
  | c => some (r.enter (.item (.char c false)))

def onItem (r : Reader) (p : Primitive) (c : Char) : Option Reader :=
  if c = '-' then some (r.enter (.dash p true)) else (r.addPrimitive? p).bind (·.onItems c)

/-- First hyphens are members, and so is a bracket that would close the class empty. -/
def onBracketLead (r : Reader) (c : Char) : Option Reader :=
  match r.brackets with
  | b :: _ =>
    if c = '-' then (r.addItem? (.single '-') 0).map (·.enter .bracketLead)
    else if c = ']' && b.size == 0 then r.addItem? (.single ']') 0
    else r.onItems c
  | [] => none

def onBracketOpen (r : Reader) (c : Char) : Option Reader :=
  match r.brackets with
  | b :: bs =>
    if c = '^' then
      some { r with brackets := { b with negated := true } :: bs, mode := .bracketLead }
    else r.onBracketLead c
  | [] => none

def onRangeEnd (r : Reader) (p : Primitive) (c : Char) : Option Reader :=
  if c = '\\' then some (r.enter (.escape (.rangeEnd p))) else r.addRange? p (.char c false)

def hyphen : Primitive := .char '-' false

/-- A hyphen before a closing bracket or another hyphen is no range. -/
def onDash (r : Reader) (p : Primitive) (adjacent : Bool) (c : Char) : Option Reader :=
  if r.flags.verbose && Text.isBlank c then some (r.enter (.dash p false))
  else if r.flags.verbose && c = '#' then some (r.enter (.dashComment p true))
  else if c = ']' then (r.addPrimitive? p).bind (·.onItem hyphen c)
  else if c = '-' then
    (r.addPrimitive? p).bind fun r => if adjacent then r.onOperator c else r.onItem hyphen c
  else r.onRangeEnd p c

def onDashComment (r : Reader) (p : Primitive) (unfinished : Bool) (c : Char) : Option Reader :=
  if Text.isBlank c then some (r.enter (.dashComment p (unfinished && c ≠ '\n')))
  else if c = ']' || c = '-' then
    (r.addPrimitive? p).bind fun r =>
      if unfinished then some { r with mode := .item hyphen, comment := true }
      else r.onItem hyphen c
  else if unfinished || c = '#' then some { r with mode := .rangeEnd p, comment := true }
  else r.onRangeEnd p c

def deliver? (r : Reader) : Place → Primitive → Option Reader
  | .branch, .char c byte => (r.flags.literal? c byte).map fun s => r.push (.set s 0)
  | .branch, .set s => some (r.push (.set s 0))
  | .branch, .look l => some (r.push (.look l))
  | .item, .look _ => none
  | .item, p => some (r.enter (.item p))
  | .rangeEnd first, p => r.addRange? first p

def onEscape (r : Reader) (p : Place) (c : Char) : Option Reader :=
  if escapesItself c then r.deliver? p (.char c false)
  else if let some d := controlEscape? c then r.deliver? p (.char d false)
  else if let some (prop, ascii) := shorthandClass? c.toLower then
    (r.flags.shorthand? c.isUpper prop ascii).bind fun s => r.deliver? p (.set s)
  else if let some l := r.flags.lookEscape? c then
    (r.deliver? p (.look l)).map fun r => if c = 'b' then r.enter .boundary else r
  else if let some width := hexWidth? c then some (r.enter (.hex p width))
  else if c = 'p' || c = 'P' then some (r.enter (.property p (c == 'P')))
  else none

def onHexDigits (r : Reader) (p : Place) (width left value : Nat) (c : Char) : Option Reader :=
  (hexValue? c).bind fun d =>
    let value := 16 * value + d
    if left = 1 then (scalar? value).bind fun c => r.deliver? p (.char c (width == 2))
    else some (r.enter (.hexDigits p width (left - 1) value))

def onHex (r : Reader) (p : Place) (width : Nat) (c : Char) : Option Reader :=
  if c = '{' then some (r.enter (.hexBrace p none)) else r.onHexDigits p width width 0 c

def onHexBrace (r : Reader) (p : Place) (value : Option Nat) (c : Char) : Option Reader :=
  if c = '}' then (value.bind scalar?).bind fun c => r.deliver? p (.char c false)
  else (hexValue? c).map fun d => r.enter (.hexBrace p (some (16 * value.getD 0 + d)))

variable [PropertyTable]

def deliverProperty? (r : Reader) (p : Place) (negated : Bool) (name : List Char) : Option Reader :=
  (r.flags.property? negated name).bind fun s => r.deliver? p (.set s)

def onProperty (r : Reader) (p : Place) (negated : Bool) (c : Char) : Option Reader :=
  if c = '{' then some (r.enter (.propertyName p negated []))
  else if c = '\\' then none
  else r.deliverProperty? p negated [c]

def onPropertyName (r : Reader) (p : Place) (negated : Bool) (cs : List Char) (c : Char) :
    Option Reader :=
  if c = '}' then r.deliverProperty? p negated cs.reverse
  else some (r.enter (.propertyName p negated (c :: cs)))

def admitsBoundaryName (c : Char) : Bool := c.isAlpha || c == '-'

/-- A brace behind `\b` opens a name if a letter or a hyphen follows, else a count. -/
def onBoundaryBrace (r : Reader) (c : Char) : Option Reader :=
  if admitsBoundaryName c then some (r.enter (.boundaryName [c])) else r.onCount (.low none) c

/-- The boundary with a name takes the place of the plain one. -/
def onBoundaryName (r : Reader) (cs : List Char) (c : Char) : Option Reader :=
  if admitsBoundaryName c then some (r.enter (.boundaryName (c :: cs)))
  else if c = '}' then
    (WordLook.ofName? (String.ofList cs.reverse)).map fun k =>
      { r with
        level := { r.level with parts := .look (r.flags.wordLook k) :: r.level.parts.tail }
        mode := .branch }
  else none

/-- A character that is neither blank nor comment, or stands where these count. -/
def dispatch (r : Reader) (c : Char) : Option Reader :=
  match r.mode with
  | .branch | .repeated | .boundary => r.onBranch c
  | .count k => r.onCount k c
  | .counted => if c = '?' then some (r.enter .branch) else r.onBranch c
  | .opened => r.onOpened c
  | .extension => r.onExtension c
  | .named => if c = '<' then some (r.enter (.name [])) else none
  | .name cs => r.onName cs c
  | .directive d => r.onDirective d c
  | .escape p => r.onEscape p c
  | .boundaryBrace => r.onBoundaryBrace c
  | .boundaryName cs => r.onBoundaryName cs c
  | .hex p width => r.onHex p width c
  | .hexDigits p width left value => r.onHexDigits p width left value c
  | .hexBrace p value => r.onHexBrace p value c
  | .property p negated => r.onProperty p negated c
  | .propertyName p negated cs => r.onPropertyName p negated cs c
  | .bracketOpen => r.onBracketOpen c
  | .bracketLead => r.onBracketLead c
  | .items => r.onItems c
  | .operator d => r.onItem (.char d false) c
  | .item p => r.onItem p c
  | .dash p adjacent => r.onDash p adjacent c
  | .dashComment p unfinished => r.onDashComment p unfinished c
  | .rangeEnd p => r.onRangeEnd p c

/-- Verbose patterns skip blanks and comments between the signs. -/
def skipOrDispatch (r : Reader) (c : Char) : Option Reader :=
  if r.flags.verbose && r.mode.skipsBlanks && Text.isBlank c then some r
  else if r.flags.verbose && r.mode.skipsBlanks && c = '#' then some { r with comment := true }
  else r.dispatch c

/-- Notes a character in the innermost open class. -/
def record (r : Reader) (c : Char) : Reader :=
  match r.brackets with
  | b :: bs => { r with brackets := { b with raw := c :: b.raw } :: bs }
  | [] => r

/-- Signs of two characters have no blanks between them, so the modes behind a first character are
settled before blanks are looked at. -/
def step (r : Reader) (c : Char) : Option Reader :=
  if r.comment then some (if c = '\n' then { r with comment := false } else r)
  else
    let r := r.record c
    match r.mode with
    | .repeated => if c = '?' then some (r.enter .branch) else (r.enter .branch).skipOrDispatch c
    | .boundary =>
      if c = '{' then some (r.enter .boundaryBrace) else (r.enter .branch).skipOrDispatch c
    | .operator d =>
      if c = d then r.onOperator d else (r.enter (.item (.char d false))).skipOrDispatch c
    | _ => r.skipOrDispatch c

def feed (r : Reader) (cs : List Char) : Option Reader := cs.foldlM step r

/-- The whole pattern, once every group and class is closed. -/
def finish? (r : Reader) : Option Part :=
  if r.outer.isEmpty && r.brackets.isEmpty && r.mode.final then some r.level.close else none

theorem feed_append (r : Reader) (s t : List Char) :
    r.feed (s ++ t) = (r.feed s).bind (·.feed t) := by
  simp [feed, List.foldlM_append]

theorem feed_singleton (r : Reader) (c : Char) : r.feed [c] = r.step c := by
  simp [feed]

omit [PropertyTable] in
theorem finish?_eq_some {r : Reader} {p : Part} :
    r.finish? = some p ↔
      r.outer = [] ∧ r.brackets = [] ∧ r.mode.final = true ∧ r.level.close = p := by
  simp only [finish?, Bool.and_eq_true, List.isEmpty_iff, Option.ite_none_right_eq_some,
    Option.some.injEq, and_assoc]

/-- Where a pattern may end, a new part may start. -/
theorem step_of_final {r : Reader} {c : Char} (hb : r.brackets = []) (hm : r.mode.final = true)
    (hc : r.comment = false) (hsign : c = ')' ∨ c = '$') : r.step c = r.onBranch c := by
  have hrec : r.record c = r := by simp [record, hb]
  have hplain : c ≠ '?' ∧ c ≠ '{' ∧ c ≠ '#' ∧ Text.isBlank c = false := by
    rcases hsign with rfl | rfl <;> decide
  have henter : (r.enter .branch).onBranch c = r.onBranch c := by
    rcases hsign with rfl | rfl <;> rfl
  cases h : r.mode
  case branch | repeated | boundary | counted =>
    simp [step, hc, hrec, h, hplain, skipOrDispatch, dispatch, enter, ← henter]
  all_goals exact absurd hm (by simp [h, Mode.final])

end Reader

end NumberingPlan.Pattern
