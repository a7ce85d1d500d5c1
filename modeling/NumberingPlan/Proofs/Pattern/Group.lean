import NumberingPlan.Pattern.Compile
import NumberingPlan.Proofs.Pattern.Nesting

/-! A whole pattern put into a group. The group reads as one part with exactly the pattern's tree,
whatever alternatives and flags the pattern has, unless the pattern ends inside a comment, which
then swallows the closing parenthesis. Main statement: `feed_group`. -/
namespace NumberingPlan.Pattern

variable [PropertyTable]

/-- The text can be read to its end, and the end is inside a comment. -/
def EndsInComment (text : List Char) : Prop := ∃ r, Reader.feed {} text = some r ∧ r.comment = true

namespace Reader

/-- Where a pattern may end, a closing parenthesis closes the group around it. -/
theorem step_close {r : Reader} (hb : r.brackets = []) (hm : r.mode.final = true)
    (hc : r.comment = false) : r.step ')' = r.closeGroup? := step_of_final hb hm hc (.inl rfl)

/-- A comment goes on to the end of the line. -/
theorem feed_of_comment {r : Reader} (hc : r.comment = true) {cs : List Char} (hn : '\n' ∉ cs) :
    r.feed cs = some r := by
  induction cs with
  | nil => rfl
  | cons c cs ih =>
    have hne : c ≠ '\n' := fun h => hn (by simp [h])
    have hs : r.step c = some r := by simp [step, hc, hne]
    simp only [feed, List.foldlM_cons, hs]
    exact ih fun h => hn (by simp [h])

theorem feed_open {l : Level} (hl : l.flags = {}) (ls : List Level) :
    feed { level := l, outer := ls } "(?:".toList = some (within (l :: ls) {}) := by
  cases l
  cases hl
  rfl

/-- Up to its closing parenthesis a pattern is read as on its own; behind it stands one new part. -/
theorem feed_close {text : List Char} {r : Reader} {p : Part} (hr : feed {} text = some r)
    (hp : r.finish? = some p) (hc : r.comment = false) (l : Level) (ls : List Level) :
    feed (within (l :: ls) {}) (text ++ ")".toList) =
      some { level := l.push { p with depth := p.depth + 1 }, outer := ls, names := r.names } := by
  obtain ⟨ho, hb, hm, rfl⟩ := finish?_eq_some.1 hp
  -- the pattern is complete, so the level behind the parenthesis is `l` again
  have hclose : (r.within (l :: ls)).step ')' =
      some { level := l.push { r.level.close with depth := r.level.close.depth + 1 }, outer := ls,
             names := r.names } := by
    rw [step_close (r := r.within (l :: ls)) hb hm hc]
    simp [closeGroup?, within, ho, hb, hc]
  rw [feed_append, feed_within hr, Option.bind_some]
  change feed (r.within (l :: ls)) [')'] = _
  rw [feed_singleton, hclose]

/-- Between its parentheses a pattern is read as on its own. -/
theorem feed_group {text : List Char} {r : Reader} {p : Part} (hr : feed {} text = some r)
    (hp : r.finish? = some p) (hc : r.comment = false) {l : Level} (hl : l.flags = {})
    (ls : List Level) :
    feed { level := l, outer := ls } ("(?:".toList ++ text ++ ")".toList) =
      some { level := l.push { p with depth := p.depth + 1 }, outer := ls, names := r.names } := by
  rw [List.append_assoc, feed_append, feed_open hl, Option.bind_some, feed_close hr hp hc]

/-- There is nothing in front of a pattern that a question mark could repeat. -/
theorem feed_questionMark (cs : List Char) : feed {} ('?' :: cs) = none := rfl

/-- Behind a parenthesis any character but a question mark is the first in a numbered group. -/
theorem feed_opened {l : Level} (hl : l.flags = {}) (ls : List Level) {c : Char} (hc : c ≠ '?')
    (cs : List Char) :
    feed { level := l, outer := ls, mode := .opened } (c :: cs) =
      feed (within (l :: ls) {}) (c :: cs) := by
  have hstep : step { level := l, outer := ls, mode := .opened } c =
      step (within (l :: ls) {}) c := by
    simp [step, skipOrDispatch, dispatch, onOpened, hc, record, flags, hl, openGroup, within]
  simp only [feed, List.foldlM_cons, hstep]

/-- So a pattern behind a parenthesis is read as in any other group. -/
theorem feed_numbered {text : List Char} {r : Reader} (hr : feed {} text = some r) {l : Level}
    (hl : l.flags = {}) (ls : List Level) {c : Char} (hc : c ≠ '?') (cs : List Char) :
    feed { level := l, outer := ls } ("(".toList ++ text ++ c :: cs) =
      feed (within (l :: ls) {}) (text ++ c :: cs) := by
  have hopen : feed { level := l, outer := ls } "(".toList =
      some { level := l, outer := ls, mode := .opened } := by
    cases l
    cases hl
    rfl
  rw [List.append_assoc, feed_append, hopen, Option.bind_some]
  cases text with
  | nil => exact feed_opened hl ls hc cs
  | cons d ds =>
    have hd : d ≠ '?' := by
      intro heq
      rw [heq, feed_questionMark] at hr
      cases hr
    exact feed_opened hl ls hd _

/-- Behind an open comment no group is closed. -/
theorem feed_unclosed {text cs : List Char} {r : Reader} (hr : feed {} text = some r)
    (hc : r.comment = true) (hn : '\n' ∉ cs) (ls : List Level) :
    feed (within ls {}) (text ++ cs) = some (r.within ls) := by
  rw [feed_append, feed_within hr, Option.bind_some]
  exact feed_of_comment (r := r.within ls) hc hn

theorem feed_group_of_comment {text cs : List Char} {r : Reader} (hr : feed {} text = some r)
    (hc : r.comment = true) (hn : '\n' ∉ cs) {l : Level} (hl : l.flags = {}) (ls : List Level) :
    feed { level := l, outer := ls } ("(?:".toList ++ text ++ cs) =
      some (r.within (l :: ls)) := by
  rw [List.append_assoc, feed_append, feed_open hl, Option.bind_some, feed_unclosed hr hc hn]

/-- Outside of verbose and multi-line patterns a dollar sign looks for the end of the text. -/
theorem step_dollar {l : Level} (hl : l.flags = {}) (ls : List Level) (names : List (List Char)) :
    step { level := l, outer := ls, names } '$' =
      some { level := l.push (.look .textEnd), outer := ls, names } := by
  cases l
  cases hl
  rfl

end Reader

end NumberingPlan.Pattern
