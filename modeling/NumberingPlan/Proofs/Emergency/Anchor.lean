import NumberingPlan.Emergency
import NumberingPlan.Pattern.Path
import NumberingPlan.Proofs.Pattern.Group

/-! Emergency patterns bound to the ends of a number. The bound text has the tree of the pattern
between the looks at both ends, so it is found exactly where the pattern itself matches from the
front, or all of the text. -/
namespace NumberingPlan.Dialling
open Pattern

def anchorTree : Dialling → Pattern.Tree Atom → Pattern.Tree Atom
  | connects, t => .cat (.atom (.look .textStart)) (.cat t .empty)
  | exactly, t => .cat (.atom (.look .textStart)) (.cat t (.cat (.atom (.look .textEnd)) .empty))

theorem toList_anchor_connects (pattern : String) :
    (connects.anchor pattern).toList = ['^'] ++ ("(?:".toList ++ pattern.toList ++ ")".toList) := by
  simp [anchor]

theorem toList_anchor_exactly (pattern : String) :
    (exactly.anchor pattern).toList =
      ['^'] ++ ("(?:".toList ++ pattern.toList ++ ")".toList) ++ ['$'] := by
  simp [anchor]

/-- The level around the group, behind the circumflex. -/
def lead : Level := { parts := [.look .textStart] }

section
variable [PropertyTable]

theorem parse?_anchor {pattern : String} {p : Part} (h : parse? pattern.toList = some p)
    (hc : ¬ EndsInComment pattern.toList) (d : Dialling) :
    parse? (d.anchor pattern).toList =
      some { tree := d.anchorTree p.tree, depth := p.depth + 2 } := by
  obtain ⟨r, hr, hp⟩ := Option.bind_eq_some_iff.1 h
  have hopen : r.comment = false := by
    cases hcr : r.comment with
    | false => rfl
    | true => exact absurd ⟨r, hr, hcr⟩ hc
  have hlead : Reader.feed {} ['^'] = some { level := lead } := rfl
  have hgroup := Reader.feed_group hr hp hopen (l := lead) rfl []
  cases d with
  | connects =>
    rw [parse?, toList_anchor_connects, Reader.feed_append, hlead, Option.bind_some, hgroup]
    simp [Reader.finish?, Mode.final, Level.close, Level.branch, Level.push, lead, anchorTree,
      Part.look]
  | exactly =>
    rw [parse?, toList_anchor_exactly, Reader.feed_append, Reader.feed_append, hlead,
      Option.bind_some, hgroup, Option.bind_some, Reader.feed_singleton, Reader.step_dollar rfl]
    simp [Reader.finish?, Mode.final, Level.close, Level.branch, Level.push, lead, anchorTree,
      Part.look]

/-- A comment at the end of a pattern swallows what binds it. -/
theorem parse?_anchor_of_comment {pattern : String} (h : EndsInComment pattern.toList)
    (d : Dialling) : parse? (d.anchor pattern).toList = none := by
  obtain ⟨r, hr, hc⟩ := h
  have hlead : Reader.feed {} ['^'] = some { level := lead } := rfl
  have hunclosed : (r.within [lead]).finish? = none := by
    simp [Reader.finish?, Reader.within]
  cases d with
  | connects =>
    have hrest : Reader.feed { level := lead } ("(?:".toList ++ pattern.toList ++ [')']) =
        some (r.within [lead]) := Reader.feed_group_of_comment hr hc (by decide) rfl []
    rw [parse?, toList_anchor_connects, Reader.feed_append, hlead, Option.bind_some]
    exact (congrArg (·.bind Reader.finish?) hrest).trans hunclosed
  | exactly =>
    have hrest : Reader.feed { level := lead } ("(?:".toList ++ pattern.toList ++ [')', '$']) =
        some (r.within [lead]) := Reader.feed_group_of_comment hr hc (by decide) rfl []
    rw [parse?, toList_anchor_exactly, List.append_assoc, Reader.feed_append, hlead,
      Option.bind_some, List.append_assoc]
    exact (congrArg (·.bind Reader.finish?) hrest).trans hunclosed

theorem not_endsInComment {pattern : String} {d : Dialling} {p : Part}
    (h : parse? (d.anchor pattern).toList = some p) : ¬ EndsInComment pattern.toList := by
  intro hc
  rw [parse?_anchor_of_comment hc] at h
  exact nomatch h

/-- A bound pattern is well formed unless the pattern ends in a comment or nests so deep that there
is no room for the group around it. -/
theorem wellFormed_anchor_iff {pattern : String} {p : Part} (h : parse? pattern.toList = some p)
    (d : Dialling) :
    WellFormed (d.anchor pattern).toList ↔
      ¬ EndsInComment pattern.toList ∧ p.depth + 2 ≤ depthLimit := by
  constructor
  · intro hd
    obtain ⟨q, hq, hdepth⟩ := hd
    have hc := not_endsInComment hq
    rw [parse?_anchor h hc, Option.some.injEq] at hq
    subst hq
    exact ⟨hc, hdepth⟩
  · intro hd
    obtain ⟨hc, hdepth⟩ := hd
    exact ⟨_, parse?_anchor h hc d, hdepth⟩

end

/-- Where the bound pattern compiles, its tree is that of the pattern between the two looks. -/
theorem compile_anchor [Engine] {pattern : String} {t u : Pattern.Tree Atom}
    (h : compile pattern.toList = .ok t) {d : Dialling}
    (hd : compile (d.anchor pattern).toList = .ok u) : u = d.anchorTree t := by
  obtain ⟨p, hp, -, -, rfl⟩ := compile_eq_ok.1 h
  obtain ⟨q, hq, -, -, rfl⟩ := compile_eq_ok.1 hd
  have hc := not_endsInComment hq
  rw [parse?_anchor hp hc, Option.some.injEq] at hq
  rw [← hq]

theorem spans_textStart {text : List Char} {i j : Nat} :
    (Atom.look .textStart).Spans text i j ↔ i = 0 ∧ j = 0 := by
  simp only [Atom.Spans, Look.holds, before?]
  constructor
  · intro h
    obtain ⟨rfl, hle, hn⟩ := h
    by_cases hi : i = 0
    · exact ⟨hi, hi⟩
    · rw [if_neg hi, Option.isNone_iff_eq_none, List.getElem?_eq_none_iff] at hn
      omega
  · intro h
    obtain ⟨rfl, rfl⟩ := h
    simp

theorem spans_textEnd {text : List Char} {i j : Nat} :
    (Atom.look .textEnd).Spans text i j ↔ i = text.length ∧ j = text.length := by
  simp only [Atom.Spans, Look.holds, Option.isNone_iff_eq_none, List.getElem?_eq_none_iff]
  omega

theorem isMatch_connects {t : Pattern.Tree Atom} {text : List Char} :
    (connects.anchorTree t).isMatch text = true ↔ ∃ j, t.Spans text 0 j := by
  simp only [Pattern.Tree.isMatch_iff, anchorTree, Pattern.Tree.Spans, Pattern.Tree.Path,
    spans_textStart]
  constructor
  · intro h
    obtain ⟨i, j, -, m, ⟨rfl, rfl⟩, k, ht, rfl⟩ := h
    exact ⟨k, ht⟩
  · intro h
    obtain ⟨j, ht⟩ := h
    exact ⟨0, j, Nat.zero_le _, 0, ⟨rfl, rfl⟩, j, ht, rfl⟩

theorem isMatch_exactly {t : Pattern.Tree Atom} {text : List Char} :
    (exactly.anchorTree t).isMatch text = true ↔ t.Spans text 0 text.length := by
  simp only [Pattern.Tree.isMatch_iff, anchorTree, Pattern.Tree.Spans, Pattern.Tree.Path,
    spans_textStart, spans_textEnd]
  constructor
  · intro h
    obtain ⟨i, j, -, m, ⟨rfl, rfl⟩, k, ht, n, ⟨rfl, rfl⟩, rfl⟩ := h
    exact ht
  · intro ht
    exact ⟨0, text.length, Nat.zero_le _, 0, ⟨rfl, rfl⟩, text.length, ht, text.length, ⟨rfl, rfl⟩,
      rfl⟩

end NumberingPlan.Dialling
