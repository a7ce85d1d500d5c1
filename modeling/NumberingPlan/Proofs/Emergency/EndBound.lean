import NumberingPlan.Proofs.Emergency.Binding
import NumberingPlan.Proofs.Emergency.Inclusion

/-! Emergency patterns that look for the end of the text themselves: a pattern in a group, with a
dollar sign behind it. The group keeps alternatives and flags inside, so the dollar sign means the
end of the text, and nothing may follow an emergency number. Main statement:
`Registry.connects_eq_isEmergency`. -/
namespace NumberingPlan
open Pattern

/-- One text in a group, numbered or not, and a dollar sign behind it. -/
def IsEndBound (inner pattern : String) : Prop :=
  pattern = "(?:" ++ inner ++ ")$" ∨ pattern = "(" ++ inner ++ ")$"

def endTree (t : Pattern.Tree Atom) : Pattern.Tree Atom :=
  .cat t (.cat (.atom (.look .textEnd)) .empty)

theorem spans_endTree {t : Pattern.Tree Atom} {text : List Char} {i j : Nat} :
    (endTree t).Spans text i j ↔ t.Spans text i text.length ∧ j = text.length := by
  simp only [endTree, Pattern.Tree.Spans, Pattern.Tree.Path, Dialling.spans_textEnd]
  constructor
  · intro h
    obtain ⟨m, ht, n, ⟨rfl, rfl⟩, rfl⟩ := h
    exact ⟨ht, rfl⟩
  · intro h
    obtain ⟨ht, rfl⟩ := h
    exact ⟨_, ht, _, ⟨rfl, rfl⟩, rfl⟩

variable {inner pattern : String}

theorem feed_endBound [PropertyTable] (h : IsEndBound inner pattern) {r : Reader}
    (hr : Reader.feed {} inner.toList = some r) :
    Reader.feed {} pattern.toList =
      Reader.feed (Reader.within [{}] {}) (inner.toList ++ [')', '$']) := by
  rcases h with rfl | rfl
  · have hopen : Reader.feed {} "(?:".toList = some (Reader.within [{}] {}) :=
      Reader.feed_open rfl []
    rw [String.toList_append, String.toList_append, List.append_assoc, Reader.feed_append, hopen,
      Option.bind_some]
    rfl
  · rw [String.toList_append, String.toList_append]
    exact Reader.feed_numbered hr rfl [] (by decide) ['$']

section
variable [Engine]

theorem parse?_endBound (h : IsEndBound inner pattern) (hcompiles : Compiles pattern.toList)
    {p : Part} (hp : parse? inner.toList = some p) :
    parse? pattern.toList = some { tree := endTree p.tree, depth := p.depth + 2 } := by
  obtain ⟨r, hr, hfinish⟩ := Option.bind_eq_some_iff.1 hp
  have hfeed := feed_endBound h hr
  cases hc : r.comment with
  | true =>
    -- the comment would go on to the end, and the group stay open
    obtain ⟨⟨_, hparse, -⟩, -⟩ := compiles_iff.1 hcompiles
    rw [parse?, hfeed, Reader.feed_unclosed hr hc (by decide)] at hparse
    simp [Reader.finish?, Reader.within] at hparse
  | false =>
    have hsplit : inner.toList ++ [')', '$'] = inner.toList ++ ")".toList ++ ['$'] := by simp
    rw [parse?, hfeed, hsplit, Reader.feed_append, Reader.feed_close hr hfinish hc {} [],
      Option.bind_some, Reader.feed_singleton, Reader.step_dollar rfl]
    simp [Reader.finish?, Mode.final, Level.close, Level.branch, Level.push, endTree, Part.look]

theorem Dialling.foundIn_endBound (h : IsEndBound inner pattern) (hinner : Compiles inner.toList)
    (hpattern : Compiles pattern.toList) {d : Dialling} (hd : Compiles (d.anchor pattern).toList)
    {text : List Char} :
    FoundIn (d.anchor pattern).toList text ↔
      ∃ t, compile inner.toList = .ok t ∧ t.Spans text 0 text.length := by
  obtain ⟨u, hu⟩ := hinner
  obtain ⟨p, hp, -, -, rfl⟩ := compile_eq_ok.1 hu
  obtain ⟨t, ht⟩ := hpattern
  obtain ⟨q, hq, -, -, rfl⟩ := compile_eq_ok.1 ht
  rw [parse?_endBound h ⟨_, ht⟩ hp, Option.some.injEq] at hq
  subst hq
  rw [foundIn_anchor ht hd, hu]
  cases d with
  | connects => simp [isMatch_connects, spans_endTree]
  | exactly => simp [isMatch_exactly, spans_endTree]

namespace Registry

/-- Where the pattern of a region looks for the end of the number, a number connects only if it is
an emergency number itself. -/
theorem connects_eq_isEmergency {g : Registry} {region : String} {r : Record}
    (hr : g.record? region = some r)
    (h : IsEndBound inner (r.description .emergency).national) (hinner : Compiles inner.toList)
    (hpattern : Compiles (r.description .emergency).national.toList)
    (hbound : ∀ d : Dialling, Compiles (d.anchor (r.description .emergency).national).toList)
    {number : String} (hstar : Unstarred number) :
    g.connectsToEmergency number region = g.isEmergency number region := by
  have hfound : ∀ text,
      FoundIn (Dialling.connects.anchor (r.description .emergency).national).toList text ↔
        FoundIn (Dialling.exactly.anchor (r.description .emergency).national).toList text := by
    intro text
    rw [Dialling.foundIn_endBound h hinner hpattern (hbound _),
      Dialling.foundIn_endBound h hinner hpattern (hbound _)]
  rw [Bool.eq_iff_iff, connectsToEmergency, isEmergency, answer_eq_true, answer_eq_true,
    Dialling.textOf_exactly hstar]
  simp only [hr, Option.some.injEq, exists_eq_left', hfound]

end Registry

end

namespace Registry

/-- Two alternatives, the second of which would look for the end of a line. -/
def finalPattern : String := "(911|(?m)112)$"

theorem connects_finalPattern :
    let g := ofRecords [.ofEmergency "XX" finalPattern]
    ∃ r, g.record? "XX" = some r ∧
      IsEndBound "911|(?m)112" (r.description .emergency).national ∧
      Compiles "911|(?m)112".toList ∧ Compiles (r.description .emergency).national.toList ∧
      (∀ d : Dialling, Compiles (d.anchor (r.description .emergency).national).toList) ∧
      Unstarred " 11-2" ∧ g.connectsToEmergency " 11-2" "XX" = true ∧
      g.connectsToEmergency " 11-2" "XX" = g.isEmergency " 11-2" "XX" := by
  have hr : (ofRecords [.ofEmergency "XX" finalPattern]).record? "XX" =
      some (.ofEmergency "XX" finalPattern) := rfl
  have hend : IsEndBound "911|(?m)112" finalPattern := .inr rfl
  have hinner : Compiles "911|(?m)112".toList := by decide
  have hpattern : Compiles finalPattern.toList := by decide
  have hbound : ∀ d : Dialling, Compiles (d.anchor finalPattern).toList := by
    intro d
    cases d <;> decide
  have hstar : Unstarred " 11-2" := by decide
  exact ⟨_, hr, hend, hinner, hpattern, hbound, hstar, rfl,
    connects_eq_isEmergency hr hend hinner hpattern hbound hstar⟩

end Registry

end NumberingPlan
