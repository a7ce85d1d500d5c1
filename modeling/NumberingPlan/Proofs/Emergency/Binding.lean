import NumberingPlan.Proofs.Emergency.Anchor
import NumberingPlan.Proofs.Emergency.Answers

/-! Registered emergency patterns between the looks that bind them. A pattern that compiles on its
own need not compile there: `Registry.bound_compiles_iff` says when it does. Where it does, it
matches as if there were nothing around it: `Registry.answers_iff_spans`. -/
namespace NumberingPlan
open Pattern

section
variable [Engine]

theorem Registry.national_bare {root : Element} {lite : Bool} {g : Registry}
    (h : Registry.ofDocument root lite = .ok g) {region : String} {r : Record}
    (hr : g.record? region = some r) (c : Category) :
    IsBarePattern (r.description c).national := by
  obtain ⟨-, t, -, hrecord⟩ := (record?_ofDocument h).1 hr
  obtain ⟨-, -, hload⟩ := Record.ofTerritory_eq_ok.1 hrecord
  exact Descriptions.load_bare hload c _ (by simp [Description.patterns, Record.description])

theorem Dialling.foundIn_anchor {d : Dialling} {pattern : String} {t : Pattern.Tree Atom}
    (ht : compile pattern.toList = .ok t) (hd : Compiles (d.anchor pattern).toList)
    {text : List Char} :
    FoundIn (d.anchor pattern).toList text ↔ (d.anchorTree t).isMatch text = true := by
  obtain ⟨u, hu⟩ := hd
  have htree := compile_anchor ht hu
  rw [FoundIn, hu, ← htree, Pattern.Tree.isMatch_iff]
  simp

theorem Registry.answer_eq_false {g : Registry} {region : String} {r : Record}
    (hr : g.record? region = some r) {d : Dialling}
    (hd : ¬ Compiles (d.anchor (r.description .emergency).national).toList) (number : String) :
    g.answer { dialling := d, number, region } = false := by
  rw [Bool.eq_false_iff]
  intro htrue
  obtain ⟨-, x, hx, -, u, hu, -⟩ := answer_eq_true.1 htrue
  rw [hr, Option.some.injEq] at hx
  subst hx
  exact hd ⟨u, hu⟩

/-- A registered pattern compiles, but bound it is well formed only if it does not end in an open
comment, behind which what binds it is lost, and does not nest too deep for a group around it. What
is well formed compiles if the engine finds that it fits; where the bound pattern does not compile,
the answer is always no. -/
theorem Registry.bound_compiles_iff {root : Element} {lite : Bool} {g : Registry}
    (h : Registry.ofDocument root lite = .ok g) {region : String} {r : Record}
    (hr : g.record? region = some r) :
    ∃ p, parse? (r.description .emergency).national.toList = some p ∧ p.depth ≤ depthLimit ∧
      Engine.fits (r.description .emergency).national.toList = true ∧
      ∀ d : Dialling,
        (WellFormed (d.anchor (r.description .emergency).national).toList ↔
          ¬ EndsInComment (r.description .emergency).national.toList ∧
            p.depth + 2 ≤ depthLimit) ∧
        (Compiles (d.anchor (r.description .emergency).national).toList ↔
          ¬ EndsInComment (r.description .emergency).national.toList ∧
            p.depth + 2 ≤ depthLimit ∧
            Engine.fits (d.anchor (r.description .emergency).national).toList = true) ∧
        (¬ Compiles (d.anchor (r.description .emergency).national).toList →
          ∀ number, g.answer { dialling := d, number, region } = false) := by
  have hpattern := (national_bare h hr .emergency).1
  obtain ⟨⟨p, hp, hdepth⟩, hfits⟩ := compiles_iff.1 hpattern
  have hwellFormed := Dialling.wellFormed_anchor_iff hp
  refine ⟨p, hp, hdepth, hfits, fun d => ⟨hwellFormed d, ?_, fun hd => answer_eq_false hr hd⟩⟩
  rw [compiles_iff, hwellFormed, and_assoc]

end

/-- The comment that ends the emergency pattern goes on in what binds it. -/
def openComment : Element where
  name := "phoneNumberMetadata"
  children := [
    { name := Schema.territories
      children := [
        { name := Schema.territory
          attributes := [("id", "XX"), ("countryCode", "1"), ("internationalPrefix", "00")]
          children := [
            { name := "emergency"
              children := [{ name := "nationalNumberPattern", text := "(?x)911#c" }] }] }] }]

theorem Registry.exists_openComment :
    ∃ g r, Registry.ofDocument openComment false = .ok g ∧ g.record? "XX" = some r ∧
      (r.description .emergency).national = "(?x)911#c" := ⟨_, _, rfl, rfl, rfl⟩

theorem Registry.not_compiles_openComment :
    ∃ g r, Registry.ofDocument openComment false = .ok g ∧ g.record? "XX" = some r ∧
      ∀ d : Dialling, ¬ Compiles (d.anchor (r.description .emergency).national).toList := by
  obtain ⟨g, r, hg, hr, hnational⟩ := exists_openComment
  have hcomment : EndsInComment "(?x)911#c".toList := ⟨_, rfl, rfl⟩
  obtain ⟨p, -, -, -, hbound⟩ := Registry.bound_compiles_iff hg hr
  refine ⟨g, r, hg, hr, fun d hd => ?_⟩
  have hclosed := ((hbound d).2.1.1 hd).1
  rw [hnational] at hclosed
  exact hclosed hcomment

theorem Registry.not_forall_bound_compiles :
    ¬ ∀ root lite g region r, Registry.ofDocument root lite = .ok g → g.record? region = some r →
      (r.description .emergency).hasNationalNumbers = true →
      ∀ d : Dialling, Compiles (d.anchor (r.description .emergency).national).toList := by
  intro h
  obtain ⟨g, r, hg, hr, hnational⟩ := exists_openComment
  have hnumbers : (r.description .emergency).hasNationalNumbers = true := by
    rw [Description.hasNationalNumbers, hnational]
    decide
  have hd := h openComment false g "XX" r hg hr hnumbers .exactly
  rw [hnational] at hd
  exact absurd hd (by decide)

/-- Bound, a pattern answers what it matches on its own: all of the text, or some of it from the
front, with any of its alternatives and repetitions. -/
theorem Registry.answers_iff_spans [Engine] {root : Element} {lite : Bool} {g : Registry}
    (h : Registry.ofDocument root lite = .ok g) {region : String} {r : Record}
    (hr : g.record? region = some r)
    (hn : (r.description .emergency).hasNationalNumbers = true) :
    ∃ t, compile (r.description .emergency).national.toList = .ok t ∧
      ∀ number, Domestic number →
        (Compiles (Dialling.exactly.anchor (r.description .emergency).national).toList →
          (g.isEmergency number region = true ↔
            t.Spans (Dialling.exactly.textOf number) 0
              (Dialling.exactly.textOf number).length)) ∧
        (Compiles (Dialling.connects.anchor (r.description .emergency).national).toList →
          (g.connectsToEmergency number region = true ↔
            ∃ j, t.Spans (Dialling.connects.textOf number) 0 j)) := by
  obtain ⟨t, ht⟩ := (national_bare h hr .emergency).1
  have hanswer : ∀ (d : Dialling) number, Domestic number →
      Compiles (d.anchor (r.description .emergency).national).toList →
      (g.answer { dialling := d, number, region } = true ↔
        (d.anchorTree t).isMatch (d.textOf number) = true) := by
    intro d number hdomestic hd
    rw [answer_eq_true, ← Dialling.foundIn_anchor ht hd]
    simp [hdomestic, hr, hn]
  refine ⟨t, ht, fun number hdomestic => ⟨fun hd => ?_, fun hd => ?_⟩⟩
  · rw [isEmergency, hanswer _ number hdomestic hd, Dialling.isMatch_exactly]
  · rw [connectsToEmergency, hanswer _ number hdomestic hd, Dialling.isMatch_connects]

theorem Registry.spans_twiceDescribed :
    ∃ g r t, Registry.ofDocument twiceDescribed false = .ok g ∧ g.record? "XX" = some r ∧
      compile (r.description .emergency).national.toList = .ok t ∧
      t.Spans "911".toList 0 3 ∧ ∃ j, t.Spans "911".toList 0 j := by
  have hg : ∃ g, Registry.ofDocument twiceDescribed false = .ok g ∧
      g.isEmergency "911" "XX" = true ∧ g.connectsToEmergency "911" "XX" = true ∧
      ∃ r, g.record? "XX" = some r ∧ (r.description .emergency).national = "9|911" :=
    ⟨_, rfl, rfl, rfl, _, rfl, rfl⟩
  obtain ⟨g, hg, hexact, hconnects, r, hr, hnational⟩ := hg
  have hnumbers : (r.description .emergency).hasNationalNumbers = true := by
    rw [Description.hasNationalNumbers, hnational]
    decide
  have hdomestic : Domestic "911" := by decide
  have hbound : ∀ d : Dialling,
      Compiles (d.anchor (r.description .emergency).national).toList := by
    intro d
    rw [hnational]
    cases d <;> decide
  obtain ⟨t, ht, hspans⟩ := Registry.answers_iff_spans hg hr hnumbers
  obtain ⟨hall, hfront⟩ := hspans "911" hdomestic
  exact ⟨g, r, t, hg, hr, ht, (hall (hbound .exactly)).1 hexact,
    (hfront (hbound .connects)).1 hconnects⟩

end NumberingPlan
