import NumberingPlan.Proofs.Outcome
import NumberingPlan.Territory.Formats

/-! What loading formatting rules leaves behind where it succeeds. Main statement:
`Formats.load_eq_ok`, both sides of every rule of the territory, in order. -/
namespace NumberingPlan

theorem finish_eq_ok {d : FormatDraft} {r : FormatRule} :
    d.finish = .ok r ↔ ∃ format, d.format = some format ∧ r = { d with format } := by
  unfold FormatDraft.finish
  cases d.format with
  | none => simp
  | some format =>
    simp only [Except.ok.injEq, Option.some.injEq, exists_eq_left']
    exact eq_comm

/-- A draft starts with no patterns; the rest is the rule's own where it has it. -/
theorem FormatDefaults.draft_eq_ok {defaults : FormatDefaults} {nationalPrefix : String}
    {rule : Element} {d : FormatDraft} :
    defaults.draft nationalPrefix rule = .ok d ↔
      (if rule.hasAttribute Schema.nationalPrefixOptional then
          rule.switch Schema.nationalPrefixOptional
        else .ok defaults.nationalPrefixOptional) = .ok d.nationalPrefixOptional ∧
      d = {
        nationalPrefixRule :=
          if rule.hasAttribute Schema.nationalPrefixRule then
            rule.nationalPrefixRule nationalPrefix
          else defaults.nationalPrefixRule
        carrierCodeRule :=
          if rule.hasAttribute Schema.carrierCodeRule then rule.carrierCodeRule nationalPrefix
          else defaults.carrierCodeRule
        nationalPrefixOptional := d.nationalPrefixOptional } := by
  unfold FormatDefaults.draft
  by_cases ho : rule.hasAttribute Schema.nationalPrefixOptional = true
  · simp only [ho, if_true, bind_eq_ok, pure_eq_ok]
    constructor
    · intro h
      obtain ⟨optional, hs, rfl⟩ := h
      exact ⟨hs, rfl⟩
    · intro h
      exact ⟨_, h.1, h.2.symm⟩
  · simp only [ho, if_false, Bool.false_eq_true, bind_eq_ok, pure_eq_ok, exists_eq_left',
      Except.ok.injEq]
    constructor
    · intro h
      subst h
      exact ⟨rfl, rfl⟩
    · intro h
      rw [h.1]
      exact h.2.symm

variable [Pattern.Engine]

namespace FormatDraft

theorem loadLeadingDigits_eq_ok {es : List Element} {d d' : FormatDraft} {u : Unit} :
    (loadLeadingDigits es).run d = .ok u d' ↔
      ∃ ps, es.mapM (fun e => checkBarePattern e.text) = .ok ps ∧
        d' = { d with leadingDigits := d.leadingDigits ++ ps } := by
  induction es generalizing d with
  | nil =>
    simp only [loadLeadingDigits, run_pure_eq_ok, List.mapM_nil, pure_eq_ok]
    constructor
    · intro h
      obtain ⟨-, rfl⟩ := h
      exact ⟨[], rfl, by simp⟩
    · intro h
      obtain ⟨ps, rfl, rfl⟩ := h
      simp
  | cons e es ih =>
    simp only [loadLeadingDigits, run_bind_eq_ok, run_ofExcept_eq_ok, run_modify_eq_ok,
      List.mapM_cons, bind_eq_ok, pure_eq_ok, ih]
    constructor
    · intro h
      obtain ⟨p, _, ⟨hp, rfl⟩, _, _, rfl, ps, hps, rfl⟩ := h
      exact ⟨p :: ps, ⟨p, hp, ps, hps, rfl⟩, by simp⟩
    · intro h
      obtain ⟨_, ⟨p, hp, ps, hps, rfl⟩, rfl⟩ := h
      exact ⟨p, _, ⟨hp, rfl⟩, (), _, rfl, ps, hps, by simp⟩

/-- The pattern of a rule; a rule without one has the empty pattern. -/
theorem loadPatterns_eq_ok {rule : Element} {d d' : FormatDraft} {u : Unit} :
    (loadPatterns rule).run d = .ok u d' ↔
      ∃ ps p, (rule.childrenNamed Schema.leadingDigits).mapM (fun e => checkBarePattern e.text) =
          .ok ps ∧ checkPattern ((rule.attribute? Schema.pattern).getD "") = .ok p ∧
        d' = { d with leadingDigits := d.leadingDigits ++ ps, pattern := p } := by
  simp only [loadPatterns, run_bind_eq_ok, run_ofExcept_eq_ok, run_modify_eq_ok,
    loadLeadingDigits_eq_ok]
  constructor
  · intro h
    obtain ⟨_, _, ⟨ps, hps, rfl⟩, p, _, ⟨hp, rfl⟩, rfl⟩ := h
    exact ⟨ps, p, hps, hp, rfl⟩
  · intro h
    obtain ⟨ps, p, hps, hp, rfl⟩ := h
    exact ⟨(), _, ⟨ps, hps, rfl⟩, p, _, ⟨hp, rfl⟩, rfl⟩

theorem loadNational_eq_ok {rule : Element} {d d' : FormatDraft} {format : String} :
    (loadNational rule).run d = .ok format d' ↔
      ∃ m, (loadPatterns rule).run d = .ok () m ∧ onlyFormat rule = .ok format ∧
        d' = { m with format := some format } := by
  simp only [loadNational, run_bind_eq_ok, run_ofExcept_eq_ok, run_modify_eq_ok, run_pure_eq_ok]
  constructor
  · intro h
    obtain ⟨_, m, hm, f, _, ⟨hf, rfl⟩, _, _, rfl, rfl, rfl⟩ := h
    exact ⟨m, hm, hf, rfl⟩
  · intro h
    obtain ⟨m, hm, hf, rfl⟩ := h
    exact ⟨(), m, hm, format, m, ⟨hf, rfl⟩, (), _, rfl, rfl, rfl⟩

end FormatDraft

theorem FormatRule.plain_eq_ok {rule : Element} {format : String} {r : FormatRule} :
    FormatRule.plain rule format = .ok r ↔
      ∃ d, (FormatDraft.loadPatterns rule).run {} = .ok () d ∧ r = { d with format } := by
  unfold FormatRule.plain
  cases h : (FormatDraft.loadPatterns rule).run {} with
  | error fault d => simp
  | ok u d =>
    simp only [finish_eq_ok, Option.some.injEq, exists_eq_left', EStateM.Result.ok.injEq, true_and]

theorem FormatRule.ofElement_eq_ok {defaults : FormatDefaults} {nationalPrefix : String}
    {rule : Element} {r : FormatRule} :
    FormatRule.ofElement defaults nationalPrefix rule = .ok r ↔
      ∃ d m format, defaults.draft nationalPrefix rule = .ok d ∧
        (FormatDraft.loadPatterns rule).run d = .ok () m ∧
        FormatDraft.onlyFormat rule = .ok format ∧ r = { m with format } := by
  simp only [FormatRule.ofElement, bind_eq_ok]
  constructor
  · intro h
    obtain ⟨d, hd, h⟩ := h
    cases hn : (FormatDraft.loadNational rule).run d with
    | error fault m => simp [hn, throw, throwThe, MonadExceptOf.throw] at h
    | ok format m' =>
      obtain ⟨m, hm, hf, rfl⟩ := FormatDraft.loadNational_eq_ok.1 hn
      simp only [hn, finish_eq_ok, Option.some.injEq, exists_eq_left'] at h
      exact ⟨d, m, format, hd, hm, hf, h⟩
  · intro h
    obtain ⟨d, m, format, hd, hm, hf, rfl⟩ := h
    have hn := FormatDraft.loadNational_eq_ok.2 ⟨m, hm, hf, rfl⟩
    refine ⟨d, hd, ?_⟩
    simp only [hn, finish_eq_ok, Option.some.injEq, exists_eq_left']

def International.listed : International → List FormatRule
  | explicit r => [r]
  | _ => []

theorem International.ofElement_eq_explicit {rule : Element} {nationalFormat : String}
    {r : FormatRule} :
    International.ofElement rule nationalFormat = .ok (.explicit r) ↔
      ∃ f, rule.childrenNamed Schema.internationalFormat = [f] ∧ f.text ≠ notApplicable ∧
        FormatRule.plain rule f.text = .ok r := by
  unfold International.ofElement
  split
  case h_1 h => simp [h, map_eq_ok]
  case h_2 f h =>
    by_cases hf : f.text = notApplicable
    · simp [h, hf]
    · simp [h, hf, map_eq_ok]
  case h_3 fs _ hne =>
    simp only [reduceCtorEq, false_iff]
    intro h
    obtain ⟨f, hf, -⟩ := h
    exact hne f hf

namespace Formats

def sidesOf (defaults : FormatDefaults) (nationalPrefix : String) (rule : Element) :
    Except Fault (FormatRule × International) := do
  let r ← FormatRule.ofElement defaults nationalPrefix rule
  let i ← International.ofElement rule r.format
  return (r, i)

/-- A list of formats with both sides of some rules added. -/
def addSides (fs : Formats) (sides : List (FormatRule × International)) : Formats where
  national := fs.national ++ sides.map Prod.fst
  international := fs.international ++ sides.flatMap fun s => s.2.listed

theorem loadRule_eq_ok {defaults : FormatDefaults} {nationalPrefix : String} {rule : Element}
    {fs fs' : Formats} {u : Unit} :
    (loadRule defaults nationalPrefix rule).run fs = .ok u fs' ↔
      ∃ s, sidesOf defaults nationalPrefix rule = .ok s ∧ fs' = fs.addSides [s] := by
  simp only [loadRule, sidesOf, run_bind_eq_ok, run_ofExcept_eq_ok, run_modify_eq_ok, bind_eq_ok,
    pure_eq_ok]
  constructor
  · intro h
    obtain ⟨r, _, ⟨hr, rfl⟩, _, _, rfl, i, _, ⟨hi, rfl⟩, h⟩ := h
    refine ⟨(r, i), ⟨r, hr, i, hi, rfl⟩, ?_⟩
    cases i with
    | explicit x =>
      have h' := (run_modify_eq_ok.1 h).symm
      simpa [addSides, International.listed, addNational, addInternational] using h'
    | implied x | withheld =>
      have h' := (run_pure_eq_ok.1 h).2.symm
      simpa [addSides, International.listed, addNational] using h'
  · intro h
    obtain ⟨_, ⟨r, hr, i, hi, rfl⟩, rfl⟩ := h
    refine ⟨r, _, ⟨hr, rfl⟩, (), _, rfl, i, _, ⟨hi, rfl⟩, ?_⟩
    cases i with
    | explicit x =>
      apply run_modify_eq_ok.2
      simp [addSides, International.listed, addNational, addInternational]
    | implied x | withheld =>
      apply run_pure_eq_ok.2
      simp [addSides, International.listed, addNational]

theorem loadRules_eq_ok {defaults : FormatDefaults} {nationalPrefix : String}
    {rules : List Element} {fs fs' : Formats} {u : Unit} :
    (loadRules defaults nationalPrefix rules).run fs = .ok u fs' ↔
      ∃ sides, rules.mapM (sidesOf defaults nationalPrefix) = .ok sides ∧
        fs' = fs.addSides sides := by
  induction rules generalizing fs with
  | nil =>
    simp only [loadRules, run_pure_eq_ok, List.mapM_nil, pure_eq_ok]
    constructor
    · intro h
      obtain ⟨-, rfl⟩ := h
      exact ⟨[], rfl, by simp [addSides]⟩
    · intro h
      obtain ⟨_, rfl, rfl⟩ := h
      simp [addSides]
  | cons e es ih =>
    simp only [loadRules, run_bind_eq_ok, loadRule_eq_ok, List.mapM_cons, bind_eq_ok, pure_eq_ok,
      ih]
    constructor
    · intro h
      obtain ⟨_, _, ⟨s, hs, rfl⟩, sides, hsides, rfl⟩ := h
      exact ⟨s :: sides, ⟨s, hs, sides, hsides, rfl⟩, by simp [addSides]⟩
    · intro h
      obtain ⟨_, ⟨s, hs, sides, hsides, rfl⟩, rfl⟩ := h
      exact ⟨(), _, ⟨s, hs, rfl⟩, sides, hsides, by simp [addSides]⟩

def rulesOf (territory : Element) : List Element :=
  ((territory.firstChild? Schema.availableFormats).map
    (·.childrenNamed Schema.numberFormat)).getD []

theorem load_eq_loadRules (t : Element) (nationalPrefix nationalPrefixRule : String)
    (nationalPrefixOptional : Bool) :
    load t nationalPrefix nationalPrefixRule nationalPrefixOptional = (do
      modify fun fs => { fs with international := [] }
      let carrierCodeRule := t.carrierCodeRule nationalPrefix
      loadRules { nationalPrefixRule, carrierCodeRule, nationalPrefixOptional } nationalPrefix
        (rulesOf t)) := by
  rw [load, rulesOf]
  cases t.firstChild? Schema.availableFormats <;> rfl

theorem load_eq_ok {territory : Element} {nationalPrefix nationalPrefixRule : String}
    {nationalPrefixOptional : Bool} {fs fs' : Formats} {u : Unit} :
    (load territory nationalPrefix nationalPrefixRule nationalPrefixOptional).run fs =
        .ok u fs' ↔
      ∃ sides, (rulesOf territory).mapM (sidesOf
          { nationalPrefixRule, carrierCodeRule := territory.carrierCodeRule nationalPrefix,
            nationalPrefixOptional } nationalPrefix) = .ok sides ∧
        fs' = ({ fs with international := [] } : Formats).addSides sides := by
  simp only [load_eq_loadRules, run_bind_eq_ok, run_modify_eq_ok, loadRules_eq_ok]
  constructor
  · intro h
    obtain ⟨_, _, rfl, h⟩ := h
    exact h
  · intro h
    exact ⟨(), _, rfl, h⟩

end Formats

end NumberingPlan
