import NumberingPlan.Proofs.Territory.StoppedRules

/-! The international side of one rule, loaded into a record by itself. One rule is added or none,
and where something is wrong with the element the record stays as it is. Main statement:
`Record.loadInternationalFormat_atomic`. -/
namespace NumberingPlan

variable [Pattern.Engine]

variable {rule : Element} {format : String} {fault : Fault}

def Element.ruleAbroad (rule : Element) (format : String) : FormatRule where
  pattern := (rule.attribute? Schema.pattern).getD ""
  format
  leadingDigits :=
    (rule.childrenNamed Schema.leadingDigits).map fun d => Text.withoutBlanks d.text
  nationalPrefixRule := ""
  carrierCodeRule := ""
  nationalPrefixOptional := false

/-- Whether an element says something of its own about calls from abroad, and the rules it adds for
them. An element that withholds its numbers need not have patterns. -/
inductive Element.AddsOnce (rule : Element) (format : String) : Bool → List FormatRule → Prop
  | implied (habroad : rule.childrenNamed Schema.internationalFormat = [])
    (hpatterns : rule.HasPatterns) : AddsOnce rule format false [rule.ruleAbroad format]
  | withheld {f : Element} (habroad : rule.childrenNamed Schema.internationalFormat = [f])
    (hf : f.text = notApplicable) : AddsOnce rule format true []
  | explicit {f : Element} (habroad : rule.childrenNamed Schema.internationalFormat = [f])
    (hf : f.text ≠ notApplicable) (hpatterns : rule.HasPatterns) :
    AddsOnce rule format true [rule.ruleAbroad f.text]

/-- What keeps an element from having an international side: its number of formats, whatever its
patterns are, or else the first text that is no pattern, unless its numbers are withheld. -/
inductive Element.AbroadFault (rule : Element) : Fault → Prop
  | formatCount {k : Nat} (hk : (rule.childrenNamed Schema.internationalFormat).length = k)
    (h : 2 ≤ k) : AbroadFault rule (.internationalFormatCount k)
  | pattern {text : String} {defect : Pattern.Defect}
    (hone : (rule.childrenNamed Schema.internationalFormat).length ≤ 1)
    (hoffered : ∀ f ∈ rule.childrenNamed Schema.internationalFormat, f.text ≠ notApplicable)
    (h : rule.TextFault (.invalidPattern text defect)) :
    AbroadFault rule (.invalidPattern text defect)

/-- Leading digits and the pattern are looked at before the number of formats. -/
theorem FormatDraft.exists_loadPatterns_eq_error {d : FormatDraft} :
    (∃ d', (loadPatterns rule).run d = .error fault d') ↔
      ∃ text defect, fault = .invalidPattern text defect ∧
        rule.TextFault (.invalidPattern text defect) := by
  constructor
  · intro h
    obtain ⟨d', h⟩ := h
    have htext := exists_loadNational_eq_error.1 ⟨d', loadNational_eq_error.2 (.inl h)⟩
    have hcheck : ∃ s, checkPattern s = .error fault := by
      rcases loadPatterns_eq_error.1 h with h | ⟨-, hpattern⟩
      · obtain ⟨-, e, -, -, -, hdigits, -⟩ := loadLeadingDigits_eq_error.1 h
        exact ⟨_, hdigits⟩
      · exact ⟨_, hpattern⟩
    obtain ⟨s, hs⟩ := hcheck
    obtain ⟨defect, -, rfl⟩ := checkPattern_eq_error.1 hs
    exact ⟨s, defect, rfl, htext⟩
  · intro h
    obtain ⟨text, defect, rfl, htext⟩ := h
    obtain ⟨d', hnational⟩ := exists_loadNational_eq_error (d := d).2 htext
    rcases loadNational_eq_error.1 hnational with h | ⟨-, hformat⟩
    · exact ⟨d', h⟩
    · obtain ⟨n, -, -, hfault⟩ := onlyFormat_eq_error.1 hformat
      cases hfault

theorem FormatRule.plain_eq_ok_iff {r : FormatRule} :
    FormatRule.plain rule format = .ok r ↔ rule.HasPatterns ∧ r = rule.ruleAbroad format := by
  simp only [plain_eq_ok, FormatDraft.loadPatterns_eq_ok_iff]
  constructor
  · intro h
    obtain ⟨_, ⟨hpatterns, rfl⟩, rfl⟩ := h
    exact ⟨hpatterns, rfl⟩
  · intro h
    obtain ⟨hpatterns, rfl⟩ := h
    exact ⟨_, ⟨hpatterns, rfl⟩, rfl⟩

theorem FormatRule.plain_eq_error_iff :
    FormatRule.plain rule format = .error fault ↔
      ∃ text defect, fault = .invalidPattern text defect ∧
        rule.TextFault (.invalidPattern text defect) := by
  rw [← FormatDraft.exists_loadPatterns_eq_error (d := {})]
  unfold FormatRule.plain
  cases (FormatDraft.loadPatterns rule).run {} with
  | ok u d => simp [FormatDraft.finish]
  | error cause d => simp

theorem International.ofElement_eq_ok_iff {own : Bool} {added : List FormatRule} :
    (∃ i, International.ofElement rule format = .ok i ∧ own = i.isOwn ∧ added = i.entries) ↔
      rule.AddsOnce format own added := by
  constructor
  · intro h
    obtain ⟨i, hi, rfl, rfl⟩ := h
    unfold ofElement at hi
    split at hi
    case h_1 habroad =>
      obtain ⟨r, hr, rfl⟩ := map_eq_ok.1 hi
      obtain ⟨hpatterns, rfl⟩ := FormatRule.plain_eq_ok_iff.1 hr
      exact .implied habroad hpatterns
    case h_2 f habroad =>
      by_cases hf : f.text = notApplicable
      · rw [if_pos hf] at hi
        cases hi
        exact .withheld habroad hf
      · rw [if_neg hf] at hi
        obtain ⟨r, hr, rfl⟩ := map_eq_ok.1 hi
        obtain ⟨hpatterns, rfl⟩ := FormatRule.plain_eq_ok_iff.1 hr
        exact .explicit habroad hf hpatterns
    case h_3 => cases hi
  · intro h
    unfold ofElement
    cases h with
    | implied habroad hpatterns =>
      have hplain : FormatRule.plain rule format = .ok (rule.ruleAbroad format) :=
        FormatRule.plain_eq_ok_iff.2 ⟨hpatterns, rfl⟩
      exact ⟨.implied _, by rw [habroad]; exact map_eq_ok.2 ⟨_, hplain, rfl⟩, rfl, rfl⟩
    | withheld habroad hf =>
      exact ⟨.withheld, by rw [habroad]; exact if_pos hf, rfl, rfl⟩
    | @explicit f habroad hf hpatterns =>
      have hplain : FormatRule.plain rule f.text = .ok (rule.ruleAbroad f.text) :=
        FormatRule.plain_eq_ok_iff.2 ⟨hpatterns, rfl⟩
      refine ⟨.explicit _, ?_, rfl, rfl⟩
      rw [habroad]
      exact (if_neg hf).trans (map_eq_ok.2 ⟨_, hplain, rfl⟩)

theorem International.ofElement_eq_error_iff :
    International.ofElement rule format = .error fault ↔ rule.AbroadFault fault := by
  have hplain : ∀ format, FormatRule.plain rule format = .error fault ↔
      ∃ text defect, fault = .invalidPattern text defect ∧
        rule.TextFault (.invalidPattern text defect) := fun _ => FormatRule.plain_eq_error_iff
  unfold ofElement
  constructor
  · intro h
    split at h
    case h_1 habroad =>
      obtain ⟨text, defect, rfl, htext⟩ := (hplain _).1 (map_eq_error.1 h)
      exact .pattern (by simp [habroad]) (by simp [habroad]) htext
    case h_2 f habroad =>
      by_cases hf : f.text = notApplicable
      · rw [if_pos hf] at h
        cases h
      · rw [if_neg hf] at h
        obtain ⟨text, defect, rfl, htext⟩ := (hplain _).1 (map_eq_error.1 h)
        exact .pattern (by simp [habroad]) (by simpa [habroad] using hf) htext
    case h_3 hnil hone =>
      cases h
      refine .formatCount rfl ?_
      rcases hs : rule.childrenNamed Schema.internationalFormat with _ | ⟨f, _ | ⟨g, gs⟩⟩
      · exact absurd hs hnil
      · exact absurd hs (hone f)
      · simp
  · intro h
    cases h with
    | formatCount hk htwo =>
      subst hk
      rcases hs : rule.childrenNamed Schema.internationalFormat with _ | ⟨f, _ | ⟨g, gs⟩⟩
      · simp [hs] at htwo
      · simp [hs] at htwo
      · rfl
    | @pattern text defect hone hoffered htext =>
      rcases hs : rule.childrenNamed Schema.internationalFormat with _ | ⟨f, _ | ⟨g, gs⟩⟩
      · exact map_eq_error.2 ((hplain _).2 ⟨text, defect, rfl, htext⟩)
      · have hf : f.text ≠ notApplicable := hoffered f (by simp [hs])
        exact (if_neg hf).trans (map_eq_error.2 ((hplain _).2 ⟨text, defect, rfl, htext⟩))
      · simp [hs] at hone

theorem Formats.loadInternational_eq_error {fs fs' : Formats} :
    (loadInternational rule format).run fs = .error fault fs' ↔
      International.ofElement rule format = .error fault ∧ fs' = fs := by
  simp only [loadInternational, run_bind_eq_error, run_ofExcept_eq_error, run_ofExcept_eq_ok]
  constructor
  · intro h
    rcases h with h | ⟨i, _, ⟨-, rfl⟩, h⟩
    · exact h
    -- once the side is known nothing can go wrong any more
    · cases i <;> cases h
  · exact .inl

theorem Record.loadInternationalFormat_eq_error {r r' : Record} :
    (loadInternationalFormat rule format).run r = .error fault r' ↔
      International.ofElement rule format = .error fault ∧ r' = r := by
  simp only [loadInternationalFormat, onFormats_eq_error, Formats.loadInternational_eq_error]
  constructor
  · intro h
    obtain ⟨_, ⟨hfault, rfl⟩, rfl⟩ := h
    exact ⟨hfault, rfl⟩
  · intro h
    obtain ⟨hfault, rfl⟩ := h
    exact ⟨_, ⟨hfault, rfl⟩, rfl⟩

/-- Loading the international side of an element adds one rule or none to the rules for calls from
abroad that a record has, behind them, and changes nothing else of it; where it fails, nothing at
all is changed. -/
theorem Record.loadInternationalFormat_atomic (rule : Element) (format : String) (r r' : Record) :
    (∀ own, (loadInternationalFormat rule format).run r = .ok own r' ↔
      ∃ added, rule.AddsOnce format own added ∧ r' = r.addInternational added) ∧
    ∀ fault, (loadInternationalFormat rule format).run r = .error fault r' ↔
      rule.AbroadFault fault ∧ r' = r := by
  refine ⟨fun own => ?_, fun fault => ?_⟩
  · simp only [loadInternationalFormat_eq_ok, ← International.ofElement_eq_ok_iff]
    constructor
    · intro h
      obtain ⟨i, hi, hown, rfl⟩ := h
      exact ⟨_, ⟨i, hi, hown, rfl⟩, rfl⟩
    · intro h
      obtain ⟨_, ⟨i, hi, hown, rfl⟩, rfl⟩ := h
      exact ⟨i, hi, hown, rfl⟩
  · rw [loadInternationalFormat_eq_error, International.ofElement_eq_error_iff]

def withheldRule : Element where
  name := Schema.numberFormat
  attributes := [("pattern", "(")]
  children := [{ name := "leadingDigits", text := "[" }, { name := "intlFormat", text := "NA" }]

example : (Record.loadInternationalFormat withheldRule "$1").run loadedRecord =
    .ok true loadedRecord := rfl

end NumberingPlan
