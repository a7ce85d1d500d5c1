import NumberingPlan.Pattern.Standard
import NumberingPlan.Proofs.Territory.NationalSide
import NumberingPlan.Proofs.Territory.RuleByRule

/-! What loading formatting rules leaves behind where it fails. The first rule that cannot be loaded
ends it; what was stored for the rules before it stays, and of that rule itself its national side if
only the international one is wrong. Main statement: `Record.loadFormats_stopped`. -/
namespace NumberingPlan

variable {defaults : FormatDefaults} {nationalPrefix : String} {rule : Element} {fault : Fault}

theorem FormatDefaults.draft_eq_error :
    defaults.draft nationalPrefix rule = .error fault ↔
      ∃ v, rule.attribute? Schema.nationalPrefixOptional = some v ∧ ¬ IsSwitch v ∧
        fault = .invalidAttribute Schema.nationalPrefixOptional v := by
  rw [← Element.switch_eq_error]
  unfold FormatDefaults.draft
  cases ha : rule.attribute? Schema.nationalPrefixOptional with
  | none => simp [Element.hasAttribute, Element.switch, ha, pure, Except.pure, bind, Except.bind]
  | some v =>
    simp [Element.hasAttribute, ha, bind_eq_error, pure, Except.pure]

section
variable [Pattern.Engine]

/-- What keeps the texts of a rule from being loaded. They are looked at in this order, and the
first fault counts. -/
inductive Element.TextFault (rule : Element) : Fault → Prop
  | leadingDigits {before after : List Element} {e : Element} {defect : Pattern.Defect}
    (he : rule.childrenNamed Schema.leadingDigits = before ++ e :: after)
    (hbefore : ∀ x ∈ before, IsLoosePattern x.text)
    (h : Pattern.compile (Text.withoutBlanks e.text).toList = .error defect) :
    TextFault rule (.invalidPattern (Text.withoutBlanks e.text) defect)
  | pattern {v : String} {defect : Pattern.Defect}
    (hdigits : ∀ x ∈ rule.childrenNamed Schema.leadingDigits, IsLoosePattern x.text)
    (hv : (rule.attribute? Schema.pattern).getD "" = v)
    (h : Pattern.compile v.toList = .error defect) : TextFault rule (.invalidPattern v defect)
  | formatCount {n : Nat}
    (hdigits : ∀ x ∈ rule.childrenNamed Schema.leadingDigits, IsLoosePattern x.text)
    (hpattern : IsPattern ((rule.attribute? Schema.pattern).getD ""))
    (hn : (rule.childrenNamed Schema.format).length = n) (h : n ≠ 1) :
    TextFault rule (.formatCount n)

inductive Element.NationalFault (rule : Element) : Fault → Prop
  | switch {v : String} (hv : rule.attribute? Schema.nationalPrefixOptional = some v)
    (h : ¬ IsSwitch v) : NationalFault rule (.invalidAttribute Schema.nationalPrefixOptional v)
  | text {fault : Fault} (hswitch : rule.Allows Schema.nationalPrefixOptional IsSwitch)
    (h : rule.TextFault fault) : NationalFault rule fault

namespace FormatDraft

/-- Whatever a draft holds, the texts of the rule decide. -/
theorem exists_loadNational_eq_error {d : FormatDraft} :
    (∃ d', (loadNational rule).run d = .error fault d') ↔ rule.TextFault fault := by
  constructor
  · intro h
    obtain ⟨d', h⟩ := h
    have hleaves : rule.Leaves d (.error fault d') := h ▸ leaves_of_loadNational
    cases hleaves with
    | digitsFault hdigits hbefore hdefect => exact .leadingDigits hdigits hbefore hdefect
    | patternFault hdigits hpattern hdefect => exact .pattern hdigits hpattern hdefect
    | countFault hpatterns hk hne =>
      exact .formatCount hpatterns.leadingDigits hpatterns.pattern hk hne
  · intro h
    cases h with
    | leadingDigits he hbefore hdefect =>
      exact ⟨_, loadNational_of_leaves (.digitsFault he hbefore hdefect)⟩
    | pattern hdigits hv hdefect =>
      exact ⟨_, loadNational_of_leaves (.patternFault hdigits hv hdefect)⟩
    | formatCount hdigits hpattern hn hne =>
      exact ⟨_, loadNational_of_leaves (.countFault ⟨hdigits, hpattern⟩ hn hne)⟩

end FormatDraft

theorem FormatRule.ofElement_eq_error :
    FormatRule.ofElement defaults nationalPrefix rule = .error fault ↔
      rule.NationalFault fault := by
  simp only [FormatRule.ofElement, bind_eq_error, FormatDefaults.draft_eq_error]
  constructor
  · intro h
    rcases h with ⟨v, hv, hno, rfl⟩ | ⟨d, hd, h⟩
    · exact .switch hv hno
    · cases hn : (FormatDraft.loadNational rule).run d with
      | ok format m =>
        obtain ⟨n, -, -, rfl⟩ := FormatDraft.loadNational_eq_ok.1 hn
        rw [hn] at h
        cases h
      | error cause m =>
        rw [hn] at h
        cases h
        exact .text (FormatDefaults.exists_draft.1 ⟨d, hd⟩)
          (FormatDraft.exists_loadNational_eq_error.1 ⟨m, hn⟩)
  · intro h
    cases h with
    | switch hv hno => exact .inl ⟨_, hv, hno, rfl⟩
    | text hswitch h =>
      obtain ⟨d, hd⟩ := FormatDefaults.exists_draft.2 hswitch
      obtain ⟨m, hn⟩ := FormatDraft.exists_loadNational_eq_error.2 h
      refine .inr ⟨d, hd, ?_⟩
      rw [hn]
      rfl

/-- The patterns of a rule with a national side compile, so only the number of its international
formats can still be wrong. -/
theorem International.ofElement_eq_error {format : String} {d : FormatDraft}
    (h : (FormatDraft.loadPatterns rule).run {} = .ok () d) :
    International.ofElement rule format = .error fault ↔
      ∃ n, (rule.childrenNamed Schema.internationalFormat).length = n ∧ 2 ≤ n ∧
        fault = .internationalFormatCount n := by
  have hplain : ∀ format, ∃ r, FormatRule.plain rule format = .ok r :=
    fun format => ⟨_, FormatRule.plain_eq_ok.2 ⟨d, h, rfl⟩⟩
  unfold International.ofElement
  rcases rule.childrenNamed Schema.internationalFormat with _ | ⟨f, _ | ⟨g, gs⟩⟩
  · obtain ⟨r, hr⟩ := hplain format
    simp [hr, Except.map]
  · obtain ⟨r, hr⟩ := hplain f.text
    by_cases hna : f.text = notApplicable
    · simp [hna]
    · simp [hna, hr, Except.map]
  · simp [eq_comm]

/-- How loading stops at a rule, and what of the rule is stored by then: nothing, or its national
side. -/
inductive Element.Stops (defaults : FormatDefaults) (nationalPrefix : String) (rule : Element) :
    Fault → List FormatRule → Prop
  | national {fault : Fault} (h : rule.NationalFault fault) :
    Stops defaults nationalPrefix rule fault []
  | international {r : FormatRule} {n : Nat} (hr : r.ComesFrom defaults nationalPrefix rule)
    (hn : (rule.childrenNamed Schema.internationalFormat).length = n) (h : 2 ≤ n) :
    Stops defaults nationalPrefix rule (.internationalFormatCount n) [r]

theorem FormatRule.ComesFrom.exists_loadPatterns {r : FormatRule}
    (h : r.ComesFrom defaults nationalPrefix rule) :
    ∃ d, (FormatDraft.loadPatterns rule).run {} = .ok () d := by
  obtain ⟨_, hn, -⟩ := h.loaded
  obtain ⟨d, hd, -⟩ := FormatDraft.loadNational_eq_ok.1 hn
  exact ⟨d, hd⟩

theorem Formats.loadRule_eq_error {fs fs' : Formats} :
    (loadRule defaults nationalPrefix rule).run fs = .error fault fs' ↔
      ∃ stored, rule.Stops defaults nationalPrefix fault stored ∧
        fs' = { fs with national := fs.national ++ stored } := by
  simp only [loadRule, run_bind_eq_error, run_ofExcept_eq_error, run_ofExcept_eq_ok,
    run_modify_eq_error, run_modify_eq_ok, FormatRule.ofElement_eq_error,
    FormatRule.ofElement_eq_ok_iff]
  constructor
  · intro h
    rcases h with ⟨hfault, rfl⟩ | ⟨r, _, ⟨hr, rfl⟩, hfalse | ⟨_, _, rfl, h⟩⟩
    · exact ⟨[], .national hfault, by simp⟩
    · exact hfalse.elim
    · obtain ⟨d, hd⟩ := hr.exists_loadPatterns
      rcases h with ⟨hfault, rfl⟩ | ⟨i, _, -, h⟩
      · obtain ⟨n, hn, htwo, rfl⟩ := (International.ofElement_eq_error hd).1 hfault
        exact ⟨[r], .international hr hn htwo, rfl⟩
      · cases i <;> cases h
  · intro h
    obtain ⟨stored, hstops, rfl⟩ := h
    cases hstops with
    | national hfault => exact .inl ⟨hfault, by simp⟩
    | @international r n hr hn htwo =>
      obtain ⟨d, hd⟩ := hr.exists_loadPatterns
      have hfault : International.ofElement rule r.format = .error (.internationalFormatCount n) :=
        (International.ofElement_eq_error hd).2 ⟨n, hn, htwo, rfl⟩
      exact .inr ⟨_, _, ⟨hr, rfl⟩, .inr ⟨(), _, rfl, .inl ⟨hfault, rfl⟩⟩⟩

namespace Element.Stops

variable {stored : List FormatRule}

theorem not_isFormatRule (h : rule.Stops defaults nationalPrefix fault stored) :
    ¬ rule.IsFormatRule := by
  intro hrule
  obtain ⟨s, hs⟩ := Formats.exists_sidesOf.2 hrule
  have hok : (Formats.loadRule defaults nationalPrefix rule).run {} =
      .ok () (({} : Formats).addSides [s]) := Formats.loadRule_eq_ok.2 ⟨s, hs, rfl⟩
  have hfault : (Formats.loadRule defaults nationalPrefix rule).run {} = .error fault _ :=
    Formats.loadRule_eq_error.2 ⟨stored, h, rfl⟩
  rw [hok] at hfault
  cases hfault

/-- Something of the rule is stored exactly if it has too many international formats. -/
theorem stored_iff (h : rule.Stops defaults nationalPrefix fault stored) :
    stored ≠ [] ↔ ∃ n, fault = .internationalFormatCount n := by
  cases h with
  | national hfault =>
    simp only [ne_eq, not_true_eq_false, false_iff, not_exists]
    cases hfault with
    | switch => exact fun n => nofun
    | text hswitch htext => cases htext <;> exact fun n => nofun
  | international => simp

end Element.Stops

def Element.formatDefaults (t : Element) (nationalPrefix nationalPrefixRule : String)
    (nationalPrefixOptional : Bool) : FormatDefaults where
  nationalPrefixRule
  carrierCodeRule := t.carrierCodeRule nationalPrefix
  nationalPrefixOptional

namespace Formats

/-- The rules before the one that stops have left both their sides. -/
theorem loadRules_eq_error {rules : List Element} {fs fs' : Formats} :
    (loadRules defaults nationalPrefix rules).run fs = .error fault fs' ↔
      ∃ before rule after, rules = before ++ rule :: after ∧
        ∃ sides stored, before.mapM (sidesOf defaults nationalPrefix) = .ok sides ∧
          rule.Stops defaults nationalPrefix fault stored ∧
          fs' = { fs.addSides sides with national := (fs.addSides sides).national ++ stored } := by
  induction rules generalizing fs with
  | nil => simp [loadRules]
  | cons rule rules ih =>
    rw [exists_split_cons]
    simp only [loadRules, run_bind_eq_error, loadRule_eq_error, loadRule_eq_ok, ih, List.mapM_nil,
      List.mapM_cons, bind_eq_ok, pure_eq_ok]
    constructor
    · intro h
      rcases h with ⟨stored, hstops, rfl⟩ | ⟨_, _, ⟨s, hs, rfl⟩, h⟩
      · exact .inl ⟨[], stored, rfl, hstops, by simp [addSides]⟩
      · obtain ⟨before, x, after, hsplit, sides, stored, hsides, hstops, rfl⟩ := h
        exact .inr ⟨before, x, after, hsplit, s :: sides, stored, ⟨s, hs, sides, hsides, rfl⟩,
          hstops, by simp [addSides]⟩
    · intro h
      rcases h with ⟨_, stored, rfl, hstops, rfl⟩ | ⟨before, x, after, hsplit, h⟩
      · exact .inl ⟨stored, hstops, by simp [addSides]⟩
      · obtain ⟨_, stored, ⟨s, hs, sides, hsides, rfl⟩, hstops, rfl⟩ := h
        exact .inr ⟨(), _, ⟨s, hs, rfl⟩, before, x, after, hsplit, sides, stored, hsides, hstops,
          by simp [addSides]⟩

theorem load_eq_error {t : Element} {nationalPrefixRule : String} {nationalPrefixOptional : Bool}
    {fs fs' : Formats} :
    (load t nationalPrefix nationalPrefixRule nationalPrefixOptional).run fs =
        .error fault fs' ↔
      (loadRules (t.formatDefaults nationalPrefix nationalPrefixRule nationalPrefixOptional)
        nationalPrefix (rulesOf t)).run { fs with international := [] } = .error fault fs' := by
  simp only [load_eq_loadRules, run_bind_eq_error, run_modify_eq_error, run_modify_eq_ok, false_or]
  constructor
  · intro h
    obtain ⟨_, _, rfl, h⟩ := h
    exact h
  · intro h
    exact ⟨(), _, rfl, h⟩

theorem isFormatRule_of_contributes {rules : List Element}
    {added : List (FormatRule × List FormatRule)}
    (h : List.Forall₂ (Element.Contributes defaults nationalPrefix) rules added) :
    ∀ rule ∈ rules, rule.IsFormatRule := by
  obtain ⟨sides, hsides, -⟩ := forall₂_contributes.1 h
  exact fun rule hrule => exists_sidesOf.1 (exists_mapM.1 ⟨sides, hsides⟩ rule hrule)

end Formats

/-- Loading the rules of a territory fails exactly at the first rule that cannot be loaded. The
rules before it have been added, with what they say of calls from abroad; of the rule itself the
national side has been added if it has too many international formats, and nothing if it has any
other fault. Of the rules for calls from abroad that a record had before, none is left. -/
theorem Record.loadFormats_stopped (t : Element) (nationalPrefix nationalPrefixRule : String)
    (nationalPrefixOptional : Bool) (r r' : Record) (fault : Fault) :
    (loadFormats t nationalPrefix nationalPrefixRule nationalPrefixOptional).run r =
        .error fault r' ↔
      ∃ before rule after, Formats.rulesOf t = before ++ rule :: after ∧
        (∀ x ∈ before, x.IsFormatRule) ∧ ¬ rule.IsFormatRule ∧
        ∃ added stored,
          List.Forall₂ (Element.Contributes
            (t.formatDefaults nationalPrefix nationalPrefixRule nationalPrefixOptional)
            nationalPrefix) before added ∧
          rule.Stops (t.formatDefaults nationalPrefix nationalPrefixRule nationalPrefixOptional)
            nationalPrefix fault stored ∧
          (stored ≠ [] ↔ ∃ n, fault = .internationalFormatCount n) ∧
          r' = { r with formats := {
            national := r.formats.national ++ added.map Prod.fst ++ stored
            international := added.flatMap Prod.snd } } := by
  simp only [loadFormats, onFormats_eq_error, Formats.load_eq_error, Formats.loadRules_eq_error]
  constructor
  · intro h
    obtain ⟨_, ⟨before, rule, after, hsplit, sides, stored, hsides, hstops, rfl⟩, rfl⟩ := h
    have hadded := Formats.forall₂_contributes.2 ⟨sides, hsides, rfl⟩
    exact ⟨before, rule, after, hsplit, Formats.isFormatRule_of_contributes hadded,
      hstops.not_isFormatRule, _, stored, hadded, hstops, hstops.stored_iff,
      by simp [Formats.addSides, List.flatMap_map]⟩
  · intro h
    obtain ⟨before, rule, after, hsplit, -, -, added, stored, hadded, hstops, -, rfl⟩ := h
    obtain ⟨sides, hsides, rfl⟩ := Formats.forall₂_contributes.1 hadded
    exact ⟨_, ⟨before, rule, after, hsplit, sides, stored, hsides, hstops, rfl⟩,
      by simp [Formats.addSides, List.flatMap_map]⟩

end

def crowdedTerritory : Element where
  name := Schema.territory
  children := [
    { name := "availableFormats"
      children := [["$1-$1"], ["NA", "$1"], ["$1"]].map fun abroad =>
        { name := "numberFormat"
          attributes := [("pattern", "(\\d+)")]
          children := { name := "format", text := "$1" } ::
            abroad.map fun text => { name := "intlFormat", text } } }]

theorem Record.loadFormats_crowded :
    ∃ r' before rule after,
      (loadFormats crowdedTerritory "" "" false).run loadedRecord =
        .error (.internationalFormatCount 2) r' ∧
      Formats.rulesOf crowdedTerritory = before ++ rule :: after ∧
      (∀ x ∈ before, x.IsFormatRule) ∧ ¬ rule.IsFormatRule ∧
      r'.formats.national.map (·.pattern) = ["(\\d)", "(\\d+)", "(\\d+)"] ∧
      r'.formats.international.map (·.format) = ["$1-$1"] := by
  have hr : ∃ r', (loadFormats crowdedTerritory "" "" false).run loadedRecord =
        .error (.internationalFormatCount 2) r' ∧
      r'.formats.national.map (·.pattern) = ["(\\d)", "(\\d+)", "(\\d+)"] ∧
      r'.formats.international.map (·.format) = ["$1-$1"] := ⟨_, rfl, rfl, rfl⟩
  obtain ⟨r', hload, hfields⟩ := hr
  obtain ⟨before, rule, after, hsplit, hbefore, hrule, -⟩ :=
    (loadFormats_stopped _ _ _ _ _ _ _).1 hload
  exact ⟨r', before, rule, after, hload, hsplit, hbefore, hrule, hfields⟩

end NumberingPlan
