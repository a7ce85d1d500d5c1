import NumberingPlan.Pattern.Standard
import NumberingPlan.Proofs.Territory.Acceptance

/-! All rules of a territory beside each rule alone, its national side loaded into a new draft and
its international side into any record. Main statement: `Record.loadFormats_ruleByRule`. -/
namespace NumberingPlan

namespace Element

/-- What a text has to be, but for blanks around it, to set a switch. -/
def switchWord (b : Bool) : List Char := if b then "true".toList else "false".toList

def SetsSwitch (e : Element) (key : String) (default b : Bool) : Prop :=
  (e.attribute? key = none ∧ b = default) ∨
    ∃ v, e.attribute? key = some v ∧ Text.trim v.toList = switchWord b

theorem switch_eq_ok {e : Element} {key v : String} {b : Bool} (h : e.attribute? key = some v) :
    e.switch key = .ok b ↔ Text.trim v.toList = switchWord b := by
  unfold switch switchWord
  simp only [h]
  by_cases htrue : Text.trim v.toList = "true".toList
  · rw [if_pos htrue, htrue]
    cases b <;> simp
  · rw [if_neg htrue]
    by_cases hfalse : Text.trim v.toList = "false".toList
    · rw [if_pos hfalse, hfalse]
      cases b <;> simp
    · rw [if_neg hfalse]
      cases b
      · simpa using hfalse
      · simpa using htrue

theorem setsSwitch_iff {e : Element} {key : String} {default b : Bool} :
    e.SetsSwitch key default b ↔
      (if e.hasAttribute key then e.switch key else .ok default) = .ok b := by
  unfold SetsSwitch hasAttribute
  cases h : e.attribute? key with
  | none => simp [eq_comm]
  | some v => simp [switch_eq_ok h]

/-- The formatting rule of an element, be it empty, with its placeholders filled in, or else a
default as it is. -/
def formattingRuleOr (e : Element) (key nationalPrefix default : String) : String :=
  (e.attribute? key).elim default (fillPlaceholders · nationalPrefix)

theorem formattingRuleOr_eq (e : Element) (key nationalPrefix default : String) :
    e.formattingRuleOr key nationalPrefix default =
      if e.hasAttribute key then e.formattingRule key nationalPrefix else default := by
  unfold formattingRuleOr hasAttribute formattingRule
  cases e.attribute? key <;> rfl

end Element

namespace International

def isOwn : International → Bool
  | implied _ => false
  | withheld | explicit _ => true

def entries : International → List FormatRule
  | implied r | explicit r => [r]
  | withheld => []

theorem listed_eq (i : International) : i.listed = if i.isOwn then i.entries else [] := by
  cases i <;> rfl

end International

theorem forall₂_exists_map {α β γ : Type} {R : α → γ → Prop} {g : γ → β} {xs : List α}
    {ys : List β} :
    List.Forall₂ (fun x y => ∃ z, R x z ∧ y = g z) xs ys ↔
      ∃ zs, List.Forall₂ R xs zs ∧ ys = zs.map g := by
  constructor
  · intro h
    induction h with
    | nil => exact ⟨[], .nil, rfl⟩
    | cons hxy _ ih =>
      obtain ⟨z, hz, rfl⟩ := hxy
      obtain ⟨zs, hzs, rfl⟩ := ih
      exact ⟨z :: zs, .cons hz hzs, rfl⟩
  · intro h
    obtain ⟨zs, hzs, rfl⟩ := h
    exact List.forall₂_map_right_iff.2 (hzs.imp fun _ z hz => ⟨z, hz, rfl⟩)

variable {defaults : FormatDefaults} {nationalPrefix : String} {rule : Element}

def FormatDefaults.draftWith (defaults : FormatDefaults) (nationalPrefix : String) (rule : Element)
    (nationalPrefixOptional : Bool) : FormatDraft where
  nationalPrefixRule :=
    rule.formattingRuleOr Schema.nationalPrefixRule nationalPrefix defaults.nationalPrefixRule
  carrierCodeRule :=
    rule.formattingRuleOr Schema.carrierCodeRule nationalPrefix defaults.carrierCodeRule
  nationalPrefixOptional

theorem FormatDefaults.draft_eq_ok_iff {d : FormatDraft} :
    defaults.draft nationalPrefix rule = .ok d ↔
      rule.SetsSwitch Schema.nationalPrefixOptional defaults.nationalPrefixOptional
          d.nationalPrefixOptional ∧
        d = defaults.draftWith nationalPrefix rule d.nationalPrefixOptional := by
  rw [draft_eq_ok, Element.setsSwitch_iff]
  simp only [draftWith, Element.formattingRuleOr_eq, Element.nationalPrefixRule,
    Element.carrierCodeRule]

section
variable [Pattern.Engine]

/-- Where the fields of a rule come from: its format and its patterns from the element alone, the
rest from an attribute wherever there is one. -/
structure FormatRule.ComesFrom (defaults : FormatDefaults) (nationalPrefix : String)
    (rule : Element) (r : FormatRule) : Prop where
  loaded : ∃ d, (FormatDraft.loadNational rule).run {} = .ok r.format d ∧
    r.pattern = d.pattern ∧ r.leadingDigits = d.leadingDigits
  nationalPrefixRule : r.nationalPrefixRule =
    rule.formattingRuleOr Schema.nationalPrefixRule nationalPrefix defaults.nationalPrefixRule
  carrierCodeRule : r.carrierCodeRule =
    rule.formattingRuleOr Schema.carrierCodeRule nationalPrefix defaults.carrierCodeRule
  nationalPrefixOptional : rule.SetsSwitch Schema.nationalPrefixOptional
    defaults.nationalPrefixOptional r.nationalPrefixOptional

theorem FormatRule.ofElement_eq_ok_iff {r : FormatRule} :
    FormatRule.ofElement defaults nationalPrefix rule = .ok r ↔
      r.ComesFrom defaults nationalPrefix rule := by
  rw [ofElement_eq_ok]
  constructor
  · intro h
    obtain ⟨d, m, format, hd, hm, hf, rfl⟩ := h
    obtain ⟨hoptional, hd⟩ := FormatDefaults.draft_eq_ok_iff.1 hd
    obtain ⟨ps, p, hps, hp, rfl⟩ := FormatDraft.loadPatterns_eq_ok.1 hm
    have hnew : (FormatDraft.loadPatterns rule).run {} =
        .ok () { leadingDigits := ps, pattern := p } :=
      FormatDraft.loadPatterns_eq_ok.2 ⟨ps, p, hps, hp, rfl⟩
    have hn := FormatDraft.loadNational_eq_ok.2 ⟨_, hnew, hf, rfl⟩
    have hdigits : d.leadingDigits = [] := congrArg FormatDraft.leadingDigits hd
    exact {
      loaded := ⟨_, hn, rfl, by rw [hdigits, List.nil_append]⟩
      nationalPrefixRule := congrArg FormatDraft.nationalPrefixRule hd
      carrierCodeRule := congrArg FormatDraft.carrierCodeRule hd
      nationalPrefixOptional := hoptional }
  · intro h
    obtain ⟨pattern, format, digits, nationalPrefixRule, carrierCodeRule, optional⟩ := r
    obtain ⟨⟨n, hn, hpattern, hdigits⟩, hprefix, hcarrier, hoptional⟩ := h
    simp only at hn hpattern hdigits hprefix hcarrier hoptional
    obtain ⟨m, hm, hf, rfl⟩ := FormatDraft.loadNational_eq_ok.1 hn
    obtain ⟨ps, p, hps, hp, rfl⟩ := FormatDraft.loadPatterns_eq_ok.1 hm
    subst hpattern hdigits hprefix hcarrier
    have hd : defaults.draft nationalPrefix rule =
        .ok (defaults.draftWith nationalPrefix rule optional) :=
      FormatDefaults.draft_eq_ok_iff.2 ⟨hoptional, rfl⟩
    exact ⟨_, _, format, hd, FormatDraft.loadPatterns_eq_ok.2 ⟨_, _, hps, hp, rfl⟩, hf, rfl⟩

theorem Formats.loadInternational_eq_ok {format : String} {fs fs' : Formats} {own : Bool} :
    (loadInternational rule format).run fs = .ok own fs' ↔
      ∃ i, International.ofElement rule format = .ok i ∧ own = i.isOwn ∧
        fs' = { fs with international := fs.international ++ i.entries } := by
  simp only [loadInternational, run_bind_eq_ok, run_ofExcept_eq_ok]
  constructor
  · intro h
    obtain ⟨i, _, ⟨hi, rfl⟩, h⟩ := h
    refine ⟨i, hi, ?_⟩
    cases i with
    | implied x | explicit x =>
      obtain ⟨_, _, hadd, hown⟩ := run_bind_eq_ok.1 h
      obtain ⟨rfl, rfl⟩ := run_pure_eq_ok.1 hown
      exact ⟨rfl, (run_modify_eq_ok.1 hadd).symm⟩
    | withheld =>
      obtain ⟨rfl, rfl⟩ := run_pure_eq_ok.1 h
      exact ⟨rfl, by simp [International.entries]⟩
  · intro h
    obtain ⟨i, hi, rfl, rfl⟩ := h
    refine ⟨i, fs, ⟨hi, rfl⟩, ?_⟩
    cases i with
    | implied x | explicit x =>
      exact run_bind_eq_ok.2 ⟨⟨⟩, _, run_modify_eq_ok.2 rfl, run_pure_eq_ok.2 ⟨rfl, rfl⟩⟩
    | withheld => exact run_pure_eq_ok.2 ⟨rfl, by simp [International.entries]⟩

def Record.addInternational (rs : List FormatRule) (r : Record) : Record :=
  { r with formats := { r.formats with international := r.formats.international ++ rs } }

theorem Record.loadInternationalFormat_eq_ok {format : String} {r r' : Record} {own : Bool} :
    (loadInternationalFormat rule format).run r = .ok own r' ↔
      ∃ i, International.ofElement rule format = .ok i ∧ own = i.isOwn ∧
        r' = r.addInternational i.entries := by
  simp only [loadInternationalFormat, onFormats_eq_ok, Formats.loadInternational_eq_ok]
  constructor
  · intro h
    obtain ⟨_, ⟨i, hi, rfl, rfl⟩, rfl⟩ := h
    exact ⟨i, hi, rfl, rfl⟩
  · intro h
    obtain ⟨i, hi, rfl, rfl⟩ := h
    exact ⟨_, ⟨i, hi, rfl, rfl⟩, rfl⟩

/-- The rules added for an element where its international side says something of its own. -/
def Element.AddsAbroad (rule : Element) (format : String) (added : List FormatRule) : Prop :=
  ∃ own entries,
    (∀ r : Record, (Record.loadInternationalFormat rule format).run r =
      .ok own (r.addInternational entries)) ∧
    added = if own then entries else []

theorem Element.addsAbroad_iff {format : String} {added : List FormatRule} :
    rule.AddsAbroad format added ↔
      ∃ i, International.ofElement rule format = .ok i ∧ added = i.listed := by
  constructor
  · intro h
    obtain ⟨own, entries, hload, rfl⟩ := h
    obtain ⟨i, hi, rfl, hadded⟩ := Record.loadInternationalFormat_eq_ok.1 (hload {})
    have hentries : entries = i.entries :=
      congrArg (fun r : Record => r.formats.international) hadded
    exact ⟨i, hi, by rw [hentries, i.listed_eq]⟩
  · intro h
    obtain ⟨i, hi, rfl⟩ := h
    exact ⟨i.isOwn, i.entries, fun r => Record.loadInternationalFormat_eq_ok.2 ⟨i, hi, rfl, rfl⟩,
      i.listed_eq⟩

def Element.LoadsAlone (rule : Element) (r : Record) : Prop :=
  rule.Allows Schema.nationalPrefixOptional IsSwitch ∧
    ∃ format d, (FormatDraft.loadNational rule).run {} = .ok format d ∧
      ∃ own r', (Record.loadInternationalFormat rule format).run r = .ok own r'

theorem Element.loadsAlone_iff {r : Record} : rule.LoadsAlone r ↔ rule.IsFormatRule := by
  constructor
  · intro h
    obtain ⟨hoptional, format, d, hd, own, r', hr⟩ := h
    obtain ⟨m, hm, hf, -⟩ := FormatDraft.loadNational_eq_ok.1 hd
    obtain ⟨i, hi, -⟩ := Record.loadInternationalFormat_eq_ok.1 hr
    obtain ⟨hleading, hpattern⟩ := FormatDraft.exists_loadPatterns.1 ⟨m, hm⟩
    exact {
      nationalPrefixOptional := hoptional
      leadingDigits := hleading
      pattern := hpattern
      oneFormat := FormatDraft.exists_onlyFormat.1 ⟨format, hf⟩
      international := (International.exists_ofElement hm).1 ⟨i, hi⟩ }
  · intro h
    obtain ⟨m, hm⟩ := FormatDraft.exists_loadPatterns.2 ⟨h.leadingDigits, h.pattern⟩
    obtain ⟨format, hf⟩ := FormatDraft.exists_onlyFormat.2 h.oneFormat
    obtain ⟨i, hi⟩ := (International.exists_ofElement hm).2 h.international
    exact ⟨h.nationalPrefixOptional, format, _, FormatDraft.loadNational_eq_ok.2 ⟨m, hm, hf, rfl⟩,
      _, _, Record.loadInternationalFormat_eq_ok.2 ⟨i, hi, rfl, rfl⟩⟩

/-- What one rule adds: its national rule, and what is added for calls from abroad. -/
def Element.Contributes (defaults : FormatDefaults) (nationalPrefix : String) (rule : Element)
    (added : FormatRule × List FormatRule) : Prop :=
  added.1.ComesFrom defaults nationalPrefix rule ∧ rule.AddsAbroad added.1.format added.2

theorem Element.contributes_iff {added : FormatRule × List FormatRule} :
    rule.Contributes defaults nationalPrefix added ↔
      ∃ s, Formats.sidesOf defaults nationalPrefix rule = .ok s ∧ added = (s.1, s.2.listed) := by
  simp only [Contributes, Formats.sidesOf, bind_eq_ok, pure_eq_ok, addsAbroad_iff,
    FormatRule.ofElement_eq_ok_iff]
  constructor
  · intro h
    obtain ⟨hr, i, hi, hadded⟩ := h
    exact ⟨_, ⟨_, hr, i, hi, rfl⟩, by rw [← hadded]⟩
  · intro h
    obtain ⟨_, ⟨r, hr, i, hi, rfl⟩, rfl⟩ := h
    exact ⟨hr, i, hi, rfl⟩

theorem Formats.forall₂_contributes {rules : List Element}
    {added : List (FormatRule × List FormatRule)} :
    List.Forall₂ (Element.Contributes defaults nationalPrefix) rules added ↔
      ∃ sides, rules.mapM (sidesOf defaults nationalPrefix) = .ok sides ∧
        added = sides.map fun s => (s.1, s.2.listed) := by
  simp only [mapM_eq_ok, ← forall₂_exists_map, ← Element.contributes_iff]

theorem Formats.load_eq_ok_contributes {t : Element} {nationalPrefixRule : String}
    {nationalPrefixOptional : Bool} {fs fs' : Formats} :
    (load t nationalPrefix nationalPrefixRule nationalPrefixOptional).run fs = .ok () fs' ↔
      ∃ added, List.Forall₂ (Element.Contributes
          { nationalPrefixRule, carrierCodeRule := t.carrierCodeRule nationalPrefix,
            nationalPrefixOptional } nationalPrefix) (rulesOf t) added ∧
        fs' = { national := fs.national ++ added.map Prod.fst,
                international := added.flatMap Prod.snd } := by
  simp only [load_eq_ok, forall₂_contributes]
  constructor
  · intro h
    obtain ⟨sides, hsides, rfl⟩ := h
    exact ⟨_, ⟨sides, hsides, rfl⟩, by simp [addSides, List.flatMap_map]⟩
  · intro h
    obtain ⟨_, ⟨sides, hsides, rfl⟩, rfl⟩ := h
    exact ⟨sides, hsides, by simp [addSides, List.flatMap_map]⟩

/-- Loading the rules of a territory goes well exactly if each rule loads alone, and then it adds
what the rules contribute, in order. Of the rules for calls from abroad that a record had before,
none is left. -/
theorem Record.loadFormats_ruleByRule (t : Element) (nationalPrefix nationalPrefixRule : String)
    (nationalPrefixOptional : Bool) (r other : Record) :
    ((∃ r', (loadFormats t nationalPrefix nationalPrefixRule nationalPrefixOptional).run r =
        .ok () r') ↔ ∀ rule ∈ Formats.rulesOf t, rule.LoadsAlone other) ∧
    ∀ r', (loadFormats t nationalPrefix nationalPrefixRule nationalPrefixOptional).run r =
        .ok () r' ↔
      ∃ added, List.Forall₂ (Element.Contributes
          { nationalPrefixRule, carrierCodeRule := t.carrierCodeRule nationalPrefix,
            nationalPrefixOptional } nationalPrefix) (Formats.rulesOf t) added ∧
        r' = { r with formats := {
          national := r.formats.national ++ added.map Prod.fst
          international := added.flatMap Prod.snd } } := by
  simp only [loadFormats, onFormats_eq_ok, Element.loadsAlone_iff]
  refine ⟨?_, fun r' => ?_⟩
  · rw [← Formats.exists_load]
    constructor
    · intro h
      obtain ⟨_, formats, hformats, -⟩ := h
      exact ⟨formats, hformats⟩
    · intro h
      obtain ⟨formats, hformats⟩ := h
      exact ⟨_, formats, hformats, rfl⟩
  · simp only [Formats.load_eq_ok_contributes]
    constructor
    · intro h
      obtain ⟨_, ⟨added, hadded, rfl⟩, rfl⟩ := h
      exact ⟨added, hadded, rfl⟩
    · intro h
      obtain ⟨added, hadded, rfl⟩ := h
      exact ⟨_, ⟨added, hadded, rfl⟩, rfl⟩

end

def variedTerritory : Element where
  name := Schema.territory
  attributes := [("carrierCodeFormattingRule", "$NP $CC ($FG)")]
  children := [
    { name := "availableFormats"
      children := [
        ([("nationalPrefixFormattingRule", "")], []),
        ([("nationalPrefixOptionalWhenFormatting", " false ")], ["NA"]),
        ([("carrierCodeFormattingRule", "$CC$NP$NP")], ["$1-$1"])].map
          fun (own, abroad) =>
            { name := "numberFormat"
              attributes := ("pattern", "(\\d+)") :: own
              children := { name := "format", text := "$1" } ::
                abroad.map fun text => { name := "intlFormat", text } } }]

def loadedRecord : Record where
  formats := {
    national := [⟨"(\\d)", "$1", ["1"], "", "", false⟩]
    international := [⟨"(\\d)", "$1", ["1"], "", "", false⟩] }

theorem Record.loadFormats_varied :
    ∃ added r', (loadFormats variedTerritory "0" "(0$1)" true).run loadedRecord = .ok () r' ∧
      List.Forall₂ (Element.Contributes
          { nationalPrefixRule := "(0$1)", carrierCodeRule := "0 $CC ($\x7b1\x7d)",
            nationalPrefixOptional := true } "0") (Formats.rulesOf variedTerritory) added ∧
      r'.formats.national.map (·.nationalPrefixRule) = ["", "", "(0$1)", "(0$1)"] ∧
      r'.formats.national.map (·.nationalPrefixOptional) = [false, true, false, true] ∧
      r'.formats.international.map (·.format) = ["$1-$1"] := by
  have hr : ∃ r', (loadFormats variedTerritory "0" "(0$1)" true).run loadedRecord = .ok () r' ∧
      r'.formats.national.map (·.nationalPrefixRule) = ["", "", "(0$1)", "(0$1)"] ∧
      r'.formats.national.map (·.nationalPrefixOptional) = [false, true, false, true] ∧
      r'.formats.international.map (·.format) = ["$1-$1"] := ⟨_, rfl, rfl, rfl, rfl⟩
  obtain ⟨r', hload, hfields⟩ := hr
  obtain ⟨added, hadded, -⟩ := ((loadFormats_ruleByRule _ _ _ _ _ {}).2 r').1 hload
  exact ⟨added, r', hload, hadded, hfields⟩

end NumberingPlan
