import NumberingPlan.Proofs.Territory.Descriptions
import NumberingPlan.Proofs.Territory.Formats
import NumberingPlan.Proofs.Territory.Records

/-! Which territories compile, said of the element alone. Main statement:
`Record.exists_ofTerritory_iff`. -/
namespace NumberingPlan

/-- ASCII digits of a positive number below 2^31, perhaps between blanks. -/
def IsCallingCode (v : String) : Prop :=
  let digits := Text.trim v.toList
  digits ≠ [] ∧ (∀ c ∈ digits, c.isDigit = true) ∧
    Nat.ofDigits 10 (digits.reverse.map fun c => c.toNat - '0'.toNat) ∈ Set.Icc 1 (2 ^ 31 - 1)

def IsSwitch (v : String) : Prop :=
  Text.trim v.toList = "true".toList ∨ Text.trim v.toList = "false".toList

theorem isCallingCode_iff {v : String} :
    IsCallingCode v ↔ ∃ n, Text.Writes (Text.trim v.toList) n ∧ 0 < n ∧ n ≤ greatestCallingCode := by
  unfold IsCallingCode greatestCallingCode
  simp only [Set.mem_Icc]
  constructor
  · intro h
    obtain ⟨hne, hdigits, hlow, hhigh⟩ := h
    exact ⟨_, ⟨hne, hdigits, rfl⟩, hlow, by omega⟩
  · intro h
    obtain ⟨_, ⟨hne, hdigits, rfl⟩, hlow, hhigh⟩ := h
    exact ⟨hne, hdigits, hlow, by omega⟩

theorem exists_readCallingCode {v : String} :
    (∃ n, readCallingCode v = .ok n) ↔ IsCallingCode v := by
  simp only [readCallingCode_eq_ok, isCallingCode_iff]
  constructor
  · intro h
    obtain ⟨_, n, hn, hlow, hhigh, -⟩ := h
    exact ⟨n, hn, hlow, hhigh⟩
  · intro h
    obtain ⟨n, hn, hlow, hhigh⟩ := h
    exact ⟨n, n, hn, hlow, hhigh, rfl⟩

namespace Element

def Allows (e : Element) (key : String) (P : String → Prop) : Prop :=
  ∀ v, e.attribute? key = some v → P v

def Requires (e : Element) (key : String) (P : String → Prop) : Prop :=
  ∃ v, e.attribute? key = some v ∧ P v

variable {e : Element} {key : String}

theorem exists_switch : (∃ b, e.switch key = .ok b) ↔ e.Allows key IsSwitch := by
  unfold switch Allows IsSwitch
  cases e.attribute? key with
  | none => simp
  | some v =>
    simp only [Option.some.injEq, forall_eq']
    by_cases htrue : Text.trim v.toList = "true".toList
    · rw [if_pos htrue]
      simp only [Except.ok.injEq, exists_eq', htrue, true_or]
    · rw [if_neg htrue]
      by_cases hfalse : Text.trim v.toList = "false".toList
      · rw [if_pos hfalse]
        simp only [Except.ok.injEq, exists_eq', hfalse, or_true]
      · rw [if_neg hfalse]
        simp only [reduceCtorEq, exists_false, htrue, hfalse, or_self]

theorem exists_checked {check : String → Except Fault String} {P : String → Prop}
    (hcheck : ∀ v, (∃ p, check v = .ok p) ↔ P v) :
    (∃ x, e.checked key check = .ok x) ↔ e.Allows key P := by
  unfold checked Allows
  cases e.attribute? key with
  | none => simp
  | some v =>
    simp only [map_eq_ok, Option.some.injEq, forall_eq', ← hcheck]
    constructor
    · intro h
      obtain ⟨_, p, hp, -⟩ := h
      exact ⟨p, hp⟩
    · intro h
      obtain ⟨p, hp⟩ := h
      exact ⟨_, p, hp, rfl⟩

end Element

theorem exists_mapM {ε α β : Type} {f : α → Except ε β} {xs : List α} :
    (∃ ys, xs.mapM f = .ok ys) ↔ ∀ x ∈ xs, ∃ y, f x = .ok y := by
  constructor
  · intro h x hx
    obtain ⟨ys, hys⟩ := h
    exact exists_result_of_mem hys hx
  · intro h
    induction xs with
    | nil => exact ⟨[], rfl⟩
    | cons x xs ih =>
      obtain ⟨y, hy⟩ := h x List.mem_cons_self
      obtain ⟨ys, hys⟩ := ih fun z hz => h z (List.mem_cons_of_mem _ hz)
      refine ⟨y :: ys, ?_⟩
      rw [List.mapM_cons, hy, hys]
      rfl

theorem FormatDraft.exists_onlyFormat {rule : Element} :
    (∃ f, onlyFormat rule = .ok f) ↔ (rule.childrenNamed Schema.format).length = 1 := by
  unfold onlyFormat
  split
  case h_1 f h => simp [h]
  case h_2 hne =>
    simp only [reduceCtorEq, exists_false, false_iff, List.length_eq_one_iff, not_exists]
    exact hne

theorem FormatDefaults.exists_draft {defaults : FormatDefaults} {nationalPrefix : String}
    {rule : Element} :
    (∃ d, defaults.draft nationalPrefix rule = .ok d) ↔
      rule.Allows Schema.nationalPrefixOptional IsSwitch := by
  rw [← Element.exists_switch]
  unfold FormatDefaults.draft
  cases ha : rule.attribute? Schema.nationalPrefixOptional with
  | none =>
    have hswitch : rule.switch Schema.nationalPrefixOptional = .ok false := by
      simp [Element.switch, ha]
    simp [Element.hasAttribute, ha, hswitch, pure_eq_ok]
  | some v =>
    simp only [Element.hasAttribute, ha, Option.isSome_some, if_true, bind_eq_ok, pure_eq_ok]
    constructor
    · intro h
      obtain ⟨_, b, hb, -⟩ := h
      exact ⟨b, hb⟩
    · intro h
      obtain ⟨b, hb⟩ := h
      exact ⟨_, b, hb, rfl⟩

variable [Pattern.Engine]

def IsLoosePattern (v : String) : Prop := IsPattern (Text.withoutBlanks v)

namespace Element

structure IsFormatRule (rule : Element) : Prop where
  nationalPrefixOptional : rule.Allows Schema.nationalPrefixOptional IsSwitch
  leadingDigits : ∀ d ∈ rule.childrenNamed Schema.leadingDigits, IsLoosePattern d.text
  pattern : IsPattern ((rule.attribute? Schema.pattern).getD "")
  oneFormat : (rule.childrenNamed Schema.format).length = 1
  international : (rule.childrenNamed Schema.internationalFormat).length ≤ 1

structure IsDescription (e : Element) : Prop where
  possible : ∀ p, e.firstChild? Schema.possiblePattern = some p → IsLoosePattern p.text
  national : ∀ p, e.firstChild? Schema.nationalPattern = some p → IsLoosePattern p.text

structure HasProfile (t : Element) : Prop where
  callingCode : t.Requires Schema.callingCode IsCallingCode
  internationalPrefix : t.Requires Schema.internationalPrefix IsPattern
  leadingDigits : t.Allows Schema.leadingDigits IsPattern
  forParsing : t.Allows Schema.nationalPrefixForParsing IsLoosePattern
  transformRule : t.attribute? Schema.nationalPrefixForParsing = none ∨
    t.Allows Schema.nationalPrefixTransformRule IsPattern
  mainForCode : t.Allows Schema.mainForCode IsSwitch
  leadingZeroPossible : t.Allows Schema.leadingZeroPossible IsSwitch

/-- What a territory has to be for its record to be made. -/
structure IsTerritory (t : Element) : Prop extends t.HasProfile where
  nationalPrefixOptional : t.Allows Schema.nationalPrefixOptional IsSwitch
  rules : ∀ rule ∈ Formats.rulesOf t, rule.IsFormatRule
  descriptions : ∀ c e, t.firstChild? (Category.tag c) = some e → e.IsDescription

end Element

theorem exists_checkPattern {v : String} : (∃ p, checkPattern v = .ok p) ↔ IsPattern v := by
  simp [checkPattern_eq_ok]

theorem exists_checkBarePattern {v : String} :
    (∃ p, checkBarePattern v = .ok p) ↔ IsLoosePattern v :=
  exists_checkPattern

theorem Profile.ReadFrom.hasProfile {region nationalPrefix : String} {t : Element} {p : Profile}
    (h : p.ReadFrom region t nationalPrefix) : t.HasProfile := by
  obtain ⟨v, hv, hcode⟩ := h.callingCode
  obtain ⟨w, hw, hprefix⟩ := h.internationalPrefix
  obtain ⟨own, hown, -, hrule⟩ := h.forParsing
  have hpattern : ∀ v, (∃ p, checkPattern v = .ok p) ↔ IsPattern v := fun _ => exists_checkPattern
  constructor
  case callingCode => exact ⟨v, hv, exists_readCallingCode.1 ⟨_, hcode⟩⟩
  case internationalPrefix => exact ⟨w, hw, exists_checkPattern.1 ⟨_, hprefix⟩⟩
  case leadingDigits => exact (Element.exists_checked hpattern).1 ⟨_, h.leadingDigits⟩
  case forParsing => exact (Element.exists_checked fun _ => exists_checkBarePattern).1 ⟨_, hown⟩
  case transformRule =>
    rcases Element.checked_eq_ok.1 hown with ⟨hnone, -⟩ | ⟨_, _, -, -, rfl⟩
    · exact .inl hnone
    · exact .inr ((Element.exists_checked hpattern).1 ⟨_, by simpa using hrule⟩)
  case mainForCode => exact Element.exists_switch.1 ⟨_, h.mainForCode⟩
  case leadingZeroPossible => exact Element.exists_switch.1 ⟨_, h.leadingZeroPossible⟩

theorem Element.HasProfile.exists_readFrom {t : Element} (h : t.HasProfile)
    (region nationalPrefix : String) : ∃ p, Profile.ReadFrom region t nationalPrefix p := by
  have hpattern : ∀ v, (∃ p, checkPattern v = .ok p) ↔ IsPattern v := fun _ => exists_checkPattern
  obtain ⟨v, hv, hdigits⟩ := h.callingCode
  obtain ⟨callingCode, hcode⟩ := exists_readCallingCode.2 hdigits
  obtain ⟨w, hw, hcompiles⟩ := h.internationalPrefix
  obtain ⟨internationalPrefix, hprefix⟩ := exists_checkPattern.2 hcompiles
  obtain ⟨leadingDigits, hlead⟩ := (Element.exists_checked hpattern).2 h.leadingDigits
  obtain ⟨own, hown⟩ := (Element.exists_checked fun _ => exists_checkBarePattern).2 h.forParsing
  obtain ⟨mainForCode, hmain⟩ := Element.exists_switch.2 h.mainForCode
  obtain ⟨leadingZeroPossible, hzero⟩ := Element.exists_switch.2 h.leadingZeroPossible
  -- without a parsing pattern of its own the transform rule is not looked at
  have hrule : ∃ x, (if own.isSome then
      t.checked Schema.nationalPrefixTransformRule checkPattern else .ok none) = .ok x := by
    rcases Element.checked_eq_ok.1 hown with ⟨-, rfl⟩ | ⟨u, q, hu, -, rfl⟩
    · exact ⟨none, rfl⟩
    · have hallows := h.transformRule.resolve_left (by simp [hu])
      exact (Element.exists_checked hpattern).2 hallows
  obtain ⟨nationalPrefixTransformRule, hrule⟩ := hrule
  let given := if nationalPrefix = "" then none else some nationalPrefix
  exact ⟨{
    id := region, callingCode, leadingDigits, internationalPrefix
    preferredInternationalPrefix := t.attribute? Schema.preferredInternationalPrefix
    nationalPrefix := given
    nationalPrefixForParsing := own.or given
    nationalPrefixTransformRule
    preferredExtensionPrefix := t.attribute? Schema.preferredExtensionPrefix
    mainForCode, leadingZeroPossible },
    rfl, ⟨v, hv, hcode⟩, hlead, ⟨w, hw, hprefix⟩, rfl, rfl, ⟨own, hown, rfl, hrule⟩, rfl, hmain,
    hzero⟩

theorem Profile.exists_ofElement {region nationalPrefix : String} {t : Element} :
    (∃ p, Profile.ofElement region t nationalPrefix = .ok p) ↔ t.HasProfile := by
  simp only [Profile.ofElement_eq_ok]
  constructor
  · intro h
    obtain ⟨p, hp⟩ := h
    exact hp.hasProfile
  · intro h
    exact h.exists_readFrom region nationalPrefix

theorem FormatDraft.exists_loadPatterns {rule : Element} {d : FormatDraft} :
    (∃ m, (loadPatterns rule).run d = .ok () m) ↔
      (∀ x ∈ rule.childrenNamed Schema.leadingDigits, IsLoosePattern x.text) ∧
        IsPattern ((rule.attribute? Schema.pattern).getD "") := by
  simp only [← exists_checkBarePattern, ← exists_checkPattern, ← exists_mapM,
    loadPatterns_eq_ok]
  constructor
  · intro h
    obtain ⟨_, ps, p, hps, hp, -⟩ := h
    exact ⟨⟨ps, hps⟩, p, hp⟩
  · intro h
    obtain ⟨⟨ps, hps⟩, p, hp⟩ := h
    exact ⟨_, ps, p, hps, hp, rfl⟩

/-- The international side uses the patterns of the national side over again, so only the number of
its formats can be wrong. -/
theorem International.exists_ofElement {rule : Element} {format : String} {d : FormatDraft}
    (h : (FormatDraft.loadPatterns rule).run {} = .ok () d) :
    (∃ i, International.ofElement rule format = .ok i) ↔
      (rule.childrenNamed Schema.internationalFormat).length ≤ 1 := by
  have hplain : ∀ format, ∃ r, FormatRule.plain rule format = .ok r :=
    fun format => ⟨_, FormatRule.plain_eq_ok.2 ⟨d, h, rfl⟩⟩
  unfold International.ofElement
  split
  case h_1 hn =>
    obtain ⟨r, hr⟩ := hplain format
    simp [hn, hr, Except.map]
  case h_2 f hn =>
    obtain ⟨r, hr⟩ := hplain f.text
    by_cases hna : f.text = notApplicable
    · simp [hn, hna]
    · simp [hn, hna, hr, Except.map]
  case h_3 hnil hone =>
    simp only [reduceCtorEq, exists_false, false_iff, not_le]
    rcases hs : rule.childrenNamed Schema.internationalFormat with _ | ⟨f, _ | ⟨g, gs⟩⟩
    · exact absurd hs hnil
    · exact absurd hs (hone f)
    · simp

theorem Formats.exists_sidesOf {defaults : FormatDefaults} {nationalPrefix : String}
    {rule : Element} :
    (∃ s, sidesOf defaults nationalPrefix rule = .ok s) ↔ rule.IsFormatRule := by
  simp only [sidesOf, bind_eq_ok, pure_eq_ok, FormatRule.ofElement_eq_ok]
  constructor
  · intro h
    obtain ⟨_, r, ⟨d, m, format, hd, hm, hformat, rfl⟩, i, hi, rfl⟩ := h
    obtain ⟨hleading, hpattern⟩ := FormatDraft.exists_loadPatterns.1 ⟨m, hm⟩
    obtain ⟨n, hn⟩ := FormatDraft.exists_loadPatterns.2 ⟨hleading, hpattern⟩
    exact {
      nationalPrefixOptional := FormatDefaults.exists_draft.1 ⟨d, hd⟩
      leadingDigits := hleading
      pattern := hpattern
      oneFormat := FormatDraft.exists_onlyFormat.1 ⟨format, hformat⟩
      international := (International.exists_ofElement hn).1 ⟨i, hi⟩ }
  · intro h
    obtain ⟨d, hd⟩ := FormatDefaults.exists_draft.2 h.nationalPrefixOptional
    obtain ⟨m, hm⟩ := FormatDraft.exists_loadPatterns.2 ⟨h.leadingDigits, h.pattern⟩
    obtain ⟨n, hn⟩ := FormatDraft.exists_loadPatterns.2 ⟨h.leadingDigits, h.pattern⟩
    obtain ⟨format, hformat⟩ := FormatDraft.exists_onlyFormat.2 h.oneFormat
    obtain ⟨i, hi⟩ := (International.exists_ofElement hn).2 h.international
    exact ⟨_, _, ⟨d, m, format, hd, hm, hformat, rfl⟩, i, hi, rfl⟩

theorem Formats.exists_load {t : Element} {nationalPrefix nationalPrefixRule : String}
    {nationalPrefixOptional : Bool} {fs : Formats} :
    (∃ fs', (load t nationalPrefix nationalPrefixRule nationalPrefixOptional).run fs =
        .ok () fs') ↔ ∀ rule ∈ rulesOf t, rule.IsFormatRule := by
  simp only [load_eq_ok]
  constructor
  · intro h rule hrule
    obtain ⟨_, sides, hsides, -⟩ := h
    exact exists_sidesOf.1 (exists_mapM.1 ⟨sides, hsides⟩ rule hrule)
  · intro h
    obtain ⟨sides, hsides⟩ := exists_mapM.2 fun rule hrule => exists_sidesOf.2 (h rule hrule)
    exact ⟨_, sides, hsides, rfl⟩

theorem Element.exists_patternOr {e : Element} {name inherited : String} :
    (∃ p, e.patternOr name inherited = .ok p) ↔
      ∀ x, e.firstChild? name = some x → IsLoosePattern x.text := by
  unfold patternOr
  cases e.firstChild? name with
  | none => simp
  | some x => simp [exists_checkBarePattern]

theorem Description.exists_ofTerritory {inherited : Description} {t : Element} {c : Category}
    {lite : Bool} :
    (∃ d, Description.ofTerritory inherited t c lite = .ok d) ↔
      ∀ e, t.firstChild? c.tag = some e → e.IsDescription := by
  unfold Description.ofTerritory
  cases t.firstChild? c.tag with
  | none => simp
  | some e =>
    simp only [bind_eq_ok, pure_eq_ok, Option.some.injEq, forall_eq']
    constructor
    · intro h
      obtain ⟨_, p, hp, n, hn, -⟩ := h
      exact ⟨Element.exists_patternOr.1 ⟨p, hp⟩, Element.exists_patternOr.1 ⟨n, hn⟩⟩
    · intro h
      obtain ⟨p, hp⟩ := Element.exists_patternOr.2 h.possible
      obtain ⟨n, hn⟩ := Element.exists_patternOr.2 h.national
      exact ⟨_, p, hp, n, hn, rfl⟩

namespace Descriptions

theorem exists_loadEach {general : Description} {t : Element} {lite : Bool} {cs : List Category}
    {ds : Descriptions} :
    (∃ ds', (loadEach general t lite cs).run ds = .ok () ds') ↔
      ∀ c ∈ cs, ∀ e, t.firstChild? c.tag = some e → e.IsDescription := by
  induction cs generalizing ds with
  | nil => simp [loadEach]
  | cons c cs ih =>
    simp only [loadEach, run_bind_eq_ok, run_ofExcept_eq_ok, run_modify_eq_ok, List.mem_cons,
      forall_eq_or_imp]
    constructor
    · intro h
      obtain ⟨ds', d, _, ⟨hd, rfl⟩, _, _, rfl, hrest⟩ := h
      exact ⟨Description.exists_ofTerritory.1 ⟨d, hd⟩, ih.1 ⟨ds', hrest⟩⟩
    · intro h
      obtain ⟨d, hd⟩ := Description.exists_ofTerritory.2 h.1
      obtain ⟨ds', hrest⟩ := ih.2 h.2
      exact ⟨ds', d, _, ⟨hd, rfl⟩, (), _, rfl, hrest⟩

theorem exists_load {t : Element} {lite : Bool} {ds : Descriptions} :
    (∃ ds', (load t lite).run ds = .ok () ds') ↔
      ∀ (c : Category) e, t.firstChild? c.tag = some e → e.IsDescription := by
  simp only [load, run_bind_eq_ok, run_ofExcept_eq_ok, run_modify_eq_ok]
  constructor
  · intro h c
    obtain ⟨_, d, _, ⟨hd, rfl⟩, _, m, hm, -⟩ := h
    rcases List.mem_cons.1 c.mem_all with rfl | hc
    · exact Description.exists_ofTerritory.1 ⟨d, hd⟩
    · exact exists_loadEach.1 ⟨m, hm⟩ c hc
  · intro h
    obtain ⟨d, hd⟩ := Description.exists_ofTerritory.2 (h .general)
    obtain ⟨m, hm⟩ := exists_loadEach.2 fun c (_ : c ∈ Category.specific) => h c
    exact ⟨_, d, _, ⟨hd, rfl⟩, (), m, hm, rfl⟩

end Descriptions

/-- A territory compiles exactly if it is well formed, whatever its region and with sample numbers
or without. -/
theorem Record.exists_ofTerritory_iff (region : String) (t : Element) (lite : Bool) :
    (∃ r, Record.ofTerritory region t lite = .ok r) ↔ t.IsTerritory := by
  simp only [ofTerritory_eq_ok]
  constructor
  · intro h
    obtain ⟨r, hprofile, ⟨optional, hoptional, hformats⟩, hdescriptions⟩ := h
    exact {
      toHasProfile := Profile.exists_ofElement.1 ⟨_, hprofile⟩
      nationalPrefixOptional := Element.exists_switch.1 ⟨_, hoptional⟩
      rules := Formats.exists_load.1 ⟨_, hformats⟩
      descriptions := Descriptions.exists_load.1 ⟨_, hdescriptions⟩ }
  · intro h
    obtain ⟨profile, hprofile⟩ := Profile.exists_ofElement.2 h.toHasProfile
    obtain ⟨optional, hoptional⟩ := Element.exists_switch.2 h.nationalPrefixOptional
    obtain ⟨formats, hformats⟩ := Formats.exists_load.2 h.rules
    obtain ⟨descriptions, hdescriptions⟩ := Descriptions.exists_load.2 h.descriptions
    exact ⟨{ profile, formats, descriptions }, hprofile, ⟨optional, hoptional, hformats⟩,
      hdescriptions⟩

end NumberingPlan
