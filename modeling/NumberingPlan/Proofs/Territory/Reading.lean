import NumberingPlan.Proofs.Agreement
import NumberingPlan.Proofs.Territory.Formats
import NumberingPlan.Territory.Document

/-! What of a territory is read: its attributes and the texts of a few elements, some of them
without their blanks. Main statement: `Record.ofTerritory_congr`, territories of which the same is
read compile alike. -/
namespace NumberingPlan

namespace Element

def bareText (e : Element) : String := Text.withoutBlanks e.text

structure SameRule (rule rule' : Element) : Prop where
  attributes : ∀ key, rule.attribute? key = rule'.attribute? key
  leadingDigits : (rule.childrenNamed Schema.leadingDigits).map bareText =
    (rule'.childrenNamed Schema.leadingDigits).map bareText
  formats : (rule.childrenNamed Schema.format).map text =
    (rule'.childrenNamed Schema.format).map text
  internationalFormats : (rule.childrenNamed Schema.internationalFormat).map text =
    (rule'.childrenNamed Schema.internationalFormat).map text

structure SameDescription (e e' : Element) : Prop where
  possible : (e.firstChild? Schema.possiblePattern).map bareText =
    (e'.firstChild? Schema.possiblePattern).map bareText
  national : (e.firstChild? Schema.nationalPattern).map bareText =
    (e'.firstChild? Schema.nationalPattern).map bareText
  sample : (e.firstChild? Schema.sampleNumber).map text =
    (e'.firstChild? Schema.sampleNumber).map text

/-- The same is read of two territories. -/
structure SameTerritory (t t' : Element) : Prop where
  attributes : ∀ key, key ≠ Schema.nationalPrefixForParsing → t.attribute? key = t'.attribute? key
  forParsing : (t.attribute? Schema.nationalPrefixForParsing).map Text.withoutBlanks =
    (t'.attribute? Schema.nationalPrefixForParsing).map Text.withoutBlanks
  rules : List.Forall₂ SameRule (Formats.rulesOf t) (Formats.rulesOf t')
  descriptions : ∀ c : Category,
    Option.Rel SameDescription (t.firstChild? c.tag) (t'.firstChild? c.tag)

theorem firstChild?_eq_head? (e : Element) (name : String) :
    e.firstChild? name = (e.childrenNamed name).head? :=
  List.head?_filter.symm

theorem firstChild?_related {R : Element → Element → Prop} {e f : Element} {name : String}
    (h : List.Forall₂ R (e.childrenNamed name) (f.childrenNamed name)) :
    Option.Rel R (e.firstChild? name) (f.firstChild? name) := by
  rw [firstChild?_eq_head?, firstChild?_eq_head?]
  exact head?_related h

section Attributes

variable {e e' : Element} {key : String} (h : e.attribute? key = e'.attribute? key)
include h

theorem hasAttribute_congr : e.hasAttribute key = e'.hasAttribute key := by
  rw [hasAttribute, hasAttribute, h]

theorem required_congr : e.required key = e'.required key := by
  rw [required, required, h]

theorem switch_congr : e.switch key = e'.switch key := by
  rw [switch, switch, h]

theorem checked_congr (check : String → Except Fault String) :
    e.checked key check = e'.checked key check := by
  rw [checked, checked, h]

theorem formattingRule_congr (nationalPrefix : String) :
    e.formattingRule key nationalPrefix = e'.formattingRule key nationalPrefix := by
  rw [formattingRule, formattingRule, h]

end Attributes

end Element

/-- The rules are those of the first list of formats. -/
theorem Formats.rulesOf_related {R : Element → Element → Prop} {t t' : Element}
    (h : Option.Rel R (t.firstChild? Schema.availableFormats)
      (t'.firstChild? Schema.availableFormats))
    (hR : ∀ l l', R l l' → List.Forall₂ Element.SameRule (l.childrenNamed Schema.numberFormat)
      (l'.childrenNamed Schema.numberFormat)) :
    List.Forall₂ Element.SameRule (rulesOf t) (rulesOf t') := by
  unfold rulesOf
  generalize t.firstChild? Schema.availableFormats = l, t'.firstChild? Schema.availableFormats = l'
    at h
  cases h with
  | none => exact .nil
  | some hl => exact hR _ _ hl

variable [Pattern.Engine]

theorem FormatDraft.loadLeadingDigits_congr {es es' : List Element}
    (h : es.map Element.bareText = es'.map Element.bareText) :
    loadLeadingDigits es = loadLeadingDigits es' := by
  induction es generalizing es' with
  | nil =>
    rw [List.map_nil, eq_comm, List.map_eq_nil_iff] at h
    rw [h]
  | cons e es ih =>
    cases es' with
    | nil => simp at h
    | cons e' es' =>
      obtain ⟨htext, h⟩ := List.cons.inj h
      have hcheck : checkBarePattern e.text = checkBarePattern e'.text :=
        congrArg checkPattern htext
      rw [loadLeadingDigits, loadLeadingDigits, hcheck, ih h]

namespace Element.SameRule

variable {rule rule' : Element} (h : rule.SameRule rule')
include h

theorem loadPatterns : FormatDraft.loadPatterns rule = FormatDraft.loadPatterns rule' := by
  rw [FormatDraft.loadPatterns, FormatDraft.loadPatterns,
    FormatDraft.loadLeadingDigits_congr h.leadingDigits, h.attributes]

omit [Pattern.Engine] in
theorem onlyFormat : FormatDraft.onlyFormat rule = FormatDraft.onlyFormat rule' := by
  have hread : ∀ rule : Element, FormatDraft.onlyFormat rule =
      let formats := (rule.childrenNamed Schema.format).map Element.text
      if formats.length = 1 then .ok (formats.headD "")
      else .error (.formatCount formats.length) := by
    intro rule
    unfold FormatDraft.onlyFormat
    rcases rule.childrenNamed Schema.format with _ | ⟨f, _ | ⟨g, gs⟩⟩ <;> simp
  rw [hread, hread, h.formats]

theorem loadNational : FormatDraft.loadNational rule = FormatDraft.loadNational rule' := by
  rw [FormatDraft.loadNational, FormatDraft.loadNational, h.loadPatterns, h.onlyFormat]

omit [Pattern.Engine] in
theorem draft (defaults : FormatDefaults) (nationalPrefix : String) :
    defaults.draft nationalPrefix rule = defaults.draft nationalPrefix rule' := by
  simp only [FormatDefaults.draft, nationalPrefixRule, carrierCodeRule,
    hasAttribute_congr (h.attributes _), switch_congr (h.attributes _),
    formattingRule_congr (h.attributes _)]

theorem national (defaults : FormatDefaults) (nationalPrefix : String) :
    FormatRule.ofElement defaults nationalPrefix rule =
      FormatRule.ofElement defaults nationalPrefix rule' := by
  simp only [FormatRule.ofElement, h.draft, h.loadNational]

theorem international (nationalFormat : String) :
    International.ofElement rule nationalFormat = International.ofElement rule' nationalFormat := by
  have hread : ∀ rule : Element, International.ofElement rule nationalFormat =
      let formats := (rule.childrenNamed Schema.internationalFormat).map Element.text
      let format := formats.headD ""
      if formats.length = 0 then (FormatRule.plain rule nationalFormat).map .implied
      else if formats.length ≠ 1 then .error (.internationalFormatCount formats.length)
      else if format = notApplicable then .ok .withheld
      else (FormatRule.plain rule format).map .explicit := by
    intro rule
    unfold International.ofElement
    rcases rule.childrenNamed Schema.internationalFormat with _ | ⟨f, _ | ⟨g, gs⟩⟩ <;> simp
  have hplain : FormatRule.plain rule = FormatRule.plain rule' := by
    funext format
    simp only [FormatRule.plain, h.loadPatterns]
  rw [hread, hread, h.internationalFormats, hplain]

theorem loadRule (defaults : FormatDefaults) (nationalPrefix : String) :
    Formats.loadRule defaults nationalPrefix rule =
      Formats.loadRule defaults nationalPrefix rule' := by
  simp only [Formats.loadRule, h.national, h.international]

end Element.SameRule

namespace Formats

theorem loadRules_congr (defaults : FormatDefaults) (nationalPrefix : String)
    {rules rules' : List Element} (h : List.Forall₂ Element.SameRule rules rules') :
    loadRules defaults nationalPrefix rules = loadRules defaults nationalPrefix rules' := by
  induction h with
  | nil => rfl
  | cons hrule _ ih => rw [loadRules, loadRules, hrule.loadRule, ih]

/-- A territory without a list of formats loads no rules. -/
theorem load_congr {t t' : Element} (h : t.SameTerritory t')
    (nationalPrefix nationalPrefixRule : String) (nationalPrefixOptional : Bool) :
    load t nationalPrefix nationalPrefixRule nationalPrefixOptional =
      load t' nationalPrefix nationalPrefixRule nationalPrefixOptional := by
  have hcarrier : t.carrierCodeRule nationalPrefix = t'.carrierCodeRule nationalPrefix :=
    Element.formattingRule_congr (h.attributes _ (by decide)) nationalPrefix
  rw [load_eq_loadRules, load_eq_loadRules, hcarrier, loadRules_congr _ _ h.rules]

end Formats

theorem Element.patternOr_congr {e e' : Element} {name : String}
    (h : (e.firstChild? name).map bareText = (e'.firstChild? name).map bareText)
    (inherited : String) :
    e.patternOr name inherited = e'.patternOr name inherited := by
  have hread : ∀ e : Element, e.patternOr name inherited =
      ((e.firstChild? name).map bareText).elim (.ok inherited) checkPattern := by
    intro e
    unfold patternOr
    cases e.firstChild? name with
    | none => rfl
    | some f => simp only [Option.map_some, Option.elim_some, checkBarePattern, bareText]
  rw [hread, hread, h]

theorem Description.ofTerritory_congr {t t' : Element} (h : t.SameTerritory t')
    (inherited : Description) (c : Category) (lite : Bool) :
    Description.ofTerritory inherited t c lite = Description.ofTerritory inherited t' c lite := by
  have hrel := h.descriptions c
  unfold Description.ofTerritory
  generalize t.firstChild? c.tag = e, t'.firstChild? c.tag = e' at hrel
  cases hrel with
  | none => rfl
  | @some e e' he =>
    simp only [Element.patternOr_congr he.possible, Element.patternOr_congr he.national]
    have hsample := he.sample
    generalize e.firstChild? Schema.sampleNumber = s, e'.firstChild? Schema.sampleNumber = s'
      at hsample
    match s, s', hsample with
    | none, none, _ => rfl
    | some s, some s', hsample => simp only [Option.some.inj hsample]

namespace Descriptions

theorem loadEach_congr {t t' : Element} (h : t.SameTerritory t') (general : Description)
    (lite : Bool) (cs : List Category) :
    loadEach general t lite cs = loadEach general t' lite cs := by
  induction cs with
  | nil => rfl
  | cons c cs ih => rw [loadEach, loadEach, Description.ofTerritory_congr h, ih]

theorem load_congr {t t' : Element} (h : t.SameTerritory t') (lite : Bool) :
    load t lite = load t' lite := by
  simp only [load, Description.ofTerritory_congr h, loadEach_congr h]

end Descriptions

theorem Profile.ofElement_congr {t t' : Element} (h : t.SameTerritory t')
    (region nationalPrefix : String) :
    Profile.ofElement region t nationalPrefix = Profile.ofElement region t' nationalPrefix := by
  have hparsing : t.checked Schema.nationalPrefixForParsing checkBarePattern =
      t'.checked Schema.nationalPrefixForParsing checkBarePattern := by
    have hread : ∀ t : Element, t.checked Schema.nationalPrefixForParsing checkBarePattern =
        ((t.attribute? Schema.nationalPrefixForParsing).map Text.withoutBlanks).elim (.ok none)
          fun v => (checkPattern v).map some := by
      intro t
      unfold Element.checked
      cases t.attribute? Schema.nationalPrefixForParsing with
      | none => rfl
      | some v => simp only [Option.map_some, Option.elim_some, checkBarePattern]
    rw [hread, hread, h.forParsing]
  simp only [Profile.ofElement, hparsing,
    Element.required_congr (h.attributes Schema.callingCode (by decide)),
    Element.checked_congr (h.attributes Schema.leadingDigits (by decide)),
    Element.required_congr (h.attributes Schema.internationalPrefix (by decide)),
    Element.checked_congr (h.attributes Schema.nationalPrefixTransformRule (by decide)),
    Element.switch_congr (h.attributes Schema.mainForCode (by decide)),
    Element.switch_congr (h.attributes Schema.leadingZeroPossible (by decide)),
    h.attributes Schema.preferredInternationalPrefix (by decide),
    h.attributes Schema.preferredExtensionPrefix (by decide)]

theorem Record.ofTerritory_congr {t t' : Element} (h : t.SameTerritory t') (region : String)
    (lite : Bool) : ofTerritory region t lite = ofTerritory region t' lite := by
  have hprefix : t.nationalPrefix = t'.nationalPrefix := by
    rw [Element.nationalPrefix, Element.nationalPrefix, h.attributes _ (by decide)]
  have hrule : ∀ nationalPrefix, t.nationalPrefixRule nationalPrefix =
      t'.nationalPrefixRule nationalPrefix :=
    Element.formattingRule_congr (h.attributes _ (by decide))
  have hoptional : t.switch Schema.nationalPrefixOptional =
      t'.switch Schema.nationalPrefixOptional :=
    Element.switch_congr (h.attributes _ (by decide))
  simp only [ofTerritory, loadFormats, loadDescriptions, hprefix, hrule, hoptional,
    Profile.ofElement_congr h, Formats.load_congr h, Descriptions.load_congr h]

theorem Record.ofEntry_congr {t t' : Element} (h : t.SameTerritory t') (lite : Bool) :
    ofEntry lite t = ofEntry lite t' := by
  rw [ofEntry, ofEntry, h.attributes Schema.id (by decide)]
  simp only [ofTerritory_congr h]

end NumberingPlan
