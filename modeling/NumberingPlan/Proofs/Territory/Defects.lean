import NumberingPlan.Pattern.Standard
import NumberingPlan.Proofs.Failure
import NumberingPlan.Proofs.Territory.Acceptance

/-! What is wrong with a document that does not compile. A fault says what it finds: the text that
is no pattern, the number of formats, the attribute and its value as written. Main statement:
`Record.ofDocument_fault`. -/
namespace NumberingPlan

theorem readCallingCode_eq_error {v : String} {fault : Fault} :
    readCallingCode v = .error fault ↔
      ¬ IsCallingCode v ∧ fault = .invalidAttribute Schema.callingCode v := by
  rw [← exists_readCallingCode]
  unfold readCallingCode
  cases Text.readDecimal? greatestCallingCode (Text.trim v.toList) with
  | none => simp [eq_comm]
  | some n => by_cases hn : 0 < n <;> simp [hn, eq_comm]

namespace Element

/-- The texts of a territory that have to be patterns, without blanks where these do not count. -/
inductive TriesPattern (t : Element) : String → Prop
  | leadingDigits {v : String} (h : t.attribute? Schema.leadingDigits = some v) : TriesPattern t v
  | internationalPrefix {v : String} (h : t.attribute? Schema.internationalPrefix = some v) :
    TriesPattern t v
  | forParsing {v : String} (h : t.attribute? Schema.nationalPrefixForParsing = some v) :
    TriesPattern t (Text.withoutBlanks v)
  | transformRule {v : String} (hp : t.attribute? Schema.nationalPrefixForParsing ≠ none)
    (h : t.attribute? Schema.nationalPrefixTransformRule = some v) : TriesPattern t v
  | ruleDigits {rule d : Element} (hr : rule ∈ Formats.rulesOf t)
    (h : d ∈ rule.childrenNamed Schema.leadingDigits) : TriesPattern t (Text.withoutBlanks d.text)
  | rulePattern {rule : Element} {v : String} (hr : rule ∈ Formats.rulesOf t)
    (h : rule.attribute? Schema.pattern = some v) : TriesPattern t v
  | possible {c : Category} {e p : Element} (he : t.firstChild? c.tag = some e)
    (h : e.firstChild? Schema.possiblePattern = some p) : TriesPattern t (Text.withoutBlanks p.text)
  | national {c : Category} {e p : Element} (he : t.firstChild? c.tag = some e)
    (h : e.firstChild? Schema.nationalPattern = some p) : TriesPattern t (Text.withoutBlanks p.text)

variable {e : Element} {key : String} {fault : Fault}

theorem required_eq_error :
    e.required key = .error fault ↔ e.attribute? key = none ∧ fault = .missingAttribute key := by
  unfold required
  cases e.attribute? key <;> simp [eq_comm]

theorem switch_eq_error :
    e.switch key = .error fault ↔
      ∃ v, e.attribute? key = some v ∧ ¬ IsSwitch v ∧ fault = .invalidAttribute key v := by
  unfold switch IsSwitch
  cases e.attribute? key with
  | none => simp
  | some v =>
    simp only [Option.some.injEq, exists_eq_left']
    by_cases htrue : Text.trim v.toList = "true".toList
    · simp [htrue]
    · by_cases hfalse : Text.trim v.toList = "false".toList
      · simp [hfalse]
      · rw [if_neg htrue, if_neg hfalse, Except.error.injEq]
        simp only [htrue, hfalse, or_self, not_false_eq_true, true_and]
        exact eq_comm

theorem checked_eq_error {check : String → Except Fault String} :
    e.checked key check = .error fault ↔
      ∃ v, e.attribute? key = some v ∧ check v = .error fault := by
  unfold checked
  cases e.attribute? key with
  | none => simp
  | some v => cases h : check v <;> simp [h, Except.map]

end Element

section
variable [Pattern.Engine]

namespace Element

/-- Where a fault of a territory can be found in it. A finished rule has its format, so none is ever
missing, and no territory stands in another. -/
def HasFault (t : Element) : Fault → Prop
  | .invalidPattern p d => t.TriesPattern p ∧ Pattern.compile p.toList = .error d
  | .formatCount k =>
    ∃ rule ∈ Formats.rulesOf t, (rule.childrenNamed Schema.format).length = k ∧ k ≠ 1
  | .internationalFormatCount k =>
    ∃ rule ∈ Formats.rulesOf t, (rule.childrenNamed Schema.internationalFormat).length = k ∧ 2 ≤ k
  | .missingFormat => False
  | .missingAttribute key =>
    (key = Schema.callingCode ∨ key = Schema.internationalPrefix) ∧ t.attribute? key = none
  | .invalidAttribute key v =>
    (key = Schema.callingCode ∧ t.attribute? key = some v ∧ ¬ IsCallingCode v) ∨
    ((key = Schema.mainForCode ∨ key = Schema.leadingZeroPossible ∨
        key = Schema.nationalPrefixOptional) ∧ t.attribute? key = some v ∧ ¬ IsSwitch v) ∨
    (key = Schema.nationalPrefixOptional ∧
      ∃ rule ∈ Formats.rulesOf t, rule.attribute? key = some v ∧ ¬ IsSwitch v)
  | .territory _ _ => False

/-- No territory with a fault in it is well formed. -/
theorem HasFault.not_isTerritory {t : Element} {fault : Fault} (h : t.HasFault fault) :
    ¬ t.IsTerritory := by
  intro ht
  cases fault with
  | invalidPattern p d =>
    obtain ⟨htries, hd⟩ := h
    have hno : ¬ IsPattern p := fun ⟨tree, htree⟩ => by simp [hd] at htree
    cases htries with
    | leadingDigits hv => exact hno (ht.leadingDigits _ hv)
    | internationalPrefix hv =>
      obtain ⟨w, hw, hpattern⟩ := ht.internationalPrefix
      rw [hv, Option.some.injEq] at hw
      exact hno (hw ▸ hpattern)
    | forParsing hv => exact hno (ht.forParsing _ hv)
    | transformRule hp hv => exact hno (ht.transformRule.resolve_left hp _ hv)
    | ruleDigits hr hmem => exact hno ((ht.rules _ hr).leadingDigits _ hmem)
    | rulePattern hr hv =>
      have hpattern := (ht.rules _ hr).pattern
      rw [hv] at hpattern
      exact hno hpattern
    | possible he hp => exact hno ((ht.descriptions _ _ he).possible _ hp)
    | national he hp => exact hno ((ht.descriptions _ _ he).national _ hp)
  | formatCount k =>
    obtain ⟨rule, hr, rfl, hne⟩ := h
    exact hne (ht.rules rule hr).oneFormat
  | internationalFormatCount k =>
    obtain ⟨rule, hr, rfl, htwo⟩ := h
    have hone := (ht.rules rule hr).international
    omega
  | missingFormat => exact h
  | missingAttribute key =>
    obtain ⟨rfl | rfl, hnone⟩ := h
    · obtain ⟨v, hv, -⟩ := ht.callingCode
      simp [hnone] at hv
    · obtain ⟨v, hv, -⟩ := ht.internationalPrefix
      simp [hnone] at hv
  | invalidAttribute key v =>
    rcases h with ⟨rfl, hv, hno⟩ | ⟨rfl | rfl | rfl, hv, hno⟩ | ⟨rfl, rule, hr, hv, hno⟩
    · obtain ⟨w, hw, hcode⟩ := ht.callingCode
      rw [hv, Option.some.injEq] at hw
      exact hno (hw ▸ hcode)
    · exact hno (ht.mainForCode v hv)
    · exact hno (ht.leadingZeroPossible v hv)
    · exact hno (ht.nationalPrefixOptional v hv)
    · exact hno ((ht.rules rule hr).nationalPrefixOptional v hv)
  | territory region cause => exact h

def HasDocumentFault (root : Element) : Fault → Prop
  | .missingAttribute key =>
    key = Schema.id ∧ ∃ t ∈ Record.territoriesOf root, t.attribute? Schema.id = none
  | .territory region cause =>
    ∃ t ∈ Record.territoriesOf root, t.attribute? Schema.id = some region ∧ t.HasFault cause
  | _ => False

end Element

theorem checkPattern_eq_error {s : String} {fault : Fault} :
    checkPattern s = .error fault ↔
      ∃ d, Pattern.compile s.toList = .error d ∧ fault = .invalidPattern s d := by
  unfold checkPattern
  cases Pattern.compile s.toList with
  | ok t => simp
  | error d =>
    simp only [Except.error.injEq, exists_eq_left']
    exact eq_comm

variable {t : Element}

theorem Element.TriesPattern.checkPattern {p : String} (h : t.TriesPattern p) :
    FailsOnly t.HasFault (checkPattern p) := by
  intro fault hfault
  obtain ⟨d, hd, rfl⟩ := checkPattern_eq_error.1 hfault
  exact ⟨h, hd⟩

theorem Element.required_faults {key : String}
    (hkey : key = Schema.callingCode ∨ key = Schema.internationalPrefix) :
    FailsOnly t.HasFault (t.required key) := by
  intro fault hfault
  obtain ⟨hnone, rfl⟩ := required_eq_error.1 hfault
  exact ⟨hkey, hnone⟩

theorem Element.switch_faults {key : String}
    (hkey : key = Schema.mainForCode ∨ key = Schema.leadingZeroPossible ∨
      key = Schema.nationalPrefixOptional) :
    FailsOnly t.HasFault (t.switch key) := by
  intro fault hfault
  obtain ⟨v, hv, hno, rfl⟩ := switch_eq_error.1 hfault
  exact .inr (.inl ⟨hkey, hv, hno⟩)

theorem Element.checked_faults {key : String} {check : String → Except Fault String}
    (h : ∀ v, t.attribute? key = some v → FailsOnly t.HasFault (check v)) :
    FailsOnly t.HasFault (t.checked key check) := by
  intro fault hfault
  obtain ⟨v, hv, hcheck⟩ := checked_eq_error.1 hfault
  exact h v hv fault hcheck

theorem Profile.ofElement_faults (region nationalPrefix : String) (t : Element) :
    FailsOnly t.HasFault (Profile.ofElement region t nationalPrefix) := by
  have hswitches : ∀ finish : Bool → Bool → Profile, FailsOnly t.HasFault (do
      let mainForCode ← t.switch Schema.mainForCode
      let leadingZeroPossible ← t.switch Schema.leadingZeroPossible
      pure (finish mainForCode leadingZeroPossible)) := by
    intro finish
    refine .bind (Element.switch_faults (.inl rfl)) fun _ _ => ?_
    exact .bind (Element.switch_faults (.inr (.inl rfl))) fun _ _ => .ok _
  unfold Profile.ofElement
  refine .bind (Element.required_faults (.inl rfl)) fun v hv => ?_
  refine .bind ?callingCode fun callingCode _ => ?_
  case callingCode =>
    intro fault hfault
    obtain ⟨hno, rfl⟩ := readCallingCode_eq_error.1 hfault
    exact .inl ⟨rfl, Element.required_eq_ok.1 hv, hno⟩
  have hdigits : FailsOnly t.HasFault (t.checked Schema.leadingDigits checkPattern) :=
    Element.checked_faults fun v hv => (Element.TriesPattern.leadingDigits hv).checkPattern
  refine .bind hdigits fun leadingDigits _ => ?_
  refine .bind (Element.required_faults (.inr rfl)) fun w hw => ?_
  have hprefix := Element.TriesPattern.internationalPrefix (Element.required_eq_ok.1 hw)
  refine .bind hprefix.checkPattern fun internationalPrefix _ => ?_
  have hparsing : FailsOnly t.HasFault
      (t.checked Schema.nationalPrefixForParsing checkBarePattern) :=
    Element.checked_faults fun v hv => (Element.TriesPattern.forParsing hv).checkPattern
  refine .bind hparsing fun forParsing hfor => ?_
  dsimp only
  split
  case isTrue hsome =>
    have hpresent : t.attribute? Schema.nationalPrefixForParsing ≠ none := by
      rcases Element.checked_eq_ok.1 hfor with ⟨-, rfl⟩ | ⟨u, q, hu, -, -⟩
      · simp at hsome
      · simp [hu]
    refine .bind ?_ fun transformRule _ => hswitches _
    exact Element.checked_faults fun v hv =>
      (Element.TriesPattern.transformRule hpresent hv).checkPattern
  case isFalse => exact hswitches _

section Rules

variable {rule : Element} (hr : rule ∈ Formats.rulesOf t)
include hr

theorem FormatDraft.loadLeadingDigits_faults (d : FormatDraft) {es : List Element}
    (hes : ∀ e ∈ es, e ∈ rule.childrenNamed Schema.leadingDigits) :
    FailsOnly t.HasFault (outcome ((loadLeadingDigits es).run d)) := by
  induction es generalizing d with
  | nil => exact .ok _
  | cons e es ih =>
    obtain ⟨he, hes⟩ := List.forall_mem_cons.1 hes
    rw [loadLeadingDigits, outcome_bind_ofExcept]
    refine .bind (Element.TriesPattern.ruleDigits hr he).checkPattern fun p _ => ?_
    exact ih _ hes

theorem FormatDraft.loadPatterns_faults (d : FormatDraft) :
    FailsOnly t.HasFault (outcome ((loadPatterns rule).run d)) := by
  rw [loadPatterns, outcome_bind]
  refine .bind (loadLeadingDigits_faults hr d fun _ he => he) fun m _ => ?_
  rw [outcome_bind_ofExcept]
  refine .bind ?_ fun p _ => .ok _
  cases hp : rule.attribute? Schema.pattern with
  | some v => exact (Element.TriesPattern.rulePattern hr hp).checkPattern
  | none =>
    -- a rule without a pattern has the empty one, and that one compiles
    have hcompiles : IsPattern "" :=
      Pattern.compiles_of_short ⟨_, rfl, by decide⟩ (by decide) (by decide)
    have hempty : checkPattern "" = .ok "" := checkPattern_eq_ok.2 ⟨hcompiles, rfl⟩
    rw [Option.getD_none, hempty]
    exact .ok _

theorem FormatDraft.onlyFormat_faults : FailsOnly t.HasFault (onlyFormat rule) := by
  unfold onlyFormat
  split
  case h_1 => exact .ok _
  case h_2 hne =>
    refine .error ⟨rule, hr, rfl, fun hone => ?_⟩
    obtain ⟨f, hf⟩ := List.length_eq_one_iff.1 hone
    exact hne f hf

theorem FormatDefaults.draft_faults (defaults : FormatDefaults) (nationalPrefix : String) :
    FailsOnly t.HasFault (defaults.draft nationalPrefix rule) := by
  have hswitch : FailsOnly t.HasFault (rule.switch Schema.nationalPrefixOptional) := by
    intro fault hfault
    obtain ⟨v, hv, hno, rfl⟩ := Element.switch_eq_error.1 hfault
    exact .inr (.inr ⟨rfl, rule, hr, hv, hno⟩)
  unfold FormatDefaults.draft
  dsimp only
  split
  case isTrue => exact .bind hswitch fun _ _ => .ok _
  case isFalse => exact .ok _

theorem FormatRule.plain_faults (format : String) :
    FailsOnly t.HasFault (FormatRule.plain rule format) := by
  have hload := FormatDraft.loadPatterns_faults hr {}
  unfold FormatRule.plain
  cases h : (FormatDraft.loadPatterns rule).run {} with
  | ok u d => exact .ok _
  | error fault d => exact .error (hload fault (by rw [h]; rfl))

theorem FormatDraft.loadNational_faults (d : FormatDraft) :
    FailsOnly t.HasFault (outcome ((loadNational rule).run d)) := by
  rw [loadNational, outcome_bind]
  refine .bind (loadPatterns_faults hr d) fun m _ => ?_
  rw [outcome_bind_ofExcept]
  exact .bind (onlyFormat_faults hr) fun format _ => .ok _

theorem FormatRule.ofElement_faults (defaults : FormatDefaults) (nationalPrefix : String) :
    FailsOnly t.HasFault (FormatRule.ofElement defaults nationalPrefix rule) := by
  unfold FormatRule.ofElement
  refine .bind (FormatDefaults.draft_faults hr defaults nationalPrefix) fun d _ => ?_
  have hload := FormatDraft.loadNational_faults hr d
  cases h : (FormatDraft.loadNational rule).run d with
  | ok format m =>
    -- what has been loaded has a format, so it can be finished
    obtain ⟨n, -, -, rfl⟩ := FormatDraft.loadNational_eq_ok.1 h
    exact .ok _
  | error fault m => exact .error (hload fault (by rw [h]; rfl))

theorem International.ofElement_faults (nationalFormat : String) :
    FailsOnly t.HasFault (International.ofElement rule nationalFormat) := by
  unfold International.ofElement
  split
  case h_1 => exact (FormatRule.plain_faults hr _).map
  case h_2 f hf =>
    split
    case isTrue => exact .ok _
    case isFalse => exact (FormatRule.plain_faults hr _).map
  case h_3 hnil hone =>
    refine .error ⟨rule, hr, rfl, ?_⟩
    rcases hs : rule.childrenNamed Schema.internationalFormat with _ | ⟨f, _ | ⟨g, gs⟩⟩
    · exact absurd hs hnil
    · exact absurd hs (hone f)
    · simp

end Rules

namespace Formats

theorem loadRules_faults (defaults : FormatDefaults) (nationalPrefix : String) (fs : Formats)
    {rules : List Element} (hrules : ∀ rule ∈ rules, rule ∈ rulesOf t) :
    FailsOnly t.HasFault (outcome ((loadRules defaults nationalPrefix rules).run fs)) := by
  induction rules generalizing fs with
  | nil => exact .ok _
  | cons rule rules ih =>
    obtain ⟨hr, hrules⟩ := List.forall_mem_cons.1 hrules
    rw [loadRules, outcome_bind]
    refine .bind ?rule fun m _ => ih m hrules
    rw [loadRule, outcome_bind_ofExcept]
    refine .bind (FormatRule.ofElement_faults hr defaults nationalPrefix) fun r _ => ?_
    rw [outcome_bind]
    refine .bind (.ok _) fun m _ => ?_
    rw [outcome_bind_ofExcept]
    refine .bind (International.ofElement_faults hr r.format) fun i _ => ?_
    cases i <;> exact .ok _

theorem load_faults (nationalPrefix nationalPrefixRule : String) (nationalPrefixOptional : Bool)
    (fs : Formats) (t : Element) :
    FailsOnly t.HasFault (outcome ((load t nationalPrefix nationalPrefixRule
      nationalPrefixOptional).run fs)) := by
  rw [load, outcome_bind]
  refine .bind (.ok _) fun m _ => ?_
  cases hlist : t.firstChild? Schema.availableFormats with
  | none => exact .ok _
  | some list =>
    have hrules : rulesOf t = list.childrenNamed Schema.numberFormat := by simp [rulesOf, hlist]
    exact loadRules_faults _ _ m fun rule hrule => hrules ▸ hrule

end Formats

theorem Element.patternOr_faults {e : Element} {name inherited : String}
    (h : ∀ p, e.firstChild? name = some p → t.TriesPattern (Text.withoutBlanks p.text)) :
    FailsOnly t.HasFault (e.patternOr name inherited) := by
  unfold patternOr
  cases hp : e.firstChild? name with
  | none => exact .ok _
  | some p => exact (h p hp).checkPattern

theorem Description.ofTerritory_faults (inherited : Description) (t : Element) (c : Category)
    (lite : Bool) : FailsOnly t.HasFault (Description.ofTerritory inherited t c lite) := by
  unfold Description.ofTerritory
  cases he : t.firstChild? c.tag with
  | none => exact .ok _
  | some e =>
    refine .bind (Element.patternOr_faults fun p hp => .possible he hp) fun possible _ => ?_
    exact .bind (Element.patternOr_faults fun p hp => .national he hp) fun national _ => .ok _

namespace Descriptions

theorem loadEach_faults (general : Description) (t : Element) (lite : Bool) (cs : List Category)
    (ds : Descriptions) :
    FailsOnly t.HasFault (outcome ((loadEach general t lite cs).run ds)) := by
  induction cs generalizing ds with
  | nil => exact .ok _
  | cons c cs ih =>
    rw [loadEach, outcome_bind_ofExcept]
    refine .bind (Description.ofTerritory_faults general t c lite) fun d _ => ?_
    exact ih _

theorem load_faults (t : Element) (lite : Bool) (ds : Descriptions) :
    FailsOnly t.HasFault (outcome ((load t lite).run ds)) := by
  rw [load, outcome_bind_ofExcept]
  refine .bind (Description.ofTerritory_faults {} t .general lite) fun general _ => ?_
  rw [outcome_bind]
  exact .bind (loadEach_faults general t lite _ ds) fun m _ => .ok _

end Descriptions

namespace Record

theorem ofTerritory_faults (region : String) (t : Element) (lite : Bool) :
    FailsOnly t.HasFault (ofTerritory region t lite) := by
  rw [ofTerritory_eq_outcome]
  refine .bind (Profile.ofElement_faults region _ t) fun profile _ => ?_
  refine .bind (Element.switch_faults (.inr (.inr rfl))) fun optional _ => ?_
  rw [outcome_loadFormats]
  refine .bind (Formats.load_faults _ _ optional _ t).map fun r _ => ?_
  rw [outcome_loadDescriptions]
  exact (Descriptions.load_faults t lite _).map

theorem ofEntry_faults {root t : Element} (ht : t ∈ territoriesOf root) (lite : Bool) :
    FailsOnly root.HasDocumentFault (ofEntry lite t) := by
  unfold ofEntry
  cases hid : t.attribute? Schema.id with
  | none => exact .error ⟨rfl, t, ht, hid⟩
  | some region =>
    exact (ofTerritory_faults region t lite).mapError fun cause hcause => ⟨t, ht, hid, hcause⟩

/-- Every fault that ends the compilation of a document can be found in the document. -/
theorem ofDocument_fault {root : Element} {lite : Bool} {fault : Fault}
    (h : ofDocument root lite = .error fault) : root.HasDocumentFault fault := by
  have hfaults : FailsOnly root.HasDocumentFault (ofDocument root lite) :=
    FailsOnly.mapM fun t ht => ofEntry_faults ht lite
  exact hfaults fault h

end Record

end

namespace Record

def undecidedDocument : Element where
  name := "phoneNumberMetadata"
  children := [
    { name := Schema.territories
      children := [
        { name := Schema.territory
          attributes := [("id", "XX"), ("countryCode", "1"), ("internationalPrefix", "00")] },
        { name := Schema.territory
          attributes := [("id", "YY"), ("countryCode", "2"), ("internationalPrefix", "00")]
          children := [
            { name := "availableFormats"
              children := [
                { name := "numberFormat"
                  attributes := [("nationalPrefixOptionalWhenFormatting", " yes ")] }] }] }] }]

theorem fault_of_undecided :
    let fault : Fault :=
      .territory "YY" (.invalidAttribute "nationalPrefixOptionalWhenFormatting" " yes ")
    ofDocument undecidedDocument false = .error fault ∧
      undecidedDocument.HasDocumentFault fault := by
  have h : ofDocument undecidedDocument false = .error (.territory "YY"
      (.invalidAttribute "nationalPrefixOptionalWhenFormatting" " yes ")) := rfl
  exact ⟨h, ofDocument_fault h⟩

end Record

end NumberingPlan
