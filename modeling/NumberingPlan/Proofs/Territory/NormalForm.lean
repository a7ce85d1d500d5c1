import NumberingPlan.Pattern.Standard
import NumberingPlan.Proofs.Territory.Patterns

/-! Checking patterns again. A pattern that was checked without its blanks has none left, so every
later check gives it back as it is, wherever in a record it has got to. Main statement:
`Record.ofTerritory_normal`. -/
namespace NumberingPlan

theorem Text.withoutBlanks_eq_self {s : String} :
    withoutBlanks s = s ↔ ∀ c ∈ s.toList, isBlank c = false := by
  rw [← String.toList_inj, toList_withoutBlanks, List.filter_eq_self]
  simp only [Bool.not_eq_true']

section
variable [Pattern.Engine]

/-- A pattern without blanks, which either check gives back. -/
structure IsNormal (p : String) : Prop where
  notBlank : ∀ c ∈ p.toList, Text.isBlank c = false
  checkedBare : checkBarePattern p = .ok p
  checked : checkPattern p = .ok p

theorem IsPattern.checkPattern_eq {p : String} (h : IsPattern p) : checkPattern p = .ok p :=
  checkPattern_eq_ok.2 ⟨h, rfl⟩

theorem IsBarePattern.isNormal {p : String} (h : IsBarePattern p) : IsNormal p where
  notBlank := Text.withoutBlanks_eq_self.1 h.2
  checkedBare := by rw [checkBarePattern, h.2, h.1.checkPattern_eq]
  checked := h.1.checkPattern_eq

/-- Checking a text without its blanks brings it to normal form. -/
theorem checkBarePattern_normal {x p : String} (h : checkBarePattern x = .ok p) :
    p.toList = x.toList.filter (fun c => !Text.isBlank c) ∧ IsNormal p := by
  obtain ⟨-, rfl⟩ := checkPattern_eq_ok.1 h
  exact ⟨Text.toList_withoutBlanks x, (isBarePattern_of_check h).isNormal⟩

/-- Every description of a record has its patterns in normal form, own ones, inherited ones and
those that say that there are no numbers, and every formatting rule has its leading digits so; the
pattern of a rule may have blanks, but it passes its check again. One check without blanks is enough
for normal form, whatever the text. -/
theorem Record.ofTerritory_normal :
    (∀ x p, checkBarePattern x = .ok p →
      p.toList = x.toList.filter (fun c => !Text.isBlank c) ∧ IsNormal p) ∧
    ∀ region territory lite r, ofTerritory region territory lite = .ok r →
      (∀ c, IsNormal (r.description c).possible ∧ IsNormal (r.description c).national) ∧
      ∀ rule ∈ r.formats.national ++ r.formats.international,
        (∀ p ∈ rule.leadingDigits, IsNormal p) ∧ checkPattern rule.pattern = .ok rule.pattern := by
  refine ⟨fun x p h => checkBarePattern_normal h, fun region territory lite r h => ?_⟩
  obtain ⟨-, ⟨optional, -, hformats⟩, hdescriptions⟩ := ofTerritory_eq_ok.1 h
  have hbare := Descriptions.load_bare hdescriptions
  have hrules := Formats.load_checked (by simp) hformats
  refine ⟨fun c => ?_, fun rule hrule => ?_⟩
  · have hpossible : (r.description c).possible ∈ (r.description c).patterns := List.mem_cons_self
    have hnational : (r.description c).national ∈ (r.description c).patterns := by
      simp [Description.patterns]
    exact ⟨(hbare c _ hpossible).isNormal, (hbare c _ hnational).isNormal⟩
  · obtain ⟨hpattern, hdigits⟩ := hrules rule hrule
    exact ⟨fun p hp => (hdigits p hp).isNormal, hpattern.checkPattern_eq⟩

end

def looseTerritory : Element where
  name := Schema.territory
  attributes := [("countryCode", "1"), ("internationalPrefix", "00")]
  children := [
    { name := "availableFormats"
      children := [
        { name := "numberFormat"
          attributes := [("pattern", "(\\d) (\\d+)")]
          children := [
            { name := "leadingDigits", text := "[2-\u3000 5]" },
            { name := "format", text := "$1 $2" }] }] },
    { name := "generalDesc"
      children := [{ name := "nationalNumberPattern", text := "\\d\n  {6}" }] },
    { name := "emergency"
      children := [{ name := "possibleNumberPattern", text := "9|1 1" }] }]

theorem Record.ofTerritory_normal_loose :
    ∃ r, ofTerritory "XX" looseTerritory false = .ok r ∧
      IsNormal "\\d{6}" ∧ (r.description .emergency).national = "\\d{6}" ∧
      IsNormal notApplicable ∧ (r.description (.ofType .pager)).national = notApplicable ∧
      ∃ rule ∈ r.formats.national, rule.leadingDigits = ["[2-5]"] ∧ IsNormal "[2-5]" ∧
        rule.pattern = "(\\d) (\\d+)" ∧
        checkPattern "(\\d) (\\d+)" = .ok "(\\d) (\\d+)" := by
  have hr : ∃ r, ofTerritory "XX" looseTerritory false = .ok r ∧
      (r.description .emergency).national = "\\d{6}" ∧
      (r.description (.ofType .pager)).national = notApplicable ∧
      ∃ rule ∈ r.formats.national, rule.leadingDigits = ["[2-5]"] ∧
        rule.pattern = "(\\d) (\\d+)" :=
    ⟨_, rfl, rfl, rfl, _, List.mem_cons_self, rfl, rfl⟩
  obtain ⟨r, hr, hemergency, hpager, rule, hmem, hdigits, hpattern⟩ := hr
  obtain ⟨hdescriptions, hrules⟩ := Record.ofTerritory_normal.2 _ _ _ _ hr
  have hdigitsNormal := (hrules rule (List.mem_append_left _ hmem)).1 "[2-5]" (by simp [hdigits])
  have hchecked := (hrules rule (List.mem_append_left _ hmem)).2
  exact ⟨r, hr, hemergency ▸ (hdescriptions .emergency).2, hemergency,
    hpager ▸ (hdescriptions (.ofType .pager)).2, hpager, rule, hmem, hdigits, hdigitsNormal, hpattern,
    hpattern ▸ hchecked⟩

end NumberingPlan
