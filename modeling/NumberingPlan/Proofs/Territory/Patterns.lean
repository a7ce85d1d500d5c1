import NumberingPlan.Pattern.Standard
import NumberingPlan.Proofs.Territory.Descriptions
import NumberingPlan.Proofs.Territory.Formats
import NumberingPlan.Proofs.Territory.Records

/-! The patterns in a compiled record. All of them compile, with one exception: a national prefix
that stands in for the pattern of prefixes to be parsed is stored as it is written. Main statement:
`Record.ofTerritory_patterns_iff`. -/
namespace NumberingPlan

section
variable [Pattern.Engine]

def FormatRule.patterns (r : FormatRule) : List String := r.pattern :: r.leadingDigits

theorem FormatDraft.loadPatterns_checked {rule : Element} {d d' : FormatDraft} {u : Unit}
    (hd : ∀ p ∈ d.leadingDigits, IsBarePattern p)
    (h : (FormatDraft.loadPatterns rule).run d = .ok u d') :
    IsPattern d'.pattern ∧ ∀ p ∈ d'.leadingDigits, IsBarePattern p := by
  obtain ⟨ps, p, hps, hp, rfl⟩ := FormatDraft.loadPatterns_eq_ok.1 h
  refine ⟨isPattern_of_check hp, fun q hq => ?_⟩
  rcases List.mem_append.1 hq with hq | hq
  · exact hd q hq
  · obtain ⟨e, -, he⟩ := exists_of_mem_mapM hps hq
    exact isBarePattern_of_check he

def FormatRule.Checked (r : FormatRule) : Prop :=
  IsPattern r.pattern ∧ ∀ p ∈ r.leadingDigits, IsBarePattern p

theorem FormatRule.Checked.isPattern {r : FormatRule} (h : r.Checked) {p : String}
    (hp : p ∈ r.patterns) : IsPattern p := by
  rcases List.mem_cons.1 hp with rfl | hp
  · exact h.1
  · exact (h.2 p hp).1

theorem FormatRule.plain_checked {rule : Element} {format : String} {r : FormatRule}
    (h : FormatRule.plain rule format = .ok r) : r.Checked := by
  obtain ⟨d, hd, rfl⟩ := FormatRule.plain_eq_ok.1 h
  exact FormatDraft.loadPatterns_checked (by simp) hd

theorem FormatRule.ofElement_checked {defaults : FormatDefaults} {nationalPrefix : String}
    {rule : Element} {r : FormatRule}
    (h : FormatRule.ofElement defaults nationalPrefix rule = .ok r) : r.Checked := by
  obtain ⟨d, m, format, hd, hm, -, rfl⟩ := FormatRule.ofElement_eq_ok.1 h
  have hdraft := (FormatDefaults.draft_eq_ok.1 hd).2
  have hnil : d.leadingDigits = [] := by rw [hdraft]
  exact FormatDraft.loadPatterns_checked (by simp [hnil]) hm

theorem Formats.sidesOf_checked {defaults : FormatDefaults} {nationalPrefix : String}
    {rule : Element} {s : FormatRule × International}
    (h : sidesOf defaults nationalPrefix rule = .ok s) :
    s.1.Checked ∧ ∀ r ∈ s.2.listed, r.Checked := by
  simp only [sidesOf, bind_eq_ok, pure_eq_ok] at h
  obtain ⟨r, hr, i, hi, rfl⟩ := h
  refine ⟨FormatRule.ofElement_checked hr, fun x hx => ?_⟩
  cases i with
  | implied y | withheld => simp [International.listed] at hx
  | explicit y =>
    obtain ⟨f, -, -, hf⟩ := International.ofElement_eq_explicit.1 hi
    rw [International.listed, List.mem_singleton] at hx
    rw [hx]
    exact FormatRule.plain_checked hf

theorem Formats.load_checked {territory : Element} {nationalPrefix nationalPrefixRule : String}
    {nationalPrefixOptional : Bool} {fs fs' : Formats} {u : Unit}
    (hn : ∀ r ∈ fs.national, r.Checked)
    (h : (load territory nationalPrefix nationalPrefixRule nationalPrefixOptional).run fs =
      .ok u fs') :
    ∀ r ∈ fs'.national ++ fs'.international, r.Checked := by
  obtain ⟨sides, hsides, rfl⟩ := load_eq_ok.1 h
  have hs : ∀ s ∈ sides, s.1.Checked ∧ ∀ r ∈ s.2.listed, r.Checked := by
    intro s hs
    obtain ⟨rule, -, hrule⟩ := exists_of_mem_mapM hsides hs
    exact sidesOf_checked hrule
  intro r hr
  simp only [addSides, List.nil_append, List.mem_append, List.mem_map, List.mem_flatMap] at hr
  rcases hr with (hr | ⟨s, hmem, rfl⟩) | ⟨s, hmem, hr⟩
  · exact hn r hr
  · exact (hs s hmem).1
  · exact (hs s hmem).2 r hr

def Profile.patterns (p : Profile) : List String :=
  p.leadingDigits.toList ++ p.internationalPrefix ::
    (p.nationalPrefixForParsing.toList ++ p.nationalPrefixTransformRule.toList)

/-- Every text of a record that is meant as a pattern. -/
def Record.patterns (r : Record) : List String :=
  r.profile.patterns ++
    (r.formats.national ++ r.formats.international).flatMap FormatRule.patterns ++
    Category.all.flatMap fun c => (r.description c).patterns

theorem Profile.ReadFrom.forParsing_of_absent {region : String} {e : Element}
    {nationalPrefix : String} {p : Profile} (h : p.ReadFrom region e nationalPrefix)
    (ha : e.attribute? Schema.nationalPrefixForParsing = none) :
    p.nationalPrefixForParsing = (if nationalPrefix = "" then none else some nationalPrefix) ∧
      p.nationalPrefixTransformRule = none := by
  obtain ⟨own, hown, hfor, hrule⟩ := h.forParsing
  rcases Element.checked_eq_ok.1 hown with ⟨-, rfl⟩ | ⟨v, x, hv, -, -⟩
  · have hnone : p.nationalPrefixTransformRule = none := by simpa using hrule.symm
    rw [hfor, Option.none_or, h.nationalPrefix]
    exact ⟨rfl, hnone⟩
  · rw [ha] at hv
    exact nomatch hv

theorem Profile.ReadFrom.forParsing_of_present {region : String} {e : Element}
    {nationalPrefix : String} {p : Profile} (h : p.ReadFrom region e nationalPrefix) {v : String}
    (ha : e.attribute? Schema.nationalPrefixForParsing = some v) :
    (∃ q, checkBarePattern v = .ok q ∧ p.nationalPrefixForParsing = some q) ∧
      e.checked Schema.nationalPrefixTransformRule checkPattern =
        .ok p.nationalPrefixTransformRule := by
  obtain ⟨own, hown, hfor, hrule⟩ := h.forParsing
  rcases Element.checked_eq_ok.1 hown with ⟨hn, -⟩ | ⟨w, x, hw, hx, rfl⟩
  · rw [ha] at hn
    exact nomatch hn
  · rw [ha, Option.some.injEq] at hw
    subst hw
    exact ⟨⟨x, hx, hfor⟩, hrule⟩

/-- A pattern of a profile compiles, unless it is a national prefix that stands in for one. -/
theorem Profile.ReadFrom.isPattern_or {region : String} {e : Element} {nationalPrefix : String}
    {p : Profile} (h : p.ReadFrom region e nationalPrefix) {q : String} (hq : q ∈ p.patterns) :
    IsPattern q ∨ e.attribute? Schema.nationalPrefixForParsing = none ∧ nationalPrefix ≠ "" ∧
      q = nationalPrefix ∧ p.nationalPrefixForParsing = some q := by
  have hcheck : ∀ s p, checkPattern s = .ok p → IsPattern p := fun _ _ => isPattern_of_check
  obtain ⟨v, -, hip⟩ := h.internationalPrefix
  simp only [patterns, List.mem_append, List.mem_cons, Option.mem_toList] at hq
  rcases hq with hq | rfl | hq | hq
  · exact .inl (Element.isPattern_of_checked hcheck h.leadingDigits hq)
  · exact .inl (isPattern_of_check hip)
  · cases ha : e.attribute? Schema.nationalPrefixForParsing with
    | none =>
      have hstand := (h.forParsing_of_absent ha).1
      by_cases hn : nationalPrefix = ""
      · rw [if_pos hn, hq] at hstand
        exact nomatch hstand
      · rw [if_neg hn, hq, Option.some.injEq] at hstand
        exact .inr ⟨rfl, hn, hstand, hq⟩
    | some w =>
      obtain ⟨⟨x, hx, hsome⟩, -⟩ := h.forParsing_of_present ha
      rw [hq, Option.some.injEq] at hsome
      rw [hsome]
      exact .inl (isBarePattern_of_check hx).1
  · cases ha : e.attribute? Schema.nationalPrefixForParsing with
    | none =>
      have hnone := (h.forParsing_of_absent ha).2
      rw [hq] at hnone
      exact nomatch hnone
    | some w => exact .inl (Element.isPattern_of_checked hcheck (h.forParsing_of_present ha).2 hq)

/-- Only a national prefix can fail to compile, and only where it stands in for the pattern of
prefixes to be parsed. -/
theorem Record.ofTerritory_patterns_iff {region : String} {territory : Element} {lite : Bool}
    {r : Record} (h : Record.ofTerritory region territory lite = .ok r) :
    ((∀ p ∈ r.patterns, IsPattern p) ↔
        territory.hasAttribute Schema.nationalPrefixForParsing = true ∨
          territory.nationalPrefix = "" ∨ IsPattern territory.nationalPrefix) ∧
      ∀ p ∈ r.patterns, ¬ IsPattern p →
        p = territory.nationalPrefix ∧ r.profile.nationalPrefixForParsing = some p := by
  obtain ⟨hprofile, ⟨optional, -, hformats⟩, hdescriptions⟩ := Record.ofTerritory_eq_ok.1 h
  have hread := Profile.ofElement_eq_ok.1 hprofile
  have hrules := Formats.load_checked (by simp) hformats
  have hexcept : ∀ p ∈ r.patterns, IsPattern p ∨
      territory.attribute? Schema.nationalPrefixForParsing = none ∧
        territory.nationalPrefix ≠ "" ∧ p = territory.nationalPrefix ∧
        r.profile.nationalPrefixForParsing = some p := by
    intro p hp
    simp only [Record.patterns, List.mem_append, List.mem_flatMap] at hp
    rcases hp with (hp | ⟨rule, hmem, hp⟩) | ⟨c, -, hp⟩
    · exact hread.isPattern_or hp
    · exact .inl ((hrules rule (List.mem_append.2 hmem)).isPattern hp)
    · exact .inl (Descriptions.load_bare hdescriptions c p hp).1
  refine ⟨⟨fun hall => ?_, fun hcond p hp => ?_⟩, fun p hp hn => ?_⟩
  -- only where nothing else is given does the national prefix become a pattern of the record
  · cases ha : territory.attribute? Schema.nationalPrefixForParsing with
    | some v => exact .inl (by simp [Element.hasAttribute, ha])
    | none =>
      have hstand := (hread.forParsing_of_absent ha).1
      by_cases hn : territory.nationalPrefix = ""
      · exact .inr (.inl hn)
      · rw [if_neg hn] at hstand
        exact .inr (.inr (hall _ (by simp [Record.patterns, Profile.patterns, hstand])))
  · rcases hexcept p hp with hp | ⟨ha, hne, rfl, -⟩
    · exact hp
    · rcases hcond with hattr | hempty | hpattern
      · simp [Element.hasAttribute, ha] at hattr
      · exact absurd hempty hne
      · exact hpattern
  · exact ((hexcept p hp).resolve_left hn).2.2

end

/-- A national prefix that also serves for parsing, and emergency numbers that take over the
general pattern. -/
def trunkTerritory : Element where
  name := Schema.territory
  attributes := [("countryCode", "1"), ("internationalPrefix", "00"), ("nationalPrefix", "0|1")]
  children := [
    { name := "availableFormats"
      children := [
        { name := "numberFormat"
          attributes := [("pattern", "(\\d)(\\d+)")]
          children := [
            { name := "leadingDigits", text := "[2-4] | 7" },
            { name := "format", text := "$1 $2" },
            { name := "intlFormat", text := "$1-$2" }] }] },
    { name := "generalDesc"
      children := [{ name := "nationalNumberPattern", text := "\\d \\d+" }] },
    { name := "emergency"
      children := [{ name := "possibleNumberPattern", text := "9|11" }] }]

theorem Record.isPattern_of_trunk :
    ∃ r, Record.ofTerritory "XX" trunkTerritory true = .ok r ∧ ∀ p ∈ r.patterns, IsPattern p := by
  have hr : ∃ r, Record.ofTerritory "XX" trunkTerritory true = .ok r := ⟨_, rfl⟩
  obtain ⟨r, hr⟩ := hr
  have hprefix : IsPattern trunkTerritory.nationalPrefix := by decide
  exact ⟨r, hr, (Record.ofTerritory_patterns_iff hr).1.2 (.inr (.inr hprefix))⟩

def unclosedTerritory : Element where
  name := Schema.territory
  attributes := [("countryCode", "1"), ("internationalPrefix", "00"), ("nationalPrefix", "(")]

theorem Record.not_forall_isPattern :
    ¬ ∀ region territory lite r, Record.ofTerritory region territory lite = .ok r →
      ∀ p ∈ r.patterns, IsPattern p := by
  intro h
  have hr : ∃ r, Record.ofTerritory "XX" unclosedTerritory false = .ok r ∧ "(" ∈ r.patterns :=
    ⟨_, rfl, by decide⟩
  obtain ⟨r, hr, hmem⟩ := hr
  have hp := h "XX" unclosedTerritory false r hr "(" hmem
  exact absurd hp (by decide)

end NumberingPlan
