import Mathlib.Order.Fin.Tuple
import NumberingPlan.Pattern.Standard
import NumberingPlan.Proofs.Territory.Descriptions
import NumberingPlan.Proofs.Territory.Formats
import NumberingPlan.Proofs.Territory.Records

/-! How the parts of a compiled territory hang together. Prefixes stand in for one another, a switch
caches a comparison, and international rules repeat the patterns of the national rules they belong
to. Main statement: `Record.ofTerritory_consistent`. -/
namespace NumberingPlan

structure FormatRule.IsOf (rule : Element) (r : FormatRule) : Prop where
  format : ∃ f, rule.childrenNamed Schema.format = [f] ∧ r.format = f.text
  pattern : r.pattern = (rule.attribute? Schema.pattern).getD ""
  leadingDigits : r.leadingDigits =
    (rule.childrenNamed Schema.leadingDigits).map fun d => Text.withoutBlanks d.text

structure FormatRule.GoesWith (r national : FormatRule) : Prop where
  pattern : r.pattern = national.pattern
  leadingDigits : r.leadingDigits = national.leadingDigits
  offered : r.format ≠ notApplicable
  nationalPrefixRule : r.nationalPrefixRule = ""
  carrierCodeRule : r.carrierCodeRule = ""
  nationalPrefixOptional : r.nationalPrefixOptional = false

/-- A rule with an international format of its own that is not withheld. -/
def Element.Offers (rule : Element) (format : String) : Prop :=
  ∃ f, rule.childrenNamed Schema.internationalFormat = [f] ∧ f.text = format ∧
    format ≠ notApplicable

/-- Where in the national list the rule of each international one stands. -/
structure Formats.Aligned (rules : List Element) (fs : Formats)
    (f : Fin fs.international.length → Fin fs.national.length) : Prop where
  ascending : StrictMono f
  goesWith : ∀ j : Fin _, fs.international[j].GoesWith fs.national[f j]
  offered : ∀ j : Fin _, ∃ rule, rules[(f j).val]? = some rule ∧
    rule.Offers fs.international[j].format
  complete : ∀ i : Fin _, i ∈ Set.range f ↔
    ∃ rule format, rules[i.val]? = some rule ∧ rule.Offers format

structure Record.Consistent (t : Element) (r : Record) : Prop where
  callingCode : 1 ≤ r.callingCode
  nationalPrefix : ∀ v, r.profile.nationalPrefix = some v ↔
    t.attribute? Schema.nationalPrefix = some v ∧ v ≠ ""
  forParsing : ∀ v, r.profile.nationalPrefix = some v →
    ∃ p, r.profile.nationalPrefixForParsing = some p ∧
      (t.attribute? Schema.nationalPrefixForParsing = none → p = v)
  transformRule : r.profile.nationalPrefixTransformRule ≠ none →
    ∃ v, t.attribute? Schema.nationalPrefixForParsing = some v ∧
      r.profile.nationalPrefixForParsing = some (Text.withoutBlanks v)
  sameMobileAndFixedLine : r.descriptions.sameMobileAndFixedLine = true ↔
    (r.description (.ofType .fixedLine)).national = (r.description (.ofType .mobile)).national
  rules : List.Forall₂ FormatRule.IsOf (Formats.rulesOf t) r.formats.national
  international : ∃ f, r.formats.Aligned (Formats.rulesOf t) f

theorem one_le_of_readCallingCode {v : String} {n : Int} (h : readCallingCode v = .ok n) :
    1 ≤ n := by
  obtain ⟨m, -, hm, -, rfl⟩ := readCallingCode_eq_ok.1 h
  omega

theorem FormatDraft.onlyFormat_eq_ok {rule : Element} {format : String} :
    onlyFormat rule = .ok format ↔
      ∃ f, rule.childrenNamed Schema.format = [f] ∧ format = f.text := by
  unfold onlyFormat
  split
  case h_1 f h => simp [h, eq_comm]
  case h_2 hne =>
    simp only [reduceCtorEq, false_iff]
    intro h
    obtain ⟨f, hf, -⟩ := h
    exact hne f hf

def International.explicit? : International → Option FormatRule
  | explicit r => some r
  | _ => none

structure Formats.SidesAgree (rule : Element) (s : FormatRule × International) : Prop where
  national : s.1.IsOf rule
  international : ∀ r, s.2.explicit? = some r → r.GoesWith s.1 ∧ rule.Offers r.format
  complete : ∀ format, rule.Offers format → ∃ r, s.2.explicit? = some r

/-- The entries that come of some elements of a list stand for those elements in order. -/
theorem exists_positions {α β : Type} {g : α → Option β} {xs : List α} {ys : List β} {n : Nat}
    (hn : xs.length = n) (h : xs.filterMap g = ys) :
    ∃ f : Fin ys.length → Fin n, StrictMono f ∧
      (∀ j, ∃ x, xs[(f j).val]? = some x ∧ g x = some ys[j]) ∧
      ∀ i, i ∈ Set.range f ↔ ∃ x y, xs[i.val]? = some x ∧ g x = some y := by
  subst hn
  induction xs generalizing ys with
  | nil =>
    subst h
    exact ⟨fun j => j.elim0, fun j => j.elim0, fun j => j.elim0, fun i => i.elim0⟩
  | cons x xs ih =>
    cases hx : g x with
    | none =>
      rw [List.filterMap_cons_none hx] at h
      obtain ⟨f, hmono, hsome, hrange⟩ := ih h
      refine ⟨fun j => (f j).succ, fun a b hab => Fin.succ_lt_succ_iff.2 (hmono hab),
        fun j => hsome j, fun i => ?_⟩
      cases i using Fin.cases with
      | zero => simp [hx]
      | succ i => simpa using hrange i
    | some y =>
      rw [List.filterMap_cons_some hx] at h
      subst h
      obtain ⟨f, hmono, hsome, hrange⟩ := ih rfl
      have hcons : StrictMono (Fin.cons 0 fun j => (f j).succ : Fin _ → Fin (xs.length + 1)) := by
        refine Fin.strictMono_cons.2 ⟨fun j => Fin.succ_pos _, fun a b hab => ?_⟩
        exact Fin.succ_lt_succ_iff.2 (hmono hab)
      refine ⟨Fin.cons 0 fun j => (f j).succ, hcons, fun j => ?_, fun i => ?_⟩
      · cases j using Fin.cases with
        | zero => exact ⟨x, rfl, hx⟩
        | succ j => exact hsome j
      · rw [Fin.range_cons, Set.mem_insert_iff]
        cases i using Fin.cases with
        | zero => simp [hx]
        | succ i => simpa using hrange i

theorem getElem?_related {α β : Type} {R : α → β → Prop} {xs : List α} {ys : List β}
    (h : List.Forall₂ R xs ys) (i : Nat) : Option.Rel R xs[i]? ys[i]? := by
  induction h generalizing i with
  | nil => exact .none
  | cons hxy _ ih =>
    cases i with
    | zero => exact .some hxy
    | succ i => exact ih i

namespace Formats

theorem international_addSides (sides : List (FormatRule × International)) :
    sides.filterMap (fun s => s.2.explicit?) = (({} : Formats).addSides sides).international := by
  have hlisted : ∀ i : International, i.listed = i.explicit?.toList := by
    intro i
    cases i <;> rfl
  simp only [addSides, hlisted, List.nil_append, List.filterMap_eq_flatMap_toList]

theorem exists_aligned {rules : List Element} {sides : List (FormatRule × International)}
    (h : List.Forall₂ SidesAgree rules sides) :
    ∃ f, (({} : Formats).addSides sides).Aligned rules f := by
  have hlength : sides.length = (({} : Formats).addSides sides).national.length := by
    simp [addSides]
  obtain ⟨f, hmono, hsome, hrange⟩ := exists_positions hlength (international_addSides sides)
  -- the element and the sides at one position belong together
  have hside : ∀ {i : Nat} {s}, sides[i]? = some s → ∃ rule, rules[i]? = some rule ∧
      SidesAgree rule s := by
    intro i s hs
    have hrel := getElem?_related h i
    rw [hs] at hrel
    generalize rules[i]? = rule at hrel
    cases hrel with
    | some hagree => exact ⟨_, rfl, hagree⟩
  refine ⟨f, hmono, fun j => ?_, fun j => ?_, fun i => ?_⟩
  · obtain ⟨s, hs, hexplicit⟩ := hsome j
    obtain ⟨rule, -, hagree⟩ := hside hs
    have hnational : (({} : Formats).addSides sides).national[f j] = s.1 := by
      obtain ⟨_, rfl⟩ := List.getElem?_eq_some_iff.1 hs
      exact List.getElem_map Prod.fst
    rw [hnational]
    exact (hagree.international _ hexplicit).1
  · obtain ⟨s, hs, hexplicit⟩ := hsome j
    obtain ⟨rule, hrule, hagree⟩ := hside hs
    exact ⟨rule, hrule, (hagree.international _ hexplicit).2⟩
  · rw [hrange]
    constructor
    · intro hi
      obtain ⟨s, r, hs, hexplicit⟩ := hi
      obtain ⟨rule, hrule, hagree⟩ := hside hs
      exact ⟨rule, _, hrule, (hagree.international r hexplicit).2⟩
    · intro hi
      obtain ⟨rule, format, hrule, hoffers⟩ := hi
      have hlt : i.val < sides.length := i.isLt.trans_eq hlength.symm
      obtain ⟨rule', hrule', hagree⟩ := hside (List.getElem?_eq_getElem hlt)
      rw [hrule, Option.some.injEq] at hrule'
      obtain ⟨r, hr⟩ := hagree.complete format (hrule' ▸ hoffers)
      exact ⟨_, r, List.getElem?_eq_getElem hlt, hr⟩

end Formats

section
variable [Pattern.Engine]

namespace Profile.ReadFrom

variable {region : String} {t : Element} {p : Profile}

theorem nationalPrefix_eq_some (h : p.ReadFrom region t t.nationalPrefix) (v : String) :
    p.nationalPrefix = some v ↔ t.attribute? Schema.nationalPrefix = some v ∧ v ≠ "" := by
  rw [h.nationalPrefix, Element.nationalPrefix]
  cases t.attribute? Schema.nationalPrefix with
  | none => simp
  | some w =>
    by_cases hw : w = ""
    · simp [hw, eq_comm]
    · simp only [Option.getD_some, hw, if_false, Option.some.injEq]
      constructor
      · intro hwv
        exact ⟨hwv, hwv ▸ hw⟩
      · exact And.left

theorem forParsing_of_nationalPrefix {nationalPrefix : String}
    (h : p.ReadFrom region t nationalPrefix) {v : String} (hv : p.nationalPrefix = some v) :
    ∃ q, p.nationalPrefixForParsing = some q ∧
      (t.attribute? Schema.nationalPrefixForParsing = none → q = v) := by
  obtain ⟨own, hown, hfor, -⟩ := h.forParsing
  rw [hv] at hfor
  rcases Element.checked_eq_ok.1 hown with ⟨-, rfl⟩ | ⟨w, q, hw, -, rfl⟩
  · exact ⟨v, hfor, fun _ => rfl⟩
  · refine ⟨q, hfor, fun hnone => ?_⟩
    rw [hw] at hnone
    exact nomatch hnone

theorem forParsing_of_transformRule {nationalPrefix : String}
    (h : p.ReadFrom region t nationalPrefix) (hrule : p.nationalPrefixTransformRule ≠ none) :
    ∃ v, t.attribute? Schema.nationalPrefixForParsing = some v ∧
      p.nationalPrefixForParsing = some (Text.withoutBlanks v) := by
  obtain ⟨own, hown, hfor, htransform⟩ := h.forParsing
  rcases Element.checked_eq_ok.1 hown with ⟨-, rfl⟩ | ⟨v, q, hv, hq, rfl⟩
  · simp only [Option.isSome_none, Bool.false_eq_true, if_false, Except.ok.injEq] at htransform
    exact absurd htransform.symm hrule
  · obtain ⟨-, rfl⟩ := checkPattern_eq_ok.1 hq
    exact ⟨v, hv, hfor⟩

end Profile.ReadFrom

theorem Descriptions.sameMobileAndFixedLine_of_load {territory : Element} {lite : Bool}
    {ds ds' : Descriptions} {u : Unit} (h : (load territory lite).run ds = .ok u ds') :
    ds'.sameMobileAndFixedLine = true ↔
      (ds'.of (.ofType .fixedLine)).national = (ds'.of (.ofType .mobile)).national :=
  (load_eq_ok.1 h).2.2

theorem withoutBlanks_of_checked {es : List Element} {ps : List String}
    (h : es.mapM (fun e => checkBarePattern e.text) = .ok ps) :
    ps = es.map fun e => Text.withoutBlanks e.text := by
  have hall := mapM_eq_ok.1 h
  clear h
  induction hall with
  | nil => rfl
  | cons hp _ ih =>
    obtain ⟨-, rfl⟩ := checkPattern_eq_ok.1 hp
    rw [ih, List.map_cons]

theorem FormatDraft.loadPatterns_eq {rule : Element} {d d' : FormatDraft} {u : Unit}
    (h : (loadPatterns rule).run d = .ok u d') :
    d' = { d with
      leadingDigits := d.leadingDigits ++
        (rule.childrenNamed Schema.leadingDigits).map fun d => Text.withoutBlanks d.text
      pattern := (rule.attribute? Schema.pattern).getD "" } := by
  obtain ⟨ps, p, hps, hp, rfl⟩ := loadPatterns_eq_ok.1 h
  obtain ⟨-, rfl⟩ := checkPattern_eq_ok.1 hp
  rw [withoutBlanks_of_checked hps]

theorem FormatRule.ofElement_isOf {defaults : FormatDefaults} {nationalPrefix : String}
    {rule : Element} {r : FormatRule}
    (h : FormatRule.ofElement defaults nationalPrefix rule = .ok r) : r.IsOf rule := by
  obtain ⟨d, m, format, hd, hm, hformat, rfl⟩ := FormatRule.ofElement_eq_ok.1 h
  have hnil : d.leadingDigits = [] := by rw [(FormatDefaults.draft_eq_ok.1 hd).2]
  have hpatterns := FormatDraft.loadPatterns_eq hm
  exact {
    format := FormatDraft.onlyFormat_eq_ok.1 hformat
    pattern := by rw [hpatterns]
    leadingDigits := by rw [hpatterns, hnil, List.nil_append] }

theorem FormatRule.plain_goesWith {rule : Element} {format : String} {r national : FormatRule}
    (h : FormatRule.plain rule format = .ok r) (hn : national.IsOf rule)
    (hformat : format ≠ notApplicable) : r.GoesWith national ∧ r.format = format := by
  obtain ⟨d, hd, rfl⟩ := FormatRule.plain_eq_ok.1 h
  have hpatterns := FormatDraft.loadPatterns_eq hd
  subst hpatterns
  exact ⟨⟨hn.pattern.symm, hn.leadingDigits.symm, hformat, rfl, rfl, rfl⟩, rfl⟩

theorem Formats.sidesOf_agree {defaults : FormatDefaults} {nationalPrefix : String}
    {rule : Element} {s : FormatRule × International}
    (h : sidesOf defaults nationalPrefix rule = .ok s) : SidesAgree rule s := by
  simp only [sidesOf, bind_eq_ok, pure_eq_ok] at h
  obtain ⟨national, hnational, i, hi, rfl⟩ := h
  have hof := FormatRule.ofElement_isOf hnational
  refine ⟨hof, fun r hr => ?_, fun format hoffers => ?_⟩
  · cases i with
    | implied x | withheld => cases hr
    | explicit x =>
      cases hr
      obtain ⟨f, hf, hna, hplain⟩ := International.ofElement_eq_explicit.1 hi
      obtain ⟨hgoes, hformat⟩ := FormatRule.plain_goesWith hplain hof hna
      exact ⟨hgoes, f, hf, hformat.symm, hformat ▸ hna⟩
  · obtain ⟨f, hf, rfl, hna⟩ := hoffers
    simp only [International.ofElement, hf, if_neg hna, map_eq_ok] at hi
    obtain ⟨r, -, rfl⟩ := hi
    exact ⟨r, rfl⟩

/-- What holds together in every record that is made. -/
theorem Record.ofTerritory_consistent {region : String} {t : Element} {lite : Bool} {r : Record}
    (h : ofTerritory region t lite = .ok r) : r.Consistent t := by
  obtain ⟨hprofile, ⟨optional, -, hformats⟩, hdescriptions⟩ := ofTerritory_eq_ok.1 h
  have hread := Profile.ofElement_eq_ok.1 hprofile
  obtain ⟨sides, hsides, hloaded⟩ := Formats.load_eq_ok.1 hformats
  have hagree : List.Forall₂ Formats.SidesAgree (Formats.rulesOf t) sides :=
    (mapM_eq_ok.1 hsides).imp fun _ _ hs => Formats.sidesOf_agree hs
  have hadded : r.formats = ({} : Formats).addSides sides := hloaded
  obtain ⟨v, -, hcode⟩ := hread.callingCode
  constructor
  case callingCode => exact one_le_of_readCallingCode hcode
  case nationalPrefix => exact hread.nationalPrefix_eq_some
  case forParsing => exact fun _ hv => hread.forParsing_of_nationalPrefix hv
  case transformRule => exact hread.forParsing_of_transformRule
  case sameMobileAndFixedLine => exact Descriptions.sameMobileAndFixedLine_of_load hdescriptions
  case rules =>
    rw [hadded]
    exact List.forall₂_map_right_iff.2 (hagree.imp fun _ _ hs => hs.national)
  case international =>
    rw [hadded]
    exact Formats.exists_aligned hagree

end

/-- Four rules: one says nothing of calls from abroad, one withholds them, two offer a format. The
national prefix is not the pattern of prefixes to be parsed. -/
def abroadTerritory : Element where
  name := Schema.territory
  attributes := [("countryCode", " 044 "), ("internationalPrefix", "00"), ("nationalPrefix", "0"),
    ("nationalPrefixForParsing", "0 | 1"), ("nationalPrefixTransformRule", "9$1")]
  children := [
    { name := "availableFormats"
      children := [("[2-4]", []), ("5", ["NA"]), ("6", ["$1"]), ("7 | 8", ["$1-$1"])].map
        fun (digits, abroad) =>
          { name := "numberFormat"
            attributes := [("pattern", "(\\d+)"), ("nationalPrefixFormattingRule", "($NP$FG)")]
            children := [{ name := "leadingDigits", text := digits },
              { name := "format", text := "$1" }] ++
                abroad.map fun text => { name := "intlFormat", text } } }]

theorem Record.consistent_abroad :
    ∃ r, ofTerritory "XX" abroadTerritory false = .ok r ∧ r.formats.international.length = 2 ∧
      r.Consistent abroadTerritory := by
  have hr : ∃ r, ofTerritory "XX" abroadTerritory false = .ok r ∧
      r.formats.international.length = 2 := ⟨_, rfl, rfl⟩
  obtain ⟨r, hr, htwo⟩ := hr
  exact ⟨r, hr, htwo, ofTerritory_consistent hr⟩

end NumberingPlan
