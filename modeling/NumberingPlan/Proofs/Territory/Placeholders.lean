import NumberingPlan.Proofs.Text.Substitute
import NumberingPlan.Territory.Attributes

/-! The placeholders of formatting rules. A national prefix of digits is put in without any effect
on where the first group goes, and the other way round. Main statement:
`Element.formattingRules_filled`. -/
namespace NumberingPlan

/-- A rule in which the first `$NP` and the first `$FG`, each where it stands in the rule as it is
written, have given way to the national prefix and to the first group; all else is as written. -/
def FilledRule (nationalPrefix rule filled : String) : Prop :=
  Text.Filled "$NP".toList nationalPrefix.toList "$FG".toList "$\x7b1\x7d".toList rule.toList
    filled.toList

def fillGroupFirst (rule nationalPrefix : String) : String :=
  let withGroup := Text.replaceFirst "$FG".toList "$\x7b1\x7d".toList rule.toList
  String.ofList (Text.replaceFirst "$NP".toList nationalPrefix.toList withGroup)

theorem apart_placeholders : Text.Apart "$NP".toList "$FG".toList := by decide

theorem apart_group_prefix : Text.Apart "$\x7b1\x7d".toList "$NP".toList := by decide

section Plain

variable {nationalPrefix rule : String} (hne : nationalPrefix ≠ "")
  (hplain : ∀ c ∈ nationalPrefix.toList, c ∉ ['$', 'F', 'G'])
include hne hplain

theorem apart_prefix_group : Text.Apart nationalPrefix.toList "$FG".toList :=
  Text.apart_of_disjoint (by simpa using hne) (by decide) hplain

theorem fillPlaceholders_eq_iff {filled : String} :
    fillPlaceholders rule nationalPrefix = filled ↔ FilledRule nationalPrefix rule filled := by
  rw [FilledRule, Text.filled_iff (by decide) apart_placeholders (apart_prefix_group hne hplain),
    fillPlaceholders]
  constructor
  · intro h
    rw [← h]
    exact String.toList_ofList.symm
  · intro h
    rw [h, String.ofList_toList]

theorem fillGroupFirst_eq : fillGroupFirst rule nationalPrefix =
    fillPlaceholders rule nationalPrefix := by
  have hcomm := Text.replaceFirst_comm (by decide) (by decide) apart_placeholders
    (apart_prefix_group hne hplain) apart_group_prefix rule.toList
  rw [fillGroupFirst, fillPlaceholders, hcomm]

theorem Element.formattingRule_eq_iff {e : Element} {key filled : String}
    (h : e.attribute? key = some rule) :
    e.formattingRule key nationalPrefix = filled ↔ FilledRule nationalPrefix rule filled := by
  rw [formattingRule, h]
  exact fillPlaceholders_eq_iff hne hplain

end Plain

/-- With a national prefix that shares no character with `$FG`, both placeholders of a rule are
filled in at once: each of the two attributes gives exactly its rule with the first `$NP` and the
first `$FG` replaced. So it makes no difference which of them goes first. -/
theorem Element.formattingRules_filled {nationalPrefix : String} (hne : nationalPrefix ≠ "")
    (hplain : ∀ c ∈ nationalPrefix.toList, c ∉ ['$', 'F', 'G']) (e : Element) (rule : String) :
    (e.attribute? Schema.nationalPrefixRule = some rule →
      ∀ filled, e.nationalPrefixRule nationalPrefix = filled ↔
        FilledRule nationalPrefix rule filled) ∧
    (e.attribute? Schema.carrierCodeRule = some rule →
      ∀ filled, e.carrierCodeRule nationalPrefix = filled ↔
        FilledRule nationalPrefix rule filled) ∧
    fillGroupFirst rule nationalPrefix = fillPlaceholders rule nationalPrefix := by
  refine ⟨fun h filled => ?_, fun h filled => ?_, fillGroupFirst_eq hne hplain⟩
  · exact formattingRule_eq_iff hne hplain h
  · exact formattingRule_eq_iff hne hplain h

/-- A prefix with letters of `$NP`, and a `$` right before the placeholder that it is put in for. -/
def borrowedLetters : Element where
  name := Schema.territory
  attributes := [("nationalPrefixFormattingRule", "$$NP$FG$CC$NP$FG"),
    ("carrierCodeFormattingRule", "$$NP$FG$CC$NP$FG")]

theorem Element.formattingRules_borrowedLetters :
    "NP" ≠ "" ∧ (∀ c ∈ "NP".toList, c ∉ ['$', 'F', 'G']) ∧
      FilledRule "NP" "$$NP$FG$CC$NP$FG" "$NP$\x7b1\x7d$CC$NP$FG" ∧
      borrowedLetters.carrierCodeRule "NP" = borrowedLetters.nationalPrefixRule "NP" ∧
      fillGroupFirst "$$NP$FG$CC$NP$FG" "NP" = "$NP$\x7b1\x7d$CC$NP$FG" := by
  have hne : "NP" ≠ "" := by decide
  have hplain : ∀ c ∈ "NP".toList, c ∉ ['$', 'F', 'G'] := by simp
  obtain ⟨hnational, hcarrier, hcomm⟩ :=
    Element.formattingRules_filled hne hplain borrowedLetters "$$NP$FG$CC$NP$FG"
  have hfilled := (hnational (by decide) "$NP$\x7b1\x7d$CC$NP$FG").1 (by decide)
  have hsame := (hcarrier (by decide) _).2 ((hnational (by decide) _).1 rfl)
  exact ⟨hne, hplain, hfilled, hsame, hcomm.trans (by decide)⟩

/-- An empty prefix can bring the characters of a placeholder together. -/
example : fillPlaceholders "$$NPFG" "" = "$\x7b1\x7d" ∧ fillGroupFirst "$$NPFG" "" = "$FG" := by
  decide

end NumberingPlan
