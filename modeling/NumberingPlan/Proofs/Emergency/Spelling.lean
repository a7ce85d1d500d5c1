import Mathlib.Logic.Relation
import NumberingPlan.Proofs.Emergency.Trailing

/-! Spellings of a number. Blanks, separators behind the first character and the script of the
digits can be changed at will: of all this only the first character that is no blank and the text
without separators are looked at. Main statement: `Registry.answers_eq_of_respelled`. -/
namespace NumberingPlan

/-- One change to how a number is written. Taken backwards the first two delete a character. -/
inductive Respelled : String → String → Prop
  | blank (before after : String) (c : Char) (hc : Text.isBlank c = true)
      (hbefore : ∀ b ∈ before.toList, Text.isBlank b = true) :
      Respelled (before ++ after) (before ++ String.singleton c ++ after)
  | separator (before after : String) (c : Char) (hc : isSeparator c = true)
      (hbefore : NotBlank before) :
      Respelled (before ++ after) (before ++ String.singleton c ++ after)
  | digit (before after : String) (c d : Char) {value : Nat}
      (hc : Text.digitValue? c = some value) (hd : Text.digitValue? d = some value) :
      Respelled (before ++ String.singleton c ++ after) (before ++ String.singleton d ++ after)

def firstSign (number : String) : Option Char :=
  (number.toList.find? fun c => !Text.isBlank c).map Text.toAsciiDigit

structure SpelledAlike (m n : String) : Prop where
  first : firstSign m = firstSign n
  plain : plainText m.toList = plainText n.toList

theorem firstSign_eq_some {number : String} {x : Char} (hx : Text.digitValue? x = none) :
    firstSign number = some x ↔ number.toList.find? (fun c => !Text.isBlank c) = some x := by
  rw [firstSign, Option.map_eq_some_iff]
  constructor
  · intro h
    obtain ⟨c, hc, hxc⟩ := h
    rw [hc, (toAsciiDigit_eq hx).1 hxc]
  · intro h
    exact ⟨x, h, (toAsciiDigit_eq hx).2 rfl⟩

theorem domestic_iff {number : String} :
    Domestic number ↔ firstSign number ≠ some '+' ∧ firstSign number ≠ some '\uFF0B' := by
  rw [ne_eq, ne_eq, firstSign_eq_some rfl, firstSign_eq_some rfl, Domestic]
  cases number.toList.find? fun c => !Text.isBlank c with
  | none => simp
  | some c => simp

theorem Dialling.textOf_exactly_plain (number : String) :
    exactly.textOf number =
      if firstSign number = some '*' then (plainText number.toList).tail
      else plainText number.toList := by
  have hfirst : firstSign number = some '*' ↔
      (number.toList.dropWhile Text.isBlank).head? = some '*' := by
    rw [firstSign_eq_some rfl, List.find?_not_eq_head?_dropWhile]
  rw [textOf_exactly_eq, ← plainText_dropWhile number.toList]
  simp only [hfirst]
  cases number.toList.dropWhile Text.isBlank with
  | nil => rfl
  | cons c cs =>
    by_cases hc : c = '*'
    · subst hc
      simp [plainText_cons_star]
    · simp [hc]

theorem SpelledAlike.textOf {m n : String} (h : SpelledAlike m n) (d : Dialling) :
    d.textOf m = d.textOf n := by
  cases d with
  | connects => rw [Dialling.textOf_connects, Dialling.textOf_connects, h.plain]
  | exactly => rw [Dialling.textOf_exactly_plain, Dialling.textOf_exactly_plain, h.first, h.plain]

theorem firstSign_append_of_notBlank {before : String} (h : NotBlank before) (after : String) :
    firstSign (before ++ after) = firstSign before := by
  rw [firstSign, firstSign, h.find?_append]

theorem firstSign_append_of_blank {before : String}
    (h : ∀ b ∈ before.toList, Text.isBlank b = true) (after : String) :
    firstSign (before ++ after) = firstSign after := by
  have hnone : before.toList.find? (fun c => !Text.isBlank c) = none :=
    List.find?_eq_none.2 fun b hb => by simp [h b hb]
  rw [firstSign, firstSign, String.toList_append, List.find?_append, hnone, Option.none_or]

theorem firstSign_digit {c : Char} {value : Nat} (hc : Text.digitValue? c = some value)
    (after : String) :
    firstSign (String.singleton c ++ after) = some (Text.asciiDigit value) := by
  have hblank : Text.isBlank c = false := by
    by_contra h
    rw [digitValue?_of_isBlank (by simpa using h)] at hc
    cases hc
  simp [firstSign, hblank, Text.toAsciiDigit, hc]

theorem plainText_separator {c : Char} (hc : isSeparator c = true) (before after : String) :
    plainText (before ++ String.singleton c ++ after).toList =
      plainText (before ++ after).toList := by
  simp [plainText_append, plainText_cons_separator hc]

theorem plainText_digit {c d : Char} {value : Nat} (hc : Text.digitValue? c = some value)
    (hd : Text.digitValue? d = some value) (before after : String) :
    plainText (before ++ String.singleton c ++ after).toList =
      plainText (before ++ String.singleton d ++ after).toList := by
  have hascii : Text.toAsciiDigit c = Text.toAsciiDigit d := by
    rw [Text.toAsciiDigit, Text.toAsciiDigit, hc, hd]
  simp [plainText, hascii]

theorem Respelled.spelledAlike {m n : String} (h : Respelled m n) : SpelledAlike m n := by
  cases h with
  | blank before after c hc hbefore =>
    have hsep : isSeparator c = true := by simp [isSeparator, hc]
    refine ⟨?_, (plainText_separator hsep before after).symm⟩
    have hboth : ∀ b ∈ (before ++ String.singleton c).toList, Text.isBlank b = true := by
      intro b hb
      rw [String.toList_append, List.mem_append] at hb
      rcases hb with hb | hb
      · exact hbefore b hb
      · obtain rfl : b = c := by simpa using hb
        exact hc
    rw [firstSign_append_of_blank hbefore, firstSign_append_of_blank hboth]
  | separator before after c hc hbefore =>
    refine ⟨?_, (plainText_separator hc before after).symm⟩
    rw [String.append_assoc, firstSign_append_of_notBlank hbefore,
      firstSign_append_of_notBlank hbefore]
  | digit before after c d hc hd =>
    refine ⟨?_, plainText_digit hc hd before after⟩
    rw [String.append_assoc, String.append_assoc]
    by_cases hbefore : NotBlank before
    · rw [firstSign_append_of_notBlank hbefore, firstSign_append_of_notBlank hbefore]
    · have hblank : ∀ b ∈ before.toList, Text.isBlank b = true := by
        simpa [NotBlank] using hbefore
      rw [firstSign_append_of_blank hblank, firstSign_append_of_blank hblank,
        firstSign_digit hc, firstSign_digit hd]

theorem SpelledAlike.of_respelled {m n : String} (h : Relation.EqvGen Respelled m n) :
    SpelledAlike m n := by
  induction h with
  | rel _ _ hchange => exact hchange.spelledAlike
  | refl _ => exact ⟨rfl, rfl⟩
  | symm _ _ _ ih => exact ⟨ih.first.symm, ih.plain.symm⟩
  | trans _ _ _ _ _ ih ih' => exact ⟨ih.first.trans ih'.first, ih.plain.trans ih'.plain⟩

namespace Registry

theorem answer_congr [Pattern.Engine] (g : Registry) (d : Dialling) (region : String) {m n : String}
    (h : SpelledAlike m n) :
    g.answer { dialling := d, number := m, region } =
      g.answer { dialling := d, number := n, region } := by
  have hdomestic : Domestic m ↔ Domestic n := by rw [domestic_iff, domestic_iff, h.first]
  rw [Bool.eq_iff_iff, answer_eq_true, answer_eq_true, h.textOf d, hdomestic]

/-- However a number is written, the answers are the same. -/
theorem answers_eq_of_respelled [Pattern.Engine] (g : Registry) (region : String)
    {m n : String} (h : Relation.EqvGen Respelled m n) :
    g.connectsToEmergency m region = g.connectsToEmergency n region ∧
      g.isEmergency m region = g.isEmergency n region :=
  ⟨g.answer_congr .connects region (.of_respelled h),
    g.answer_congr .exactly region (.of_respelled h)⟩

theorem answers_respelledStar :
    let g := ofRecords [.ofEmergency "XX" "911"]
    Relation.EqvGen Respelled " *911" "*\u2013\u06691\u30001" ∧
      g.isEmergency " *911" "XX" = true ∧
      g.connectsToEmergency " *911" "XX" = g.connectsToEmergency "*\u2013\u06691\u30001" "XX" ∧
      g.isEmergency " *911" "XX" = g.isEmergency "*\u2013\u06691\u30001" "XX" := by
  have hfront : Respelled "*911" " *911" := .blank "" "*911" ' ' rfl (by simp)
  have hdash : Respelled "*911" "*\u2013911" := .separator "*" "911" '\u2013' rfl (by decide)
  have hblank : Respelled "*\u2013911" "*\u201391\u30001" :=
    .separator "*\u201391" "1" '\u3000' rfl (by decide)
  have hdigit : Respelled "*\u201391\u30001" "*\u2013\u06691\u30001" :=
    .digit "*\u2013" "1\u30001" '9' '\u0669' rfl rfl
  have hrespelled : Relation.EqvGen Respelled " *911" "*\u2013\u06691\u30001" :=
    .trans _ _ _ (.symm _ _ (.rel _ _ hfront))
      (.trans _ _ _ (.rel _ _ hdash) (.trans _ _ _ (.rel _ _ hblank) (.rel _ _ hdigit)))
  exact ⟨hrespelled, rfl, answers_eq_of_respelled _ "XX" hrespelled⟩

end Registry

end NumberingPlan
