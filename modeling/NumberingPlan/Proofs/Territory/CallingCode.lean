import NumberingPlan.Pattern.Standard
import NumberingPlan.Proofs.Territory.Defects

/-! The calling code of a territory, which is read before any other attribute is looked at. A text
that spells no calling code ends the reading whatever else the territory says, and one that does is
stored as the number it spells. Main statement: `Profile.ofElement_callingCode`. -/
namespace NumberingPlan

/-- ASCII digits, with any number of zeros in front and blanks around them, that write a positive
number below 2^31. -/
structure SpellsCallingCode (v : String) (n : Nat) : Prop where
  digits : ∃ digits, Text.Padded v.toList digits ∧ Text.Writes digits n
  positive : 1 ≤ n
  bounded : n ≤ 2147483647

/-- If anything ends the reading of a profile, it is not the calling code. -/
def Profile.PastCallingCode (outcome : Except Fault Profile) : Prop :=
  outcome ≠ .error (.missingAttribute Schema.callingCode) ∧
    ∀ v, outcome ≠ .error (.invalidAttribute Schema.callingCode v)

variable {v : String} {region nationalPrefix : String} {t : Element}

theorem spellsCallingCode_iff {n : Nat} :
    SpellsCallingCode v n ↔
      Text.Writes (Text.trim v.toList) n ∧ 0 < n ∧ n ≤ greatestCallingCode := by
  rw [Text.writes_trim_iff]
  constructor
  · intro h
    exact ⟨h.digits, h.positive, h.bounded⟩
  · intro h
    obtain ⟨hdigits, hpositive, hbounded⟩ := h
    exact ⟨hdigits, hpositive, hbounded⟩

theorem exists_spellsCallingCode : (∃ n, SpellsCallingCode v n) ↔ IsCallingCode v := by
  simp only [spellsCallingCode_iff, isCallingCode_iff]

theorem readCallingCode_eq_ok_natCast {n : Nat} :
    readCallingCode v = .ok (n : Int) ↔ SpellsCallingCode v n := by
  rw [readCallingCode_eq_ok, spellsCallingCode_iff]
  constructor
  · intro h
    obtain ⟨m, hm, hpositive, hbounded, hnm⟩ := h
    obtain rfl : n = m := by omega
    exact ⟨hm, hpositive, hbounded⟩
  · intro h
    obtain ⟨hn, hpositive, hbounded⟩ := h
    exact ⟨n, hn, hpositive, hbounded, rfl⟩

namespace Profile

section
variable [Pattern.Engine]

/-- A calling code that is one is no fault of its territory. -/
theorem pastCallingCode_of_isCallingCode (hv : t.attribute? Schema.callingCode = some v)
    (h : IsCallingCode v) : PastCallingCode (ofElement region t nationalPrefix) := by
  have hfaults := ofElement_faults region nationalPrefix t
  constructor
  · intro hmissing
    have hnone : t.attribute? Schema.callingCode = none := (hfaults _ hmissing).2
    rw [hv] at hnone
    cases hnone
  · intro w hinvalid
    rcases hfaults _ hinvalid with ⟨-, hw, hno⟩ | ⟨hkey, -⟩ | ⟨hkey, -⟩
    · rw [hv, Option.some.injEq] at hw
      exact hno (hw ▸ h)
    · exact absurd hkey (by decide)
    · exact absurd hkey (by decide)

/-- Whatever the other attributes are, a text that is no calling code ends the reading. -/
theorem ofElement_of_not_isCallingCode (hv : t.attribute? Schema.callingCode = some v)
    (h : ¬ IsCallingCode v) :
    ofElement region t nationalPrefix = .error (.invalidAttribute Schema.callingCode v) := by
  have hread : readCallingCode v = .error (.invalidAttribute Schema.callingCode v) :=
    readCallingCode_eq_error.2 ⟨h, rfl⟩
  unfold ofElement
  exact bind_eq_error.2 (.inr ⟨v, Element.required_eq_ok.2 hv, bind_eq_error.2 (.inl hread)⟩)

/-- A profile is read past the calling code of its territory exactly if that spells a positive
number below 2^31, of whatever length it is. It is read to its end if the other attributes are
right as well, and its calling code then is the number spelled. With any other text nothing but
that text is reported, as written. -/
theorem ofElement_callingCode (region nationalPrefix : String) (t : Element) (v : String)
    (hv : t.attribute? Schema.callingCode = some v) :
    (PastCallingCode (ofElement region t nationalPrefix) ↔ ∃ n, SpellsCallingCode v n) ∧
    ((∃ p, ofElement region t nationalPrefix = .ok p) ↔ t.HasProfile) ∧
    (∀ p (n : Nat), ofElement region t nationalPrefix = .ok p →
      (p.callingCode = n ↔ SpellsCallingCode v n)) ∧
    ((¬ ∃ n, SpellsCallingCode v n) →
      ofElement region t nationalPrefix = .error (.invalidAttribute Schema.callingCode v)) := by
  simp only [exists_spellsCallingCode]
  refine ⟨⟨fun hpast => ?_, pastCallingCode_of_isCallingCode hv⟩, exists_ofElement,
    fun p n hp => ?_, ofElement_of_not_isCallingCode hv⟩
  · by_contra hno
    exact hpast.2 v (ofElement_of_not_isCallingCode hv hno)
  · obtain ⟨w, hw, hread⟩ := (ofElement_eq_ok.1 hp).callingCode
    rw [hv, Option.some.injEq] at hw
    rw [← readCallingCode_eq_ok_natCast, hw, hread, Except.ok.injEq]

end

def territoryCalled (digits : String) : Element where
  name := Schema.territory
  attributes := [("countryCode", "\u3000 000" ++ digits ++ "\n"), ("internationalPrefix", "00")]

/-- The greatest calling code, and one more. -/
theorem callingCode_greatest :
    (∃ p, ofElement "001" (territoryCalled "2147483647") "" = .ok p ∧
      p.callingCode = 2147483647 ∧ SpellsCallingCode "\u3000 0002147483647\n" 2147483647) ∧
    ofElement "001" (territoryCalled "2147483648") "" =
        .error (.invalidAttribute "countryCode" "\u3000 0002147483648\n") ∧
      ¬ ∃ n, SpellsCallingCode "\u3000 0002147483648\n" n := by
  have hgreatest := ofElement_callingCode "001" "" (territoryCalled "2147483647")
    "\u3000 0002147483647\n" rfl
  have hbeyond := ofElement_callingCode "001" "" (territoryCalled "2147483648")
    "\u3000 0002147483648\n" rfl
  have hread : ∃ p, ofElement "001" (territoryCalled "2147483647") "" = .ok p ∧
      p.callingCode = 2147483647 := ⟨_, rfl, rfl⟩
  obtain ⟨p, hp, hcode⟩ := hread
  refine ⟨⟨p, hp, hcode, (hgreatest.2.2.1 p 2147483647 hp).1 hcode⟩, rfl, ?_⟩
  intro hspells
  exact (hbeyond.1.2 hspells).2 _ rfl

end Profile

end NumberingPlan
