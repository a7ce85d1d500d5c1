import NumberingPlan.Proofs.Agreement
import NumberingPlan.Proofs.Territory.Descriptions
import NumberingPlan.Proofs.Territory.Records

/-! A lite build beside a full one. Sample numbers are inherited together with the patterns, but
nothing else is made from them, so both builds fail alike or give records that differ in sample
numbers only. Main statement: `Record.ofTerritory_agree`. -/
namespace NumberingPlan

def Description.SamePatterns (d e : Description) : Prop :=
  d.possible = e.possible ∧ d.national = e.national

def Descriptions.SamePatterns (ds es : Descriptions) : Prop :=
  (∀ c, (ds.of c).SamePatterns (es.of c)) ∧
    ds.sameMobileAndFixedLine = es.sameMobileAndFixedLine

structure Record.SameButSamples (r s : Record) : Prop where
  profile : r.profile = s.profile
  formats : r.formats = s.formats
  descriptions : r.descriptions.SamePatterns s.descriptions

/-- The samples of a lite build: an empty one wherever the territory has a description. -/
def Record.HasLiteSamples (territory : Element) (r : Record) : Prop :=
  ∀ c, (r.description c).sample =
    if (territory.firstChild? c.tag).isSome then "" else notApplicable

theorem Descriptions.SamePatterns.set {ds es : Descriptions} (h : ds.SamePatterns es) (c : Category)
    {d e : Description} (hd : d.SamePatterns e) : (ds.set c d).SamePatterns (es.set c e) := by
  refine ⟨fun x => ?_, h.2⟩
  by_cases hx : x = c
  · simpa [Descriptions.set, hx] using hd
  · simpa [Descriptions.set, hx] using h.1 x

variable [Pattern.Engine]

theorem Description.ofTerritory_agree {inherited inherited' : Description}
    (h : inherited.SamePatterns inherited') (territory : Element) (c : Category)
    (lite lite' : Bool) :
    Agree SamePatterns (ofTerritory inherited territory c lite)
      (ofTerritory inherited' territory c lite') := by
  obtain ⟨hpossible, hnational⟩ := h
  unfold ofTerritory
  cases territory.firstChild? c.tag with
  | none => exact .result ⟨rfl, rfl⟩
  | some e =>
    simp only [hpossible, hnational]
    refine (Agree.of_eq rfl fun _ => rfl).bind fun possible _ hp => ?_
    refine (Agree.of_eq rfl fun _ => rfl).bind fun national _ hn => ?_
    exact .result ⟨hp, hn⟩

theorem Description.sample_of_lite {inherited d : Description} {territory : Element} {c : Category}
    (h : Description.ofTerritory inherited territory c true = .ok d) :
    d.sample = if (territory.firstChild? c.tag).isSome then "" else notApplicable := by
  rcases Description.ofTerritory_eq_ok.1 h with ⟨hnone, rfl⟩ | ⟨e, he, -, -, hsample⟩
  · simp [hnone]
  · simpa [he] using hsample

namespace Descriptions

theorem loadEach_agree {general general' : Description} (hg : general.SamePatterns general')
    (territory : Element) (lite lite' : Bool) (cs : List Category) {ds es : Descriptions}
    (h : ds.SamePatterns es) :
    Agree SamePatterns (outcome ((loadEach general territory lite cs).run ds))
      (outcome ((loadEach general' territory lite' cs).run es)) := by
  induction cs generalizing ds es with
  | nil => exact .result h
  | cons c cs ih =>
    rw [loadEach, loadEach, outcome_bind_ofExcept, outcome_bind_ofExcept]
    refine (Description.ofTerritory_agree hg territory c lite lite').bind fun d e hde => ?_
    rw [outcome_bind, outcome_bind]
    exact ih (h.set c hde)

theorem load_agree (territory : Element) (lite lite' : Bool) {ds es : Descriptions}
    (h : ds.SamePatterns es) :
    Agree SamePatterns (outcome ((load territory lite).run ds))
      (outcome ((load territory lite').run es)) := by
  have hnew : ({} : Description).SamePatterns {} := ⟨rfl, rfl⟩
  rw [load, load, outcome_bind_ofExcept, outcome_bind_ofExcept]
  refine (Description.ofTerritory_agree hnew territory .general lite lite').bind fun d e hde => ?_
  rw [outcome_bind, outcome_bind]
  refine (loadEach_agree hde territory lite lite' _ h).bind fun ms ns hmn => ?_
  have hset := hmn.set .general hde
  have hmobile := (hset.1 (.ofType .mobile)).2
  have hfixedLine := (hset.1 (.ofType .fixedLine)).2
  exact .result ⟨hset.1, by simp only [hmobile, hfixedLine]⟩

end Descriptions

namespace Record

/-- Whether sample numbers are kept decides neither whether a territory compiles nor anything else
of its record. -/
theorem ofTerritory_agree (region : String) (territory : Element) (lite lite' : Bool) :
    Agree SameButSamples (ofTerritory region territory lite)
      (ofTerritory region territory lite') := by
  rw [ofTerritory_eq_outcome, ofTerritory_eq_outcome]
  refine (Agree.of_eq (R := Eq) rfl fun _ => rfl).bind fun profile _ hprofile => ?_
  subst hprofile
  refine (Agree.of_eq (R := Eq) rfl fun _ => rfl).bind fun optional _ hoptional => ?_
  subst hoptional
  refine (Agree.of_eq (R := Eq) rfl fun _ => rfl).bind fun r _ hr => ?_
  subst hr
  rw [outcome_loadDescriptions, outcome_loadDescriptions]
  have hsame : r.descriptions.SamePatterns r.descriptions := ⟨fun _ => ⟨rfl, rfl⟩, rfl⟩
  exact (Descriptions.load_agree territory lite lite' hsame).map fun ds es hde => ⟨rfl, rfl, hde⟩

theorem hasLiteSamples {region : String} {territory : Element} {r : Record}
    (h : ofTerritory region territory true = .ok r) : r.HasLiteSamples territory := by
  obtain ⟨hgeneral, hspecific⟩ := Descriptions.of_load (ofTerritory_eq_ok.1 h).2.2
  intro c
  by_cases hc : c = .general
  · subst hc
    exact Description.sample_of_lite hgeneral
  · exact Description.sample_of_lite (hspecific c hc)

theorem ofEntry_agree (territory : Element) (lite lite' : Bool) :
    Agree SameButSamples (ofEntry lite territory) (ofEntry lite' territory) := by
  unfold ofEntry
  cases territory.attribute? Schema.id with
  | none => exact .fault _
  | some region => exact (ofTerritory_agree region territory lite lite').mapError

theorem ofDocument_agree (root : Element) (lite lite' : Bool) :
    Agree (List.Forall₂ SameButSamples) (ofDocument root lite) (ofDocument root lite') :=
  .mapM (fun territory => ofEntry_agree territory lite lite') _

end Record

end NumberingPlan
