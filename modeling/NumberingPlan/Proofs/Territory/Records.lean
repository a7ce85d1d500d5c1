import NumberingPlan.Proofs.Failure
import NumberingPlan.Proofs.Territory.Checks
import NumberingPlan.Territory.Document

/-! What a compiled territory is made of: its profile, field by field, and the outcome of loading
its formats and its descriptions. Main statement: `Record.ofTerritory_eq_ok`. -/
namespace NumberingPlan

namespace Record

theorem verdict_onFormats {α : Type} (x : EStateM Fault Formats α) (r : Record) :
    verdict ((onFormats x).run r) = verdict (x.run r.formats) := by
  simp only [onFormats, EStateM.run]
  cases x r.formats <;> rfl

theorem remains_onFormats {α : Type} (x : EStateM Fault Formats α) (r : Record) :
    remains ((onFormats x).run r) = { r with formats := remains (x.run r.formats) } := by
  simp only [onFormats, EStateM.run]
  cases x r.formats <;> rfl

theorem verdict_onDescriptions {α : Type} (x : EStateM Fault Descriptions α) (r : Record) :
    verdict ((onDescriptions x).run r) = verdict (x.run r.descriptions) := by
  simp only [onDescriptions, EStateM.run]
  cases x r.descriptions <;> rfl

theorem remains_onDescriptions {α : Type} (x : EStateM Fault Descriptions α) (r : Record) :
    remains ((onDescriptions x).run r) =
      { r with descriptions := remains (x.run r.descriptions) } := by
  simp only [onDescriptions, EStateM.run]
  cases x r.descriptions <;> rfl

theorem onFormats_eq_ok {α : Type} {x : EStateM Fault Formats α} {r r' : Record} {a : α} :
    (onFormats x).run r = .ok a r' ↔
      ∃ formats, x.run r.formats = .ok a formats ∧ r' = { r with formats } := by
  simp only [result_eq_ok, verdict_onFormats, remains_onFormats, and_assoc,
    exists_and_left, exists_eq_left]

theorem onDescriptions_eq_ok {α : Type} {x : EStateM Fault Descriptions α} {r r' : Record}
    {a : α} :
    (onDescriptions x).run r = .ok a r' ↔
      ∃ descriptions, x.run r.descriptions = .ok a descriptions ∧
        r' = { r with descriptions } := by
  simp only [result_eq_ok, verdict_onDescriptions, remains_onDescriptions, and_assoc,
    exists_and_left, exists_eq_left]

theorem onFormats_eq_error {α : Type} {x : EStateM Fault Formats α} {r r' : Record}
    {fault : Fault} :
    (onFormats x).run r = .error fault r' ↔
      ∃ formats, x.run r.formats = .error fault formats ∧ r' = { r with formats } := by
  simp only [result_eq_error, verdict_onFormats, remains_onFormats, and_assoc,
    exists_and_left, exists_eq_left]

theorem onDescriptions_eq_error {α : Type} {x : EStateM Fault Descriptions α} {r r' : Record}
    {fault : Fault} :
    (onDescriptions x).run r = .error fault r' ↔
      ∃ descriptions, x.run r.descriptions = .error fault descriptions ∧
        r' = { r with descriptions } := by
  simp only [result_eq_error, verdict_onDescriptions, remains_onDescriptions, and_assoc,
    exists_and_left, exists_eq_left]

end Record

variable [Pattern.Engine]

structure Profile.ReadFrom (region : String) (e : Element) (nationalPrefix : String)
    (p : Profile) : Prop where
  id : p.id = region
  callingCode : ∃ v, e.attribute? Schema.callingCode = some v ∧
    readCallingCode v = .ok p.callingCode
  leadingDigits : e.checked Schema.leadingDigits checkPattern = .ok p.leadingDigits
  internationalPrefix : ∃ v, e.attribute? Schema.internationalPrefix = some v ∧
    checkPattern v = .ok p.internationalPrefix
  preferredInternationalPrefix :
    p.preferredInternationalPrefix = e.attribute? Schema.preferredInternationalPrefix
  nationalPrefix : p.nationalPrefix = if nationalPrefix = "" then none else some nationalPrefix
  forParsing : ∃ own, e.checked Schema.nationalPrefixForParsing checkBarePattern = .ok own ∧
    p.nationalPrefixForParsing = own.or p.nationalPrefix ∧
    (if own.isSome then e.checked Schema.nationalPrefixTransformRule checkPattern else .ok none) =
      .ok p.nationalPrefixTransformRule
  preferredExtensionPrefix :
    p.preferredExtensionPrefix = e.attribute? Schema.preferredExtensionPrefix
  mainForCode : e.switch Schema.mainForCode = .ok p.mainForCode
  leadingZeroPossible : e.switch Schema.leadingZeroPossible = .ok p.leadingZeroPossible

theorem Profile.ofElement_eq_ok {region : String} {e : Element} {nationalPrefix : String}
    {p : Profile} :
    Profile.ofElement region e nationalPrefix = .ok p ↔
      Profile.ReadFrom region e nationalPrefix p := by
  simp only [Profile.ofElement, bind_eq_ok, Element.required_eq_ok]
  constructor
  · intro h
    obtain ⟨v, hv, code, hcode, lead, hlead, w, hw, ip, hip, own, hown, h⟩ := h
    split at h
    case isTrue ho =>
      simp only [bind_eq_ok, pure_eq_ok] at h
      obtain ⟨rule, hrule, main, hmain, zero, hzero, rfl⟩ := h
      exact ⟨rfl, ⟨v, hv, hcode⟩, hlead, ⟨w, hw, hip⟩, rfl, rfl,
        ⟨own, hown, rfl, by rw [if_pos ho]; exact hrule⟩, rfl, hmain, hzero⟩
    case isFalse ho =>
      simp only [bind_eq_ok, pure_eq_ok] at h
      obtain ⟨_, rfl, main, hmain, zero, hzero, rfl⟩ := h
      exact ⟨rfl, ⟨v, hv, hcode⟩, hlead, ⟨w, hw, hip⟩, rfl, rfl,
        ⟨own, hown, rfl, by rw [if_neg ho]⟩, rfl, hmain, hzero⟩
  · intro h
    obtain ⟨hid, ⟨v, hv, hcode⟩, hlead, ⟨w, hw, hip⟩, hpref, hnp, ⟨own, hown, hfp, hrule⟩, hext,
        hmain, hzero⟩ := h
    refine ⟨v, hv, _, hcode, _, hlead, w, hw, _, hip, own, hown, ?_⟩
    cases p
    simp only at hid hpref hnp hfp hext hmain hzero hrule
    subst hid hpref hnp hfp hext
    split at hrule
    case isTrue ho =>
      rw [if_pos ho]
      simp only [bind_eq_ok, pure_eq_ok]
      exact ⟨_, hrule, _, hmain, _, hzero, rfl⟩
    case isFalse ho =>
      rw [if_neg ho]
      simp only [bind_eq_ok, pure_eq_ok]
      exact ⟨_, rfl, _, hmain, _, hzero, by cases hrule; rfl⟩

namespace Record

theorem ofTerritory_eq_ok {region : String} {territory : Element} {lite : Bool} {r : Record} :
    ofTerritory region territory lite = .ok r ↔
      Profile.ofElement region territory territory.nationalPrefix = .ok r.profile ∧
      (∃ optional, territory.switch Schema.nationalPrefixOptional = .ok optional ∧
        (Formats.load territory territory.nationalPrefix
          (territory.nationalPrefixRule territory.nationalPrefix) optional).run {} =
            .ok () r.formats) ∧
      (Descriptions.load territory lite).run {} = .ok () r.descriptions := by
  simp only [ofTerritory, bind_eq_ok]
  constructor
  · intro h
    obtain ⟨profile, hp, optional, ho, h⟩ := h
    split at h
    case h_1 u r' hrun =>
      cases h
      obtain ⟨_, m, hf, hd⟩ := run_bind_eq_ok.1 hrun
      obtain ⟨formats, hformats, rfl⟩ := onFormats_eq_ok.1 hf
      obtain ⟨descriptions, hdescriptions, rfl⟩ := onDescriptions_eq_ok.1 hd
      exact ⟨hp, ⟨optional, ho, hformats⟩, hdescriptions⟩
    case h_2 => cases h
  · intro h
    obtain ⟨hp, ⟨optional, ho, hf⟩, hd⟩ := h
    refine ⟨r.profile, hp, optional, ho, ?_⟩
    have hrun : EStateM.run (do
          loadFormats territory territory.nationalPrefix
            (territory.nationalPrefixRule territory.nationalPrefix) optional
          loadDescriptions territory lite) { profile := r.profile } = .ok () r := by
      apply run_bind_eq_ok.2
      exact ⟨(), { profile := r.profile, formats := r.formats },
        onFormats_eq_ok.2 ⟨r.formats, hf, rfl⟩, onDescriptions_eq_ok.2 ⟨r.descriptions, hd, rfl⟩⟩
    rw [hrun]
    rfl

theorem ofEntry_eq_ok {lite : Bool} {territory : Element} {r : Record} :
    ofEntry lite territory = .ok r ↔
      ∃ region, territory.attribute? Schema.id = some region ∧
        ofTerritory region territory lite = .ok r := by
  unfold ofEntry
  cases territory.attribute? Schema.id with
  | none => simp
  | some region =>
    simp only [Option.some.injEq, exists_eq_left']
    cases ofTerritory region territory lite <;> simp [Except.mapError]

theorem outcome_loadFormats (territory : Element) (nationalPrefix nationalPrefixRule : String)
    (nationalPrefixOptional : Bool) (r : Record) :
    outcome ((loadFormats territory nationalPrefix nationalPrefixRule
        nationalPrefixOptional).run r) =
      (outcome ((Formats.load territory nationalPrefix nationalPrefixRule
        nationalPrefixOptional).run r.formats)).map fun formats => { r with formats } := by
  simp only [loadFormats, onFormats, EStateM.run]
  cases Formats.load territory nationalPrefix nationalPrefixRule nationalPrefixOptional
    r.formats <;> rfl

theorem outcome_loadDescriptions (territory : Element) (lite : Bool) (r : Record) :
    outcome ((loadDescriptions territory lite).run r) =
      (outcome ((Descriptions.load territory lite).run r.descriptions)).map
        fun descriptions => { r with descriptions } := by
  simp only [loadDescriptions, onDescriptions, EStateM.run]
  cases Descriptions.load territory lite r.descriptions <;> rfl

theorem ofTerritory_eq_outcome (region : String) (territory : Element) (lite : Bool) :
    ofTerritory region territory lite = (do
      let profile ← Profile.ofElement region territory territory.nationalPrefix
      let optional ← territory.switch Schema.nationalPrefixOptional
      let r ← outcome ((loadFormats territory territory.nationalPrefix
        (territory.nationalPrefixRule territory.nationalPrefix) optional).run { profile })
      outcome ((loadDescriptions territory lite).run r)) := by
  rw [ofTerritory]
  congr 1
  funext profile
  congr 1
  funext optional
  refine Eq.trans ?_ (outcome_bind _ (fun _ => loadDescriptions territory lite) _)
  dsimp only
  split
  case h_1 u r h => rw [h]; rfl
  case h_2 fault r h => rw [h]; rfl

end Record

end NumberingPlan
