import NumberingPlan.Emergency
import NumberingPlan.Proofs.Registry.Lookup
import NumberingPlan.Proofs.Territory.Samples

/-! The registries of a lite and a full build answer every question alike, but for sample numbers.
Main statement: `Registry.lite_agrees`. -/
namespace NumberingPlan

structure Registry.SameAnswers [Pattern.Engine] (g h : Registry) : Prop where
  record? : ∀ region, Option.Rel Record.SameButSamples (g.record? region) (h.record? region)
  isValid : ∀ region, g.isValid region = h.isValid region
  allRegions : g.allRegions = h.allRegions
  callingCodes : g.callingCodes = h.callingCodes
  regionsFor : ∀ code, g.regionsFor code = h.regionsFor code
  regionFor : ∀ code, g.regionFor code = h.regionFor code
  connectsToEmergency : ∀ number region,
    g.connectsToEmergency number region = h.connectsToEmergency number region
  isEmergency : ∀ number region, g.isEmergency number region = h.isEmergency number region

theorem RegistryDraft.regions_related {rs ss : List Record}
    (h : List.Forall₂ Record.SameButSamples rs ss) {d e : RegistryDraft}
    (hde : d.regions = e.regions) : (rs.foldl add d).regions = (ss.foldl add e).regions := by
  induction h generalizing d e with
  | nil => exact hde
  | @cons r s rs ss hrs _ ih =>
    refine ih ?_
    have hid : r.id = s.id := congrArg Profile.id hrs.profile
    have hcode : r.callingCode = s.callingCode := congrArg Profile.callingCode hrs.profile
    have hplace : place r = place s := by
      funext ids
      have hmain : r.mainForCode = s.mainForCode := congrArg Profile.mainForCode hrs.profile
      rw [place, place, hmain, hid]
    simp only [add, hid, hcode, hplace]
    split
    · exact hde
    · rw [hde]

namespace Registry

theorem match?_congr {g h : Registry} {q : Question}
    (hrecord : Option.Rel Record.SameButSamples (g.record? q.region) (h.record? q.region)) :
    q.match? g = q.match? h := by
  have hemergency : (g.record? q.region).map (fun r => (r.description .emergency).national) =
      (h.record? q.region).map fun r => (r.description .emergency).national :=
    map_eq_of_rel hrecord fun _ _ hrs => (hrs.descriptions.1 .emergency).2
  unfold Question.match?
  cases q.dialling.digits? q.number with
  | none => rfl
  | some digits =>
    cases hg : g.record? q.region <;> cases hh : h.record? q.region <;>
      simp_all [Description.hasNationalNumbers]

variable [Pattern.Engine]

theorem sameAnswers_ofRecords {rs ss : List Record}
    (h : List.Forall₂ Record.SameButSamples rs ss) : (ofRecords rs).SameAnswers (ofRecords ss) := by
  have hrecord : ∀ region, Option.Rel Record.SameButSamples ((ofRecords rs).record? region)
      ((ofRecords ss).record? region) := by
    intro region
    rw [record?_ofRecords, record?_ofRecords]
    split
    · exact .none
    · refine find?_related (List.forall₂_reverse_iff.2 h) fun r s hrs => ?_
      have hid : r.id = s.id := congrArg Profile.id hrs.profile
      rw [hid]
  have hvalid : ∀ region, (ofRecords rs).isValid region = (ofRecords ss).isValid region := by
    intro region
    have hunit := map_eq_of_rel (f := fun _ => ()) (g := fun _ => ()) (hrecord region)
      fun _ _ _ => rfl
    rw [isValid_eq, isValid_eq]
    simpa using congrArg Option.isSome hunit
  have hregions : (ofRecords rs).regions = (ofRecords ss).regions := by
    have htable : (RegistryDraft.ofRecords rs).regions = (RegistryDraft.ofRecords ss).regions :=
      RegistryDraft.regions_related h rfl
    simp only [ofRecords, RegistryDraft.freeze, htable]
  have hanswer : ∀ q, (ofRecords rs).answer q = (ofRecords ss).answer q := by
    intro q
    rw [answer, answer, match?_congr (hrecord q.region)]
  have hregionsFor : ∀ code, (ofRecords rs).regionsFor code = (ofRecords ss).regionsFor code := by
    intro code
    rw [regionsFor, regionsFor, hregions]
  exact {
    record? := hrecord
    isValid := hvalid
    allRegions := allRegions_congr hvalid
    callingCodes := by rw [callingCodes, callingCodes, hregions]
    regionsFor := hregionsFor
    regionFor := fun code => by rw [regionFor, regionFor, hregionsFor]
    connectsToEmergency := fun _ _ => hanswer _
    isEmergency := fun _ _ => hanswer _ }

/-- A lite build and a full one fail with the same fault or both succeed, for a territory, for a
document and for its registry. Only sample numbers differ; those of the lite build are empty, or say
that there are no such numbers where the territory has no such description. -/
theorem lite_agrees :
    (∀ region territory,
      Agree (fun full lite => full.SameButSamples lite ∧ lite.HasLiteSamples territory)
        (Record.ofTerritory region territory false) (Record.ofTerritory region territory true)) ∧
    (∀ root,
      Agree (fun full lite => List.Forall₂ Record.SameButSamples full lite ∧
          List.Forall₂ Record.HasLiteSamples (Record.territoriesOf root) lite)
        (Record.ofDocument root false) (Record.ofDocument root true)) ∧
    ∀ root, Agree SameAnswers (ofDocument root false) (ofDocument root true) := by
  refine ⟨fun region territory => ?_, fun root => ?_, fun root => ?_⟩
  · exact (Record.ofTerritory_agree region territory false true).strengthen fun _ =>
      Record.hasLiteSamples
  · refine (Record.ofDocument_agree root false true).strengthen fun rs hrs => ?_
    refine (mapM_eq_ok.1 hrs).imp fun territory r hr => ?_
    obtain ⟨region, -, hterritory⟩ := Record.ofEntry_eq_ok.1 hr
    exact Record.hasLiteSamples hterritory
  · exact (Record.ofDocument_agree root false true).map fun _ _ => sameAnswers_ofRecords

end Registry

end NumberingPlan
