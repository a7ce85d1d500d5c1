import Mathlib.Data.List.Sort
import NumberingPlan.Proofs.Registry.Coherence

/-! What the order of records means for their registry. Where no id comes twice, it decides only how
the main regions of a calling code stand among themselves, and the others among themselves. Main
statement: `Registry.sameContent_of_perm`. -/
namespace NumberingPlan.Registry

def IsMain (g : Registry) (region : String) : Prop :=
  ∃ r, g.record? region = some r ∧ r.mainForCode = true

def MainsFirst (g : Registry) (code : Int) : Prop :=
  ∃ mains others, g.regionsFor code = mains ++ others ∧ (∀ region ∈ mains, g.IsMain region) ∧
    ∀ region ∈ others, ¬ g.IsMain region

structure OnlyMain (g : Registry) (code : Int) (region : String) : Prop where
  listed : region ∈ g.regionsFor code
  isMain : g.IsMain region
  only : ∀ other ∈ g.regionsFor code, g.IsMain other → other = region

/-- Two registries that answer alike, but for the order of regions within a calling code. -/
structure SameContent (g h : Registry) : Prop where
  record? : ∀ region, g.record? region = h.record? region
  isValid : ∀ region, g.isValid region = h.isValid region
  allRegions : g.allRegions = h.allRegions
  callingCodes : g.callingCodes = h.callingCodes
  regionsFor : ∀ code, (g.regionsFor code).Perm (h.regionsFor code)
  mainsFirst : ∀ code, g.MainsFirst code ∧ h.MainsFirst code
  regionFor : ∀ code region, g.OnlyMain code region →
    g.regionFor code = region ∧ h.regionFor code = region

variable {g h : Registry} {code : Int} {region : String}

theorem MainsFirst.regionFor_eq (hg : g.MainsFirst code) (hmain : g.OnlyMain code region) :
    g.regionFor code = region := by
  obtain ⟨mains, others, hsplit, hmains, hothers⟩ := hg
  have hmem : region ∈ mains := by
    have hlisted := hmain.listed
    rw [hsplit] at hlisted
    exact (List.mem_append.1 hlisted).resolve_right fun hin => hothers region hin hmain.isMain
  cases mains with
  | nil => simp at hmem
  | cons m ms =>
    have hfirst : g.regionFor code = m := by simp [Registry.regionFor, hsplit]
    rw [hfirst]
    exact hmain.only m (by simp [hsplit]) (hmains m List.mem_cons_self)

theorem isMain_congr (hrecord : ∀ region, g.record? region = h.record? region) :
    g.IsMain region ↔ h.IsMain region := by
  rw [IsMain, IsMain, hrecord]

theorem OnlyMain.congr (hrecord : ∀ region, g.record? region = h.record? region)
    (hregions : (g.regionsFor code).Perm (h.regionsFor code)) (hmain : g.OnlyMain code region) :
    h.OnlyMain code region where
  listed := hregions.mem_iff.1 hmain.listed
  isMain := (isMain_congr hrecord).1 hmain.isMain
  only other hother hm :=
    hmain.only other (hregions.mem_iff.2 hother) ((isMain_congr hrecord).2 hm)

theorem callingCodes_ascending (rs : List Record) :
    (ofRecords rs).callingCodes.Pairwise (· < ·) :=
  List.pairwise_map.2 (lists_ofRecords rs).ascending

section Distinct

variable {rs ss : List Record} (hd : ((registered rs).map Record.id).Nodup)
include hd

theorem mainsFirst_ofRecords (code : Int) : (ofRecords rs).MainsFirst code := by
  let sharing := (registered rs).filter fun r => r.callingCode == code
  have hrecord : ∀ r ∈ sharing, (ofRecords rs).record? r.id = some r := fun r hr =>
    (record?_of_distinct hd).2 ⟨List.mem_of_mem_filter hr, rfl⟩
  refine ⟨(sharing.filter (·.mainForCode)).reverse.map Record.id,
    (sharing.filter (!·.mainForCode)).map Record.id, ?_, fun region hin => ?_,
    fun region hin hmain => ?_⟩
  · rw [(lists_ofRecords rs).regionsFor, ← List.map_append]
    rfl
  · obtain ⟨r, hr, rfl⟩ := List.mem_map.1 hin
    obtain ⟨hr, hmain⟩ := List.mem_filter.1 (List.mem_reverse.1 hr)
    exact ⟨r, hrecord r hr, hmain⟩
  · obtain ⟨r, hr, rfl⟩ := List.mem_map.1 hin
    obtain ⟨hr, hother⟩ := List.mem_filter.1 hr
    obtain ⟨m, hm, hmain⟩ := hmain
    rw [hrecord r hr, Option.some.injEq] at hm
    simp [hm, hmain] at hother

theorem record?_of_perm (hp : rs.Perm ss) (region : String) :
    (ofRecords rs).record? region = (ofRecords ss).record? region := by
  have hregistered : (registered rs).Perm (registered ss) := hp.filter _
  have hd' : ((registered ss).map Record.id).Nodup := (hregistered.map _).nodup_iff.1 hd
  apply Option.ext
  intro r
  rw [record?_of_distinct hd, record?_of_distinct hd', hregistered.mem_iff]

end Distinct

section Permuted

variable {rs ss : List Record} (hp : rs.Perm ss)
include hp

theorem regionsFor_perm (code : Int) :
    ((ofRecords rs).regionsFor code).Perm ((ofRecords ss).regionsFor code) := by
  have hregistered : (registered rs).Perm (registered ss) := hp.filter _
  rw [(lists_ofRecords rs).regionsFor, (lists_ofRecords ss).regionsFor]
  exact (regionsSharing_perm rs code).trans
    (((hregistered.filter _).map _).trans (regionsSharing_perm ss code).symm)

theorem callingCodes_of_perm : (ofRecords rs).callingCodes = (ofRecords ss).callingCodes := by
  apply (callingCodes_ascending rs).eq_of_mem_iff (callingCodes_ascending ss)
  intro code
  rw [(lists_ofRecords rs).callingCodes, (lists_ofRecords ss).callingCodes]
  simp only [hp.mem_iff]

end Permuted

/-- Records with distinct ids make the same registry in whatever order they come: the same record
for each region, the same regions and the same calling codes. Each calling code has the same
regions, the main ones in front, and if there is one main region it is the first. -/
theorem sameContent_of_perm {rs ss : List Record} (hd : (rs.map Record.id).Nodup)
    (hp : rs.Perm ss) : SameContent (ofRecords rs) (ofRecords ss) := by
  have hrs : ((registered rs).map Record.id).Nodup := hd.sublist (List.filter_sublist.map _)
  have hss : ((registered ss).map Record.id).Nodup := ((hp.filter _).map _).nodup_iff.1 hrs
  have hrecord := record?_of_perm hrs hp
  have hvalid : ∀ region, (ofRecords rs).isValid region = (ofRecords ss).isValid region := by
    intro region
    rw [isValid_eq, isValid_eq, hrecord]
  have hregions := regionsFor_perm hp
  constructor
  case record? => exact hrecord
  case isValid => exact hvalid
  case allRegions => exact allRegions_congr hvalid
  case callingCodes => exact callingCodes_of_perm hp
  case regionsFor => exact hregions
  case mainsFirst =>
    exact fun code => ⟨mainsFirst_ofRecords hrs code, mainsFirst_ofRecords hss code⟩
  case regionFor =>
    intro code region hmain
    have hmain' := hmain.congr hrecord (hregions code)
    exact ⟨(mainsFirst_ofRecords hrs code).regionFor_eq hmain,
      (mainsFirst_ofRecords hss code).regionFor_eq hmain'⟩

def sharedByTwo : List Record :=
  [("CA", 1, false), ("US", 1, true), ("GG", -7, false), ("ZZ", 1, true), ("AX", -7, false)].map
    fun (id, callingCode, mainForCode) => { profile := { id, callingCode, mainForCode } }

theorem sameContent_sharedByTwo :
    (sharedByTwo.map Record.id).Nodup ∧ sharedByTwo.Perm sharedByTwo.reverse ∧
      (ofRecords sharedByTwo).OnlyMain 1 "US" ∧
      (ofRecords sharedByTwo.reverse).regionFor 1 = "US" ∧
      (ofRecords sharedByTwo.reverse).callingCodes = (ofRecords sharedByTwo).callingCodes := by
  have hd : (sharedByTwo.map Record.id).Nodup := by decide
  have hp : sharedByTwo.Perm sharedByTwo.reverse := sharedByTwo.reverse_perm.symm
  have hlisted : (ofRecords sharedByTwo).regionsFor 1 = ["US", "CA"] := by
    rw [(lists_ofRecords sharedByTwo).regionsFor]
    decide
  have hmain : (ofRecords sharedByTwo).OnlyMain 1 "US" := by
    constructor
    case listed => simp [hlisted]
    case isMain => exact ⟨_, by rw [record?_ofRecords]; rfl, rfl⟩
    case only =>
      intro other hother hmain
      obtain ⟨r, hr, hmain⟩ := hmain
      rw [hlisted] at hother
      rcases List.mem_pair.1 hother with rfl | rfl
      · rfl
      · rw [record?_ofRecords] at hr
        obtain rfl := Option.some.inj hr
        cases hmain
  have hsame := sameContent_of_perm hd hp
  exact ⟨hd, hp, hmain, (hsame.regionFor 1 "US" hmain).2, hsame.callingCodes.symm⟩

/-- Without a main region the one that comes first is the first. -/
example : (ofRecords sharedByTwo).regionFor (-7) = "GG" ∧
    (ofRecords sharedByTwo.reverse).regionFor (-7) = "AX" := by
  rw [(lists_ofRecords _).regionFor, (lists_ofRecords _).regionFor]
  decide

end NumberingPlan.Registry
