import Mathlib.Data.List.Nodup
import NumberingPlan.Proofs.Registry.CallingCodes
import NumberingPlan.Proofs.Registry.Lookup

/-! When the calling codes of a registry agree with its records. A record that comes later under an
id hides the earlier one, but the calling code of the hidden record still lists the region; so they
agree exactly where no id comes twice (`Registry.coherent_iff`). -/
namespace NumberingPlan

/-- What is listed under a calling code is what the records of the regions say. -/
structure Registry.Coherent (g : Registry) : Prop where
  listed : ∀ region code, region ∈ g.regionsFor code ↔
    ∃ r, g.record? region = some r ∧ r.callingCode = code
  once : ∀ code, (g.regionsFor code).Nodup
  oneCode : ∀ region code code', region ∈ g.regionsFor code → region ∈ g.regionsFor code' →
    code = code'
  mainFirst : ∀ region r, g.record? region = some r → r.mainForCode = true →
    ∃ m, g.record? (g.regionFor r.callingCode) = some m ∧ m.mainForCode = true

theorem regionsSharing_perm (rs : List Record) (code : Int) :
    (regionsSharing rs code).Perm
      (((registered rs).filter fun r => r.callingCode == code).map Record.id) := by
  have hsides := List.filter_append_perm (fun r : Record => r.mainForCode)
    ((registered rs).filter fun r => r.callingCode == code)
  exact ((List.reverse_perm _).append_right _ |>.trans hsides).map _

theorem exists_main_of_head {rs : List Record} {r : Record} (hr : r ∈ registered rs)
    (hmain : r.mainForCode = true) :
    ∃ m ∈ registered rs, m.mainForCode = true ∧
      (regionsSharing rs r.callingCode).headD unknownRegion = m.id := by
  let sharing := (registered rs).filter fun x => x.callingCode == r.callingCode
  have hmem : r ∈ (sharing.filter (·.mainForCode)).reverse := by
    simp [sharing, hr, hmain]
  cases hs : (sharing.filter (·.mainForCode)).reverse with
  | nil => simp [hs] at hmem
  | cons m ms =>
    have hm : m ∈ (sharing.filter (·.mainForCode)).reverse := by simp [hs]
    have hm' : m ∈ registered rs ∧ m.mainForCode = true ∧ m.callingCode = r.callingCode := by
      simpa [sharing] using hm
    have hhead : (regionsSharing rs r.callingCode).headD unknownRegion = m.id := by
      change (((sharing.filter (·.mainForCode)).reverse ++ _).map Record.id).headD _ = _
      simp [hs]
    exact ⟨m, hm'.1, hm'.2.1, hhead⟩

section Distinct

variable {rs : List Record} (hd : ((registered rs).map Record.id).Nodup)
include hd

theorem Registry.record?_of_distinct {region : String} {r : Record} :
    (ofRecords rs).record? region = some r ↔ r ∈ registered rs ∧ r.id = region := by
  rw [record?_ofRecords]
  constructor
  · intro h
    by_cases hz : region = unknownRegion
    · simp [hz] at h
    · rw [if_neg hz] at h
      have hmem := List.mem_of_find?_eq_some h
      have hid : r.id = region := by simpa using List.find?_some h
      rw [← hid] at hz
      exact ⟨mem_registered.2 ⟨List.mem_reverse.1 hmem, hz⟩, hid⟩
  · intro h
    obtain ⟨hr, rfl⟩ := h
    obtain ⟨hmem, hz⟩ := mem_registered.1 hr
    rw [if_neg hz]
    cases hfind : rs.reverse.find? fun x => x.id == r.id with
    | none =>
      have hnone := List.find?_eq_none.1 hfind r (List.mem_reverse.2 hmem)
      simp at hnone
    | some x =>
      have hid : x.id = r.id := by simpa using List.find?_some hfind
      have hx : x ∈ registered rs :=
        mem_registered.2 ⟨List.mem_reverse.1 (List.mem_of_find?_eq_some hfind), hid ▸ hz⟩
      rw [List.inj_on_of_nodup_map hd hx hr hid]

theorem Registry.coherent_of_distinct : (ofRecords rs).Coherent := by
  have hlists := lists_ofRecords rs
  have hlisted : ∀ region code, region ∈ (ofRecords rs).regionsFor code ↔
      ∃ r, (ofRecords rs).record? region = some r ∧ r.callingCode = code := by
    intro region code
    rw [hlists.regionsFor, mem_regionsSharing]
    constructor
    · intro h
      obtain ⟨r, hr, hcode, hid⟩ := h
      exact ⟨r, (record?_of_distinct hd).2 ⟨hr, hid⟩, hcode⟩
    · intro h
      obtain ⟨r, hr, hcode⟩ := h
      obtain ⟨hr, hid⟩ := (record?_of_distinct hd).1 hr
      exact ⟨r, hr, hcode, hid⟩
  constructor
  case listed => exact hlisted
  case once =>
    intro code
    rw [hlists.regionsFor, (regionsSharing_perm rs code).nodup_iff]
    exact hd.sublist (List.filter_sublist.map _)
  case oneCode =>
    intro region code code' hc hc'
    obtain ⟨r, hr, rfl⟩ := (hlisted region code).1 hc
    obtain ⟨r', hr', rfl⟩ := (hlisted region code').1 hc'
    rw [hr, Option.some.injEq] at hr'
    rw [hr']
  case mainFirst =>
    intro region r hr hmain
    obtain ⟨m, hm, hmmain, hhead⟩ := exists_main_of_head ((record?_of_distinct hd).1 hr).1 hmain
    refine ⟨m, ?_, hmmain⟩
    rw [hlists.regionFor, hhead]
    exact (record?_of_distinct hd).2 ⟨hm, rfl⟩

end Distinct

/-- Each record a registry keeps is listed once, so two records with one id are listed twice, under
one code or under two. -/
theorem Registry.Coherent.distinct {rs : List Record} (h : (ofRecords rs).Coherent) :
    ((registered rs).map Record.id).Nodup := by
  have hlists := lists_ofRecords rs
  rw [List.Nodup, List.pairwise_map, List.pairwise_iff_forall_sublist]
  intro a b hab hid
  have ha : a ∈ registered rs := hab.subset (by simp)
  have hb : b ∈ registered rs := hab.subset (by simp)
  by_cases hcode : b.callingCode = a.callingCode
  · have hnodup := h.once a.callingCode
    rw [hlists.regionsFor, (regionsSharing_perm rs _).nodup_iff] at hnodup
    have hpair := (hab.filter fun r => r.callingCode == a.callingCode).map Record.id
    have htwice := hnodup.sublist hpair
    simp [hcode, hid] at htwice
  · have hla : a.id ∈ (ofRecords rs).regionsFor a.callingCode := by
      rw [hlists.regionsFor]
      exact mem_regionsSharing.2 ⟨a, ha, rfl, rfl⟩
    have hlb : a.id ∈ (ofRecords rs).regionsFor b.callingCode := by
      rw [hlists.regionsFor]
      exact mem_regionsSharing.2 ⟨b, hb, rfl, hid.symm⟩
    exact hcode (h.oneCode a.id _ _ hlb hla)

theorem Registry.coherent_iff (rs : List Record) :
    (ofRecords rs).Coherent ↔ ((registered rs).map Record.id).Nodup :=
  ⟨Coherent.distinct, coherent_of_distinct⟩

def movedRegion : List Record :=
  [{ profile := { id := "XX", callingCode := 1 } }, { profile := { id := "XX", callingCode := 2 } }]

theorem Registry.not_forall_coherent : ¬ ∀ rs, (ofRecords rs).Coherent := by
  intro h
  have hlisted : "XX" ∈ (ofRecords movedRegion).regionsFor 1 := by
    rw [(lists_ofRecords movedRegion).regionsFor]
    decide
  obtain ⟨r, hr, hcode⟩ := ((h movedRegion).listed "XX" 1).1 hlisted
  rw [record?_ofRecords, movedRegion] at hr
  obtain rfl := Option.some.inj hr
  exact absurd hcode (by decide)

end NumberingPlan
