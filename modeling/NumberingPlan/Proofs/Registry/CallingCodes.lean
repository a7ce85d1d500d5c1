import Mathlib.Data.List.Induction
import NumberingPlan.Proofs.Registry.CodeIndex
import NumberingPlan.Registry

/-! Which regions a registry lists for a calling code, read off the records it was made from. Main
statement: `Registry.lists_in_any_order`; the order in which the table of calling codes is taken
does not count. -/
namespace NumberingPlan

def registered (rs : List Record) : List Record := rs.filter fun r => r.id != unknownRegion

/-- Main territories of a calling code, the last first, and then its other territories. -/
def regionsSharing (rs : List Record) (code : Int) : List String :=
  let sharing := (registered rs).filter fun r => r.callingCode == code
  ((sharing.filter (·.mainForCode)).reverse ++ sharing.filter (!·.mainForCode)).map Record.id

theorem mem_registered {rs : List Record} {r : Record} :
    r ∈ registered rs ↔ r ∈ rs ∧ r.id ≠ unknownRegion := by
  simp [registered]

theorem mem_regionsSharing {rs : List Record} {code : Int} {region : String} :
    region ∈ regionsSharing rs code ↔
      ∃ r ∈ registered rs, r.callingCode = code ∧ r.id = region := by
  simp only [regionsSharing, List.mem_map, List.mem_append, List.mem_reverse, List.mem_filter,
    beq_iff_eq, Bool.not_eq_true']
  constructor
  · intro h
    obtain ⟨r, ⟨⟨hr, hcode⟩, -⟩ | ⟨⟨hr, hcode⟩, -⟩, hid⟩ := h
    · exact ⟨r, hr, hcode, hid⟩
    · exact ⟨r, hr, hcode, hid⟩
  · intro h
    obtain ⟨r, hr, hcode, hid⟩ := h
    cases hmain : r.mainForCode with
    | true => exact ⟨r, .inl ⟨⟨hr, hcode⟩, hmain⟩, hid⟩
    | false => exact ⟨r, .inr ⟨⟨hr, hcode⟩, hmain⟩, hid⟩

theorem regionsSharing_eq_nil {rs : List Record} {code : Int} :
    regionsSharing rs code = [] ↔ ¬ ∃ r ∈ registered rs, r.callingCode = code := by
  rw [List.eq_nil_iff_forall_not_mem]
  simp only [mem_regionsSharing]
  constructor
  · intro h hex
    obtain ⟨r, hr, hcode⟩ := hex
    exact h r.id ⟨r, hr, hcode, rfl⟩
  · intro h region hex
    obtain ⟨r, hr, hcode, -⟩ := hex
    exact h ⟨r, hr, hcode⟩

theorem regionsSharing_append_singleton (rs : List Record) (r : Record) (code : Int) :
    regionsSharing (rs ++ [r]) code =
      if r.id ≠ unknownRegion ∧ r.callingCode = code then
        RegistryDraft.place r (regionsSharing rs code)
      else regionsSharing rs code := by
  by_cases hz : r.id = unknownRegion
  · simp [regionsSharing, registered, hz]
  · by_cases hcode : r.callingCode = code
    · cases hmain : r.mainForCode <;>
        simp [regionsSharing, registered, RegistryDraft.place, hz, hcode, hmain]
    · simp [regionsSharing, registered, hz, hcode]

namespace RegistryDraft

theorem regions_add (d : RegistryDraft) (r : Record) (code : Int) :
    (d.add r).regions[code]? =
      if r.id ≠ unknownRegion ∧ r.callingCode = code then
        some (place r ((d.regions[code]?).getD []))
      else d.regions[code]? := by
  by_cases hz : r.id = unknownRegion
  · simp [add, hz]
  · have hregions : (d.add r).regions =
        d.regions.alter r.callingCode fun ids => some (place r (ids.getD [])) := by
      simp [add, hz]
    rw [hregions, Std.HashMap.getElem?_alter]
    by_cases hcode : r.callingCode = code
    · simp [hz, hcode]
    · simp [hcode]

/-- A code has an entry only once a record brings it in. -/
theorem regions_ofRecords (rs : List Record) (code : Int) :
    (ofRecords rs).regions[code]? =
      if regionsSharing rs code = [] then none else some (regionsSharing rs code) := by
  induction rs using List.reverseRecOn with
  | nil => simp [ofRecords, regionsSharing, registered]
  | append_singleton rs r ih =>
    have hfold : ofRecords (rs ++ [r]) = (ofRecords rs).add r := by simp [ofRecords]
    rw [hfold, regions_add, regionsSharing_append_singleton]
    by_cases hr : r.id ≠ unknownRegion ∧ r.callingCode = code
    · have hgetD : ((ofRecords rs).regions[code]?).getD [] = regionsSharing rs code := by
        rw [ih]
        split <;> simp_all
      have hne : place r (regionsSharing rs code) ≠ [] := by
        unfold place
        split <;> simp
      rw [if_pos hr, if_pos hr, if_neg hne, hgetD]
    · rw [if_neg hr, if_neg hr, ih]

theorem distinct_codes (d : RegistryDraft) :
    d.regions.toList.Pairwise fun a b => a.1 ≠ b.1 := by
  have hd := d.regions.distinct_keys_toList
  exact hd.imp fun hab => by simpa using hab

variable {rs : List Record} {entries : List (Int × List String)}

theorem freeze_ascending (h : entries.Perm (ofRecords rs).regions.toList) :
    ((ofRecords rs).freeze entries).regions.Ascending :=
  CodeIndex.ofEntries_ascending (h.symm.pairwise (distinct_codes _) fun hab => hab.symm)

theorem mem_freeze (h : entries.Perm (ofRecords rs).regions.toList) {code : Int}
    {ids : List String} :
    (code, ids) ∈ ((ofRecords rs).freeze entries).regions ↔
      regionsSharing rs code ≠ [] ∧ regionsSharing rs code = ids := by
  have hmem : (code, ids) ∈ ((ofRecords rs).freeze entries).regions ↔
      (ofRecords rs).regions[code]? = some ids := by
    rw [freeze, CodeIndex.mem_ofEntries, h.mem_iff]
    exact Std.HashMap.mem_toList_iff_getElem?_eq_some
  rw [hmem, regions_ofRecords]
  by_cases hnil : regionsSharing rs code = []
  · simp [hnil]
  · simp [hnil]

theorem regionsFor_freeze (h : entries.Perm (ofRecords rs).regions.toList) (code : Int) :
    ((ofRecords rs).freeze entries).regionsFor code = regionsSharing rs code := by
  have hx := freeze_ascending h
  rw [Registry.regionsFor]
  cases hr : ((ofRecords rs).freeze entries).regions.regions? code with
  | some ids =>
    have hentry := (mem_freeze h).1 ((CodeIndex.regions?_eq_some hx).1 hr)
    rw [Option.getD_some, hentry.2]
  | none =>
    rw [Option.getD_none]
    by_contra hne
    have hentry := (mem_freeze h).2 ⟨Ne.symm hne, rfl⟩
    rw [(CodeIndex.regions?_eq_some hx).2 hentry] at hr
    exact nomatch hr

theorem mem_callingCodes_freeze (h : entries.Perm (ofRecords rs).regions.toList) {code : Int} :
    code ∈ ((ofRecords rs).freeze entries).callingCodes ↔ regionsSharing rs code ≠ [] := by
  simp only [Registry.callingCodes, List.mem_map, Array.mem_toList_iff, Prod.exists]
  constructor
  · intro hentry
    obtain ⟨_, ids, hentry, rfl⟩ := hentry
    exact ((mem_freeze h).1 hentry).1
  · intro hne
    exact ⟨code, _, (mem_freeze h).2 ⟨hne, rfl⟩, rfl⟩

end RegistryDraft

structure Registry.Lists (g : Registry) (rs : List Record) : Prop where
  ascending : g.regions.toList.Pairwise fun a b => a.1 < b.1
  inhabited : ∀ entry ∈ g.regions, entry.2 ≠ []
  regionsFor : ∀ code, g.regionsFor code = regionsSharing rs code
  callingCodes : ∀ code, code ∈ g.callingCodes ↔
    ∃ r ∈ rs, r.id ≠ unknownRegion ∧ r.callingCode = code
  regionFor : ∀ code, g.regionFor code = (regionsSharing rs code).headD unknownRegion
  unknown : ∀ code, g.regionFor code = unknownRegion ↔ code ∉ g.callingCodes

theorem headD_regionsSharing {rs : List Record} {code : Int} :
    (regionsSharing rs code).headD unknownRegion = unknownRegion ↔
      regionsSharing rs code = [] := by
  cases hs : regionsSharing rs code with
  | nil => simp
  | cons region regions =>
    have hmem : region ∈ regionsSharing rs code := by simp [hs]
    obtain ⟨r, hr, -, rfl⟩ := mem_regionsSharing.1 hmem
    have hne := (mem_registered.1 hr).2
    simp [hne]

theorem RegistryDraft.lists_freeze {rs : List Record} {entries : List (Int × List String)}
    (h : entries.Perm (ofRecords rs).regions.toList) :
    ((ofRecords rs).freeze entries).Lists rs := by
  have hregionFor : ∀ code, ((ofRecords rs).freeze entries).regionFor code =
      (regionsSharing rs code).headD unknownRegion := by
    intro code
    rw [Registry.regionFor, regionsFor_freeze h]
  constructor
  case ascending => exact freeze_ascending h
  case inhabited =>
    intro entry hentry
    obtain ⟨code, ids⟩ := entry
    obtain ⟨hne, rfl⟩ := (mem_freeze h).1 hentry
    exact hne
  case regionsFor => exact regionsFor_freeze h
  case callingCodes =>
    intro code
    rw [mem_callingCodes_freeze h, Ne, regionsSharing_eq_nil, not_not]
    simp only [mem_registered, and_assoc]
  case regionFor => exact hregionFor
  case unknown =>
    intro code
    rw [hregionFor, mem_callingCodes_freeze h, headD_regionsSharing, not_not]

theorem Registry.lists_ofRecords (rs : List Record) : (ofRecords rs).Lists rs :=
  RegistryDraft.lists_freeze (.refl _)

/-- The table of calling codes may be taken in any order: the registry is the same, and it lists for
each calling code what the records say. -/
theorem Registry.lists_in_any_order {rs : List Record} {entries : List (Int × List String)}
    (h : entries.Perm (RegistryDraft.ofRecords rs).regions.toList) :
    ((RegistryDraft.ofRecords rs).freeze entries).Lists rs ∧
      (RegistryDraft.ofRecords rs).freeze entries = ofRecords rs := by
  refine ⟨RegistryDraft.lists_freeze h, ?_⟩
  have hregions := CodeIndex.ofEntries_congr (RegistryDraft.distinct_codes _) h
  rw [ofRecords, RegistryDraft.freeze, RegistryDraft.freeze, hregions]

def sharedCodes : List Record :=
  [("CA", 1, false), ("US", 1, true), ("AX", -7, false), ("ZZ", 1, true), ("PR", 1, true),
    ("CA", 1, false)].map fun (id, callingCode, mainForCode) =>
      { profile := { id, callingCode, mainForCode } }

theorem Registry.lists_sharedCodes_reversed :
    let d := RegistryDraft.ofRecords sharedCodes
    let g := d.freeze d.regions.toList.reverse
    d.regions.toList.reverse.Perm d.regions.toList ∧
      g.regionsFor 1 = ["PR", "US", "CA", "CA"] ∧ g.regionFor (-7) = "AX" ∧
      2 ∉ g.callingCodes := by
  intro d g
  have hperm := d.regions.toList.reverse_perm
  obtain ⟨hlists, -⟩ := Registry.lists_in_any_order hperm
  refine ⟨hperm, (hlists.regionsFor 1).trans (by decide), (hlists.regionFor (-7)).trans (by decide),
    ?_⟩
  rw [hlists.callingCodes]
  decide

end NumberingPlan
