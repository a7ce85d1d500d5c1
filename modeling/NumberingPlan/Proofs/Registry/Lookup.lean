import Mathlib.Data.List.Induction
import NumberingPlan.Proofs.Territory.Records
import NumberingPlan.Registry

/-! Which record a registry has for a region. Main statement: `Registry.record?_ofDocument`, it is
the record of the last territory with that id. -/
namespace NumberingPlan

theorem find?_related {α β : Type} {R : α → β → Prop} {p : α → Bool} {q : β → Bool} {xs : List α}
    {ys : List β} (h : List.Forall₂ R xs ys) (hpq : ∀ x y, R x y → p x = q y) :
    Option.Rel R (xs.find? p) (ys.find? q) := by
  induction h with
  | nil => exact .none
  | @cons x y xs ys hxy _ ih =>
    have heq := hpq x y hxy
    cases hq : q y with
    | true =>
      rw [hq] at heq
      rw [List.find?_cons_of_pos heq, List.find?_cons_of_pos hq]
      exact .some hxy
    | false =>
      rw [hq] at heq
      rw [List.find?_cons_of_neg (by simp [heq]), List.find?_cons_of_neg (by simp [hq])]
      exact ih

/-- The first result of a kind is the result of the first element of the matching kind. -/
theorem find?_results {ε α β : Type} {f : α → Except ε β} {p : α → Bool} {q : β → Bool}
    {xs : List α} {ys : List β} (h : List.Forall₂ (fun x y => f x = .ok y) xs ys)
    (hpq : ∀ x y, f x = .ok y → p x = q y) {y : β} :
    ys.find? q = some y ↔ ∃ x, xs.find? p = some x ∧ f x = .ok y := by
  have hrel := find?_related h hpq
  generalize xs.find? p = first, ys.find? q = result at hrel
  cases hrel with
  | none => simp
  | some hxz => simp [hxz]

/-- Of several territories with one id the last counts. -/
def Record.lastTerritory? (root : Element) (region : String) : Option Element :=
  (territoriesOf root).reverse.find? fun t => t.attribute? Schema.id == some region

theorem Record.ofEntry_of_last [Pattern.Engine] {root t : Element} {region : String} {lite : Bool}
    {r : Record} (h : lastTerritory? root region = some t) :
    ofEntry lite t = .ok r ↔ ofTerritory region t lite = .ok r := by
  have hown : t.attribute? Schema.id = some region := by simpa using List.find?_some h
  simp [ofEntry_eq_ok, hown]

namespace RegistryDraft

theorem records_add (d : RegistryDraft) (r : Record) (region : String) :
    (d.add r).records[region]? =
      if r.id ≠ unknownRegion ∧ r.id = region then some r else d.records[region]? := by
  by_cases hz : r.id = unknownRegion
  · have hadd : d.add r = d := by simp [add, hz]
    have hno : ¬ (r.id ≠ unknownRegion ∧ r.id = region) := fun h => h.1 hz
    rw [hadd, if_neg hno]
  · have hrecords : (d.add r).records = d.records.insert r.id r := by simp [add, hz]
    rw [hrecords, Std.TreeMap.getElem?_insert]
    by_cases hr : r.id = region
    · have hcmp : compare r.id region = .eq := Std.LawfulEqOrd.compare_eq_iff_eq.2 hr
      have hyes : r.id ≠ unknownRegion ∧ r.id = region := ⟨hz, hr⟩
      rw [if_pos hcmp, if_pos hyes]
    · have hcmp : compare r.id region ≠ .eq :=
        fun h => hr (Std.LawfulEqOrd.compare_eq_iff_eq.1 h)
      have hno : ¬ (r.id ≠ unknownRegion ∧ r.id = region) := fun h => hr h.2
      rw [if_neg hcmp, if_neg hno]

theorem records_ofRecords (rs : List Record) (region : String) :
    (ofRecords rs).records[region]? =
      if region = unknownRegion then none else rs.reverse.find? fun r => r.id == region := by
  -- from the back: the last record with an id hides the earlier ones
  induction rs using List.reverseRecOn with
  | nil => simp [ofRecords]
  | append_singleton rs r ih =>
    have hfold : ofRecords (rs ++ [r]) = (ofRecords rs).add r := by simp [ofRecords]
    rw [hfold, records_add, ih, List.reverse_append, List.reverse_singleton, List.singleton_append]
    by_cases hr : r.id = region
    · subst hr
      by_cases hz : r.id = unknownRegion
      · have hno : ¬ (r.id ≠ unknownRegion ∧ r.id = r.id) := fun h => h.1 hz
        rw [if_neg hno, if_pos hz, if_pos hz]
      · have hyes : r.id ≠ unknownRegion ∧ r.id = r.id := ⟨hz, rfl⟩
        rw [if_pos hyes, if_neg hz, List.find?_cons_of_pos (by simp)]
    · have hno : ¬ (r.id ≠ unknownRegion ∧ r.id = region) := fun h => hr h.2
      rw [if_neg hno, List.find?_cons_of_neg (by simpa using hr)]

end RegistryDraft

namespace Registry

theorem isValid_eq (g : Registry) (region : String) :
    g.isValid region = (g.record? region).isSome :=
  Std.TreeMap.contains_eq_isSome_getElem?

/-- Regions are listed in ascending order, so the list depends on which regions there are only. -/
theorem allRegions_congr {g h : Registry} (hgh : ∀ region, g.isValid region = h.isValid region) :
    g.allRegions = h.allRegions := by
  have hmem : ∀ region, region ∈ g.allRegions ↔ region ∈ h.allRegions := by
    intro region
    have hregion := hgh region
    simp only [isValid] at hregion
    simp only [allRegions, Std.TreeMap.mem_keys, ← Std.TreeMap.contains_iff_mem, hregion]
  have hperm : g.allRegions.Perm h.allRegions :=
    (List.perm_ext_iff_of_nodup Std.TreeMap.nodup_keys Std.TreeMap.nodup_keys).2 hmem
  apply List.Perm.eq_of_pairwise _ Std.TreeMap.ordered_keys Std.TreeMap.ordered_keys hperm
  intro a b _ _ hab hba
  exact absurd hba (Std.OrientedCmp.not_lt_of_lt hab)

/-- The last record with the id; none for the region that stands for no region. -/
theorem record?_ofRecords (rs : List Record) (region : String) :
    (ofRecords rs).record? region =
      if region = unknownRegion then none else rs.reverse.find? fun r => r.id == region :=
  RegistryDraft.records_ofRecords rs region

variable [Pattern.Engine]

/-- The last territory with the id, compiled; none for the region that stands for no region. -/
theorem record?_ofDocument {root : Element} {lite : Bool} {g : Registry}
    (h : ofDocument root lite = .ok g) {region : String} {r : Record} :
    g.record? region = some r ↔
      region ≠ unknownRegion ∧ ∃ t, Record.lastTerritory? root region = some t ∧
        Record.ofTerritory region t lite = .ok r := by
  obtain ⟨rs, hrs, rfl⟩ := map_eq_ok.1 h
  have hall := List.forall₂_reverse_iff.2 (mapM_eq_ok.1 hrs)
  have hid : ∀ t r, Record.ofEntry lite t = .ok r →
      (t.attribute? Schema.id == some region) = (r.id == region) := by
    intro t r ht
    obtain ⟨own, hown, hr⟩ := Record.ofEntry_eq_ok.1 ht
    have hread := Profile.ofElement_eq_ok.1 (Record.ofTerritory_eq_ok.1 hr).1
    have hrid : r.id = own := hread.id
    rw [hown, hrid, Option.some_beq_some]
  rw [record?_ofRecords]
  by_cases hz : region = unknownRegion
  · simp [hz]
  · rw [if_neg hz, find?_results hall hid]
    constructor
    · intro hfound
      obtain ⟨t, ht, hr⟩ := hfound
      exact ⟨hz, t, ht, (Record.ofEntry_of_last ht).1 hr⟩
    · intro hfound
      obtain ⟨-, t, ht, hr⟩ := hfound
      exact ⟨t, ht, (Record.ofEntry_of_last ht).2 hr⟩

theorem exists_record {root : Element} {lite : Bool} {g : Registry}
    (h : ofDocument root lite = .ok g) {region : String} (hz : region ≠ unknownRegion)
    {t : Element} (ht : Record.lastTerritory? root region = some t) :
    ∃ r, g.record? region = some r ∧ Record.ofTerritory region t lite = .ok r := by
  obtain ⟨rs, hrs, -⟩ := map_eq_ok.1 h
  have hmem : t ∈ Record.territoriesOf root := by
    simpa using List.mem_of_find?_eq_some ht
  obtain ⟨r, hr⟩ := exists_result_of_mem hrs hmem
  have hterritory := (Record.ofEntry_of_last ht).1 hr
  exact ⟨r, (record?_ofDocument h).2 ⟨hz, t, ht, hterritory⟩, hterritory⟩

end Registry

end NumberingPlan
