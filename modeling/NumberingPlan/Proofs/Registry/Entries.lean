import NumberingPlan.Pattern.Standard
import NumberingPlan.Proofs.Failure
import NumberingPlan.Proofs.Registry.Lookup

/-! From the territories of a document to its registry. Each territory is compiled by itself and in
its turn, and the first that fails ends it; what is registered is the last territory of each id.
Main statement: `Registry.ofDocument_in_order`. -/
namespace NumberingPlan

namespace Record

def LastWithId (root : Element) (region : String) (t : Element) : Prop :=
  ∃ before after, territoriesOf root = before ++ t :: after ∧
    t.attribute? Schema.id = some region ∧ ∀ u ∈ after, u.attribute? Schema.id ≠ some region

theorem lastTerritory?_eq_some {root : Element} {region : String} {t : Element} :
    lastTerritory? root region = some t ↔ LastWithId root region t := by
  rw [lastTerritory?, List.find?_eq_some_iff_append, LastWithId]
  constructor
  · intro h
    obtain ⟨hid, after, before, hsplit, hafter⟩ := h
    refine ⟨before.reverse, after.reverse, ?_, by simpa using hid, fun u hu => ?_⟩
    · simpa using congrArg List.reverse hsplit
    · simpa using hafter u (List.mem_reverse.1 hu)
  · intro h
    obtain ⟨before, after, hsplit, hid, hafter⟩ := h
    refine ⟨by simpa using hid, after.reverse, before.reverse, by simp [hsplit], fun u hu => ?_⟩
    simpa using hafter u (List.mem_reverse.1 hu)

theorem exists_lastWithId {root : Element} {region : String} :
    (∃ t, LastWithId root region t) ↔
      ∃ t ∈ territoriesOf root, t.attribute? Schema.id = some region := by
  simp only [← lastTerritory?_eq_some, ← Option.isSome_iff_exists, lastTerritory?,
    List.find?_isSome, List.mem_reverse, beq_iff_eq]

end Record

theorem Registry.mem_allRegions {g : Registry} {region : String} :
    region ∈ g.allRegions ↔ ∃ r, g.record? region = some r := by
  rw [allRegions, Std.TreeMap.mem_keys, ← Option.isSome_iff_exists, record?,
    Std.TreeMap.mem_iff_isSome_getElem?]

section
variable [Pattern.Engine]

namespace Record

/-- The record of a territory under its own id. -/
def Compiles (lite : Bool) (t : Element) (r : Record) : Prop :=
  ∃ region, t.attribute? Schema.id = some region ∧ ofTerritory region t lite = .ok r

/-- What is wrong with a territory is said once with its id; that it has none is said by itself. -/
def Fails (lite : Bool) (t : Element) (fault : Fault) : Prop :=
  t.attribute? Schema.id = none ∧ fault = .missingAttribute Schema.id ∨
    ∃ region cause, t.attribute? Schema.id = some region ∧
      ofTerritory region t lite = .error cause ∧ fault = .territory region cause

structure CompiledInOrder (lite : Bool) (ts : List Element) (result : Except Fault (List Record)) :
    Prop where
  records : ∀ rs, result = .ok rs ↔ List.Forall₂ (Compiles lite) ts rs
  fault : ∀ fault, result = .error fault ↔
    ∃ before t after, ts = before ++ t :: after ∧ (∀ u ∈ before, ∃ r, Compiles lite u r) ∧
      Fails lite t fault

theorem ofEntry_eq_error {lite : Bool} {t : Element} {fault : Fault} :
    ofEntry lite t = .error fault ↔ Fails lite t fault := by
  unfold ofEntry Fails
  cases t.attribute? Schema.id with
  | none => simp [eq_comm]
  | some region =>
    simp only [mapError_eq_error, reduceCtorEq, false_and, false_or, Option.some.injEq,
      exists_and_left, exists_eq_left']
    exact exists_congr fun cause => and_congr_right fun _ => eq_comm

theorem ofDocument_compiledInOrder (root : Element) (lite : Bool) :
    CompiledInOrder lite (territoriesOf root) (ofDocument root lite) where
  records rs := by
    have hentry : (fun t r => ofEntry lite t = .ok r) = Compiles lite := by
      funext t r
      exact propext ofEntry_eq_ok
    rw [ofDocument, mapM_eq_ok, hentry]
  fault fault := by
    rw [ofDocument, mapM_eq_error]
    simp only [ofEntry_eq_error, ofEntry_eq_ok, Compiles]

end Record

namespace Registry

/-- A registry that has, for each id of a document, the record of the last territory with that id,
and nothing else. -/
structure KeepsLast (g : Registry) (root : Element) (lite : Bool) : Prop where
  kept : ∀ region t, region ≠ unknownRegion → Record.LastWithId root region t →
    ∃ r, g.record? region = some r ∧ Record.ofTerritory region t lite = .ok r
  unknown : g.record? unknownRegion = none
  absent : ∀ region, (∀ t ∈ Record.territoriesOf root, t.attribute? Schema.id ≠ some region) →
    g.record? region = none
  regions : ∀ region, region ∈ g.allRegions ↔ region ≠ unknownRegion ∧
    ∃ t ∈ Record.territoriesOf root, t.attribute? Schema.id = some region
  once : g.allRegions.Nodup

theorem keepsLast_ofDocument {root : Element} {lite : Bool} {g : Registry}
    (h : ofDocument root lite = .ok g) : g.KeepsLast root lite := by
  constructor
  case kept =>
    intro region t hz ht
    exact exists_record h hz (Record.lastTerritory?_eq_some.2 ht)
  case unknown =>
    by_contra hsome
    obtain ⟨r, hr⟩ := Option.ne_none_iff_exists'.1 hsome
    exact ((record?_ofDocument h).1 hr).1 rfl
  case absent =>
    intro region hno
    by_contra hsome
    obtain ⟨r, hr⟩ := Option.ne_none_iff_exists'.1 hsome
    obtain ⟨-, t, ht, -⟩ := (record?_ofDocument h).1 hr
    obtain ⟨u, hu, hid⟩ := Record.exists_lastWithId.1 ⟨t, Record.lastTerritory?_eq_some.1 ht⟩
    exact hno u hu hid
  case regions =>
    intro region
    rw [mem_allRegions, ← Record.exists_lastWithId]
    constructor
    · intro hregion
      obtain ⟨r, hr⟩ := hregion
      obtain ⟨hz, t, ht, -⟩ := (record?_ofDocument h).1 hr
      exact ⟨hz, t, Record.lastTerritory?_eq_some.1 ht⟩
    · intro hregion
      obtain ⟨hz, t, ht⟩ := hregion
      obtain ⟨r, hr, -⟩ := exists_record h hz (Record.lastTerritory?_eq_some.2 ht)
      exact ⟨r, hr⟩
  case once => exact Std.TreeMap.nodup_keys

/-- A document gives one record for each territory, in order, or the fault of its first territory
that fails; its registry goes by the last territory of each id. -/
theorem ofDocument_in_order (root : Element) (lite : Bool) :
    Record.CompiledInOrder lite (Record.territoriesOf root) (Record.ofDocument root lite) ∧
      ∀ rs, Record.ofDocument root lite = .ok rs →
        ∃ g, ofDocument root lite = .ok g ∧ g.KeepsLast root lite := by
  refine ⟨Record.ofDocument_compiledInOrder root lite, fun rs hrs => ?_⟩
  have hg : ofDocument root lite = .ok (ofRecords rs) := map_eq_ok.2 ⟨rs, hrs, rfl⟩
  exact ⟨ofRecords rs, hg, keepsLast_ofDocument hg⟩

end Registry

end

namespace Registry

def numberedTerritory (id code : String) : Element where
  name := Schema.territory
  attributes := [("id", id), ("countryCode", code), ("internationalPrefix", "00")]

def movedTerritory : Element where
  name := "phoneNumberMetadata"
  children := [numberedTerritory "XX" "1", numberedTerritory "ZZ" "7", numberedTerritory "XX" "2"]

theorem keepsLast_movedTerritory :
    ∃ rs g r, Record.ofDocument movedTerritory true = .ok rs ∧ rs.length = 3 ∧
      ofDocument movedTerritory true = .ok g ∧ g.record? "XX" = some r ∧ r.callingCode = 2 ∧
      "ZZ" ∉ g.allRegions := by
  obtain ⟨hrecords, hregistry⟩ := ofDocument_in_order movedTerritory true
  have hrs : ∃ rs, Record.ofDocument movedTerritory true = .ok rs := ⟨_, rfl⟩
  obtain ⟨rs, hrs⟩ := hrs
  have hlength := ((hrecords.records rs).1 hrs).length_eq
  obtain ⟨g, hg, hlast⟩ := hregistry rs hrs
  have hmoved : Record.LastWithId movedTerritory "XX" (numberedTerritory "XX" "2") :=
    ⟨[numberedTerritory "XX" "1", numberedTerritory "ZZ" "7"], [], rfl, rfl, by simp⟩
  obtain ⟨r, hr, hcompiled⟩ := hlast.kept "XX" _ (by decide) hmoved
  have hcode : ∃ r, Record.ofTerritory "XX" (numberedTerritory "XX" "2") true = .ok r ∧
      r.callingCode = 2 := ⟨_, rfl, rfl⟩
  obtain ⟨r', hr', hcode⟩ := hcode
  rw [hcompiled, Except.ok.injEq] at hr'
  exact ⟨rs, g, r, hrs, hlength.symm, hg, hr, hr' ▸ hcode,
    fun hz => ((hlast.regions "ZZ").1 hz).1 rfl⟩

end Registry

end NumberingPlan
