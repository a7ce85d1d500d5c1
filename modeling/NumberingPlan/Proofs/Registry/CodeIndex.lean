import Mathlib.Data.List.Basic
import Mathlib.Order.Basic
import NumberingPlan.CodeIndex

/-! An index in ascending order finds exactly the entries it has (`CodeIndex.regions?_eq_some`), and
sorting entries with distinct codes gives one such index, in whatever order they come. -/
namespace NumberingPlan.CodeIndex

variable {x : CodeIndex} {code : Int}

def Ascending (x : CodeIndex) : Prop := x.toList.Pairwise fun a b => a.1 < b.1

theorem Ascending.lt (hx : x.Ascending) {i j : Nat} (hij : i < j) (hj : j < x.size) :
    x[i].1 < x[j].1 := by
  have hlt := List.pairwise_iff_getElem.1 hx i j (by simp; omega) (by simpa using hj) hij
  simpa using hlt

theorem position?_sound {lo hi : Nat} {h : hi ≤ x.size} {i : Fin x.size}
    (hp : x.position? code lo hi h = some i) : x[i].1 = code := by
  fun_induction position? x code lo hi h with
  | case1 lo hi h hlt mid hmid heq =>
    obtain rfl := Option.some.inj hp
    exact heq
  | case2 lo hi h hlt mid hmid hne hless ih => exact ih hp
  | case3 lo hi h hlt mid hmid hne hge ih => exact ih hp
  | case4 lo hi h hge => exact nomatch hp

theorem position?_complete (hx : x.Ascending) {lo hi i : Nat} {h : hi ≤ x.size} (hlo : lo ≤ i)
    (hhi : i < hi) (hcode : x[i].1 = code) : ∃ j, x.position? code lo hi h = some j := by
  fun_induction position? x code lo hi h with
  | case1 lo hi h hlt mid hmid heq => exact ⟨_, rfl⟩
  | case2 lo hi h hlt mid hmid hne hless ih =>
    -- all codes up to the middle are too small
    have hright : mid < i := by
      by_contra hle
      rcases Nat.lt_or_eq_of_le (Nat.not_lt.1 hle) with him | him
      · have hsmall := hx.lt him hmid
        omega
      · subst him
        exact hne hcode
    exact ih hright hhi hcode
  | case3 lo hi h hlt mid hmid hne hge ih =>
    have hleft : i < mid := by
      by_contra hle
      rcases Nat.lt_or_eq_of_le (Nat.not_lt.1 hle) with hmi | hmi
      · have hlarge := hx.lt hmi (Nat.lt_of_lt_of_le hhi h)
        omega
      · subst hmi
        exact hne hcode
    exact ih hlo hleft hcode
  | case4 lo hi h hge => omega

theorem Ascending.eq_of_code (hx : x.Ascending) {a b : Int × List String} (ha : a ∈ x)
    (hb : b ∈ x) (hab : a.1 = b.1) : a = b := by
  obtain ⟨i, hi, rfl⟩ := Array.mem_iff_getElem.1 ha
  obtain ⟨j, hj, rfl⟩ := Array.mem_iff_getElem.1 hb
  rcases Nat.lt_trichotomy i j with hij | rfl | hji
  · have hlt := hx.lt hij hj
    omega
  · rfl
  · have hlt := hx.lt hji hi
    omega

theorem regions?_eq_some (hx : x.Ascending) {ids : List String} :
    x.regions? code = some ids ↔ (code, ids) ∈ x := by
  simp only [regions?, Option.map_eq_some_iff]
  constructor
  · intro h
    obtain ⟨i, hi, rfl⟩ := h
    have hcode := position?_sound hi
    have hentry : (code, x[i].2) = x[i] := by rw [← hcode]
    rw [hentry]
    exact Array.getElem_mem i.isLt
  · intro h
    obtain ⟨i, hi, hentry⟩ := Array.mem_iff_getElem.1 h
    have hi' : x[i].1 = code := by rw [hentry]
    obtain ⟨j, hj⟩ := position?_complete hx (h := Nat.le_refl _) (Nat.zero_le i) hi hi'
    have hcode := position?_sound hj
    have hsame : x[j] = (code, ids) :=
      hx.eq_of_code (Array.getElem_mem j.isLt) h hcode
    exact ⟨j, hj, by rw [hsame]⟩

theorem toList_ofEntries_perm (entries : List (Int × List String)) :
    (ofEntries entries).toList.Perm entries := by
  simpa [ofEntries] using List.mergeSort_perm entries _

theorem mem_ofEntries {entries : List (Int × List String)} {e : Int × List String} :
    e ∈ ofEntries entries ↔ e ∈ entries := by
  rw [← Array.mem_toList_iff]
  exact (toList_ofEntries_perm entries).mem_iff

theorem ofEntries_ascending {entries : List (Int × List String)}
    (hd : entries.Pairwise fun a b => a.1 ≠ b.1) : (ofEntries entries).Ascending := by
  have hle : (ofEntries entries).toList.Pairwise fun a b => a.1 ≤ b.1 := by
    have hsorted : (entries.mergeSort fun a b => a.1 ≤ b.1).Pairwise
        fun a b => decide (a.1 ≤ b.1) = true := by
      apply List.pairwise_mergeSort
      · intro a b c hab hbc
        simp only [decide_eq_true_eq] at *
        omega
      · intro a b
        simp only [Bool.or_eq_true, decide_eq_true_eq]
        omega
    simpa [ofEntries] using hsorted
  have hne : (ofEntries entries).toList.Pairwise fun a b => a.1 ≠ b.1 :=
    (toList_ofEntries_perm entries).symm.pairwise hd fun hab => hab.symm
  exact (hle.and hne).imp fun hab => by omega

/-- Entries with distinct codes have one order. -/
theorem ofEntries_congr {entries entries' : List (Int × List String)}
    (hd : entries.Pairwise fun a b => a.1 ≠ b.1) (hp : entries'.Perm entries) :
    ofEntries entries' = ofEntries entries := by
  have hd' : entries'.Pairwise fun a b => a.1 ≠ b.1 := hp.symm.pairwise hd fun hab => hab.symm
  have hperm : (ofEntries entries').toList.Perm (ofEntries entries).toList :=
    (toList_ofEntries_perm entries').trans
      (hp.trans (toList_ofEntries_perm entries).symm)
  apply Array.toList_inj.1
  apply List.Perm.eq_of_pairwise _ (ofEntries_ascending hd') (ofEntries_ascending hd) hperm
  intro a b _ _ hab hba
  omega

end NumberingPlan.CodeIndex
