import NumberingPlan.Proofs.Emergency.Star
import NumberingPlan.Proofs.Pattern.Growth

/-! Numbers with more behind them. What a number is matched as is then the front of what the longer
number is matched as, and a pattern without looks matches there again. Main statement:
`Registry.connects_append`. -/
namespace NumberingPlan
open Pattern

def NotBlank (number : String) : Prop := ∃ c ∈ number.toList, Text.isBlank c = false

instance (number : String) : Decidable (NotBlank number) :=
  decidable_of_iff (number.toList.any (fun c => !Text.isBlank c) = true) (by simp [NotBlank])

/-- The first character that is no blank is in front of all that is appended. -/
theorem NotBlank.find?_append {number : String} (h : NotBlank number) (more : String) :
    (number ++ more).toList.find? (fun c => !Text.isBlank c) =
      number.toList.find? fun c => !Text.isBlank c := by
  obtain ⟨c, hmem, hc⟩ := h
  have hfirst : (number.toList.find? fun c => !Text.isBlank c).isSome = true :=
    List.find?_isSome.2 ⟨c, hmem, by simp [hc]⟩
  rw [String.toList_append, List.find?_append, Option.or_of_isSome hfirst]

theorem Domestic.append {number : String} (hn : NotBlank number) (h : Domestic number)
    (more : String) : Domestic (number ++ more) := by
  intro c hc
  rw [hn.find?_append more] at hc
  exact h c hc

theorem plainText_append (cs ds : List Char) :
    plainText (cs ++ ds) = plainText cs ++ plainText ds := by
  simp [plainText]

namespace Dialling

theorem textOf_connects (number : String) : connects.textOf number = plainText number.toList := by
  rw [← plainText_dropWhile]
  simp [textOf, plainText, isSeparator]

theorem textOf_connects_append (number more : String) :
    connects.textOf (number ++ more) = connects.textOf number ++ plainText more.toList := by
  rw [textOf_connects, textOf_connects, String.toList_append, plainText_append]

end Dialling

namespace Registry

/-- What is dialled behind a number that connects does not disconnect it, unless the pattern looks
at what follows. -/
theorem connects_append [Engine] {g : Registry} {region : String} {r : Record}
    (hr : g.record? region = some r) {t : Pattern.Tree Atom}
    (ht : compile (r.description .emergency).national.toList = .ok t) (hfree : t.LookFree)
    {number : String} (hn : NotBlank number) (more : String)
    (h : g.connectsToEmergency number region = true) :
    g.connectsToEmergency (number ++ more) region = true := by
  obtain ⟨hdomestic, x, hx, hnumbers, hfound⟩ := answer_eq_true.1 h
  obtain rfl : r = x := Option.some.inj (hr.symm.trans hx)
  have hbound : Compiles (Dialling.connects.anchor (r.description .emergency).national).toList := by
    obtain ⟨u, hu, -⟩ := hfound
    exact ⟨u, hu⟩
  have hfront : ∀ text, FoundIn
      (Dialling.connects.anchor (r.description .emergency).national).toList text ↔
        ∃ j, t.Spans text 0 j := fun text =>
    (Dialling.foundIn_anchor ht hbound).trans Dialling.isMatch_connects
  obtain ⟨j, hspans⟩ := (hfront _).1 hfound
  refine answer_eq_true.2 ⟨hdomestic.append hn more, r, hr, hnumbers, (hfront _).2 ⟨j, ?_⟩⟩
  rw [Dialling.textOf_connects_append]
  exact hspans.append hfree _

theorem connects_redialled :
    let g := ofRecords [.ofEmergency "XX" "911|11[29]"]
    ∃ r t, g.record? "XX" = some r ∧
      compile (r.description .emergency).national.toList = .ok t ∧ t.LookFree ∧
      NotBlank " 9-11" ∧ g.connectsToEmergency " 9-11" "XX" = true ∧
      g.connectsToEmergency (" 9-11" ++ "\n+*$") "XX" = true := by
  have hr : (ofRecords [.ofEmergency "XX" "911|11[29]"]).record? "XX" =
      some (.ofEmergency "XX" "911|11[29]") := rfl
  have hcompile : ∃ t, compile "911|11[29]".toList = .ok t ∧ t.LookFree := ⟨_, rfl, by decide⟩
  obtain ⟨t, ht, hfree⟩ := hcompile
  have hn : NotBlank " 9-11" := by decide
  have hconnects : (ofRecords [.ofEmergency "XX" "911|11[29]"]).connectsToEmergency " 9-11" "XX" =
      true := rfl
  exact ⟨_, t, hr, ht, hfree, hn, hconnects, connects_append hr ht hfree hn _ hconnects⟩

end Registry

end NumberingPlan
