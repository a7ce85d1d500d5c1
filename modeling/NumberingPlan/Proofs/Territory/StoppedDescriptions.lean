import NumberingPlan.Proofs.Territory.Defects
import NumberingPlan.Proofs.Territory.Inheritance

/-! What loading descriptions leaves behind where it fails. They are stored one by one, in the order
in which they are read, but the general one and the switch come last, so a record can be left with
some of its descriptions new and a switch that no longer says what it caches. Main statement:
`Record.loadDescriptions_stopped`. -/
namespace NumberingPlan

/-- The specific categories are all different and the general one is none of them, so a category
that is not before one of them is the general one, that one or behind it. -/
theorem Category.not_mem_before_iff {before after : List Category} {c : Category}
    (h : specific = before ++ c :: after) (x : Category) :
    x ∉ before ↔ x ∈ .general :: c :: after := by
  have hall : all = .general :: (before ++ c :: after) := by rw [all, h]
  have hmem : x ∈ all := x.mem_all
  have hnodup : all.Nodup := by decide
  rw [hall] at hmem hnodup
  obtain ⟨hgeneral, hnodup⟩ := List.nodup_cons.1 hnodup
  obtain ⟨-, -, hapart⟩ := List.nodup_append.1 hnodup
  constructor
  · intro hx
    rcases List.mem_cons.1 hmem with rfl | hmem
    · exact List.mem_cons_self
    · exact List.mem_cons_of_mem _ ((List.mem_append.1 hmem).resolve_left hx)
  · intro hx hbefore
    rcases List.mem_cons.1 hx with rfl | hx
    · exact hgeneral (List.mem_append_left _ hbefore)
    · exact hapart x hbefore x hx rfl

variable [Pattern.Engine]
variable {t : Element} {lite : Bool} {fault : Fault}

/-- What keeps the description of a category from resolving: its possible pattern, and only where
that is as it should be its national one. -/
inductive Element.DescriptionFault (t : Element) (c : Category) : Fault → Prop
  | possible {e : Element} {p : String} {defect : Pattern.Defect}
    (he : t.firstChild? c.tag = some e) (hp : e.ownPattern? Schema.possiblePattern = some p)
    (h : Pattern.compile p.toList = .error defect) :
    DescriptionFault t c (.invalidPattern p defect)
  | national {e : Element} {p : String} {defect : Pattern.Defect}
    (he : t.firstChild? c.tag = some e)
    (hpossible : ∀ q, e.ownPattern? Schema.possiblePattern = some q → IsPattern q)
    (hp : e.ownPattern? Schema.nationalPattern = some p)
    (h : Pattern.compile p.toList = .error defect) :
    DescriptionFault t c (.invalidPattern p defect)

theorem Element.patternOr_eq_error {e : Element} {name inherited : String} :
    e.patternOr name inherited = .error fault ↔
      ∃ p defect, e.ownPattern? name = some p ∧ Pattern.compile p.toList = .error defect ∧
        fault = .invalidPattern p defect := by
  unfold patternOr ownPattern?
  cases e.firstChild? name with
  | none => simp
  | some x => simp [checkBarePattern, checkPattern_eq_error]

theorem Element.exists_patternOr_iff {e : Element} {name inherited : String} :
    (∃ p, e.patternOr name inherited = .ok p) ↔
      ∀ q, e.ownPattern? name = some q → IsPattern q := by
  rw [exists_patternOr]
  simp [ownPattern?, IsLoosePattern]

theorem Description.ofTerritory_eq_error {inherited : Description} {c : Category} :
    ofTerritory inherited t c lite = .error fault ↔ t.DescriptionFault c fault := by
  constructor
  · intro h
    unfold ofTerritory at h
    cases he : t.firstChild? c.tag with
    | none =>
      rw [he] at h
      cases h
    | some e =>
      simp only [he, bind_eq_error, Element.patternOr_eq_error, pure, Except.pure, reduceCtorEq,
        and_false, exists_false, or_false] at h
      rcases h with ⟨p, defect, hp, hdefect, rfl⟩ | ⟨q, hq, p, defect, hp, hdefect, rfl⟩
      · exact .possible he hp hdefect
      · exact .national he (Element.exists_patternOr_iff.1 ⟨q, hq⟩) hp hdefect
  · intro h
    unfold ofTerritory
    cases h with
    | possible he hp hdefect =>
      simp only [he, bind_eq_error]
      exact .inl (Element.patternOr_eq_error.2 ⟨_, _, hp, hdefect, rfl⟩)
    | national he hpossible hp hdefect =>
      obtain ⟨q, hq⟩ := Element.exists_patternOr_iff.2 hpossible
      simp only [he, bind_eq_error]
      exact .inr ⟨q, hq, .inl (Element.patternOr_eq_error.2 ⟨_, _, hp, hdefect, rfl⟩)⟩

theorem Element.DescriptionFault.not_resolves {c : Category} (h : t.DescriptionFault c fault) :
    ¬ t.Resolves c := by
  intro hresolves
  have hok : ∃ d, Description.ofTerritory {} t c false = .ok d :=
    Description.exists_ofTerritory.2 hresolves
  obtain ⟨d, hd⟩ := hok
  rw [Description.ofTerritory_eq_error.2 h] at hd
  cases hd

namespace Descriptions

/-- The categories before others are new; those others, the general one and the switch are as they
were. -/
structure HalfRead (t : Element) (lite : Bool) (general : Description)
    (before others : List Category) (old new : Descriptions) : Prop where
  read : ∀ c ∈ before, t.Resolves c ∧ t.Describes lite c general (new.of c)
  kept : ∀ c ∈ .general :: others, new.of c = old.of c
  switchKept : new.sameMobileAndFixedLine = old.sameMobileAndFixedLine

theorem loadEach_eq_ok_iff {general : Description} {before after : List Category} {c : Category}
    {ds ds' : Descriptions} (h : Category.specific = before ++ c :: after) :
    (loadEach general t lite before).run ds = .ok () ds' ↔
      HalfRead t lite general before (c :: after) ds ds' := by
  rw [loadEach_eq_ok]
  constructor
  · intro hleft
    obtain ⟨hof, hsame⟩ := hleft
    refine ⟨fun x hx => ?_, fun x hx => ?_, hsame⟩
    · have hread := hof x
      rw [if_pos hx] at hread
      exact Description.ofTerritory_eq_ok_iff.1 hread
    · have hkept := hof x
      rw [if_neg ((Category.not_mem_before_iff h x).2 hx)] at hkept
      exact hkept
  · intro hleft
    refine ⟨fun x => ?_, hleft.switchKept⟩
    by_cases hx : x ∈ before
    · rw [if_pos hx]
      exact Description.ofTerritory_eq_ok_iff.2 (hleft.read x hx)
    · rw [if_neg hx]
      exact hleft.kept x ((Category.not_mem_before_iff h x).1 hx)

/-- Reading stops at the first category that does not resolve and leaves what the categories before
it alone would have left. -/
theorem loadEach_eq_error {general : Description} {cs : List Category} {ds ds' : Descriptions} :
    (loadEach general t lite cs).run ds = .error fault ds' ↔
      ∃ before c after, cs = before ++ c :: after ∧
        (loadEach general t lite before).run ds = .ok () ds' ∧ t.DescriptionFault c fault := by
  induction cs generalizing ds with
  | nil => simp [loadEach]
  | cons x cs ih =>
    rw [exists_split_cons]
    simp only [loadEach, run_bind_eq_error, run_bind_eq_ok, run_ofExcept_eq_error,
      run_ofExcept_eq_ok, run_modify_eq_error, run_modify_eq_ok, run_pure_eq_ok, ih,
      Description.ofTerritory_eq_error]
    constructor
    · intro h
      rcases h with ⟨hx, rfl⟩ | ⟨d, _, ⟨hd, rfl⟩, hfalse | ⟨_, _, rfl, h⟩⟩
      · exact .inl ⟨⟨trivial, rfl⟩, hx⟩
      · exact hfalse.elim
      · obtain ⟨before, c, after, hsplit, hbefore, hc⟩ := h
        exact .inr ⟨before, c, after, hsplit, ⟨d, ds, ⟨hd, rfl⟩, (), _, rfl, hbefore⟩, hc⟩
    · intro h
      rcases h with ⟨⟨-, rfl⟩, hx⟩ | ⟨before, c, after, hsplit, h, hc⟩
      · exact .inl ⟨hx, rfl⟩
      · obtain ⟨d, _, ⟨hd, rfl⟩, _, _, rfl, hbefore⟩ := h
        exact .inr ⟨d, ds, ⟨hd, rfl⟩, .inr ⟨(), _, rfl, before, c, after, hsplit, hbefore, hc⟩⟩

theorem load_eq_error {ds ds' : Descriptions} :
    (load t lite).run ds = .error fault ds' ↔
      t.DescriptionFault .general fault ∧ ds' = ds ∨
      ∃ general, Description.ofTerritory {} t .general lite = .ok general ∧
        (loadEach general t lite Category.specific).run ds = .error fault ds' := by
  simp only [load, run_bind_eq_error, run_ofExcept_eq_error, run_ofExcept_eq_ok,
    run_modify_eq_error, and_false, exists_false, or_false, Description.ofTerritory_eq_error]
  refine or_congr_right ?_
  constructor
  · intro h
    obtain ⟨g, _, ⟨hg, rfl⟩, h⟩ := h
    exact ⟨g, hg, h⟩
  · intro h
    obtain ⟨g, hg, h⟩ := h
    exact ⟨g, ds, ⟨hg, rfl⟩, h⟩

end Descriptions

/-- What mobile numbers have is no pattern, and fixed-line numbers there are none. -/
def brokenMobileTerritory : Element where
  name := Schema.territory
  children := [
    { name := "mobile", children := [{ name := "nationalNumberPattern", text := "(" }] }]

/-- Of two descriptions with one pattern the first is replaced, and the switch is left as it was. -/
theorem Record.exists_switch_left :
    ∃ t lite r r' fault, (loadDescriptions t lite).run r = .error fault r' ∧
      r.descriptions.SwitchAgrees ∧ ¬ r'.descriptions.SwitchAgrees := by
  refine ⟨brokenMobileTerritory, false,
    { descriptions := { of := fun _ => { national := "1" }, sameMobileAndFixedLine := true } }, _,
    .invalidPattern "(" .malformed, rfl, ⟨fun _ => rfl, fun _ => rfl⟩, fun h => ?_⟩
  have hsame := h.1 rfl
  exact absurd hsame (by decide)

/-- Loading the descriptions of a territory fails exactly at the first that does not resolve, the
general one before all others. Those read before it are new; it and all others are as they were, the
general one and the switch among them, so the switch need not say any more what it caches. -/
theorem Record.loadDescriptions_stopped :
    (∀ (t : Element) (lite : Bool) (r r' : Record) (fault : Fault),
      (loadDescriptions t lite).run r = .error fault r' ↔
        ¬ t.Resolves .general ∧ t.DescriptionFault .general fault ∧ r' = r ∨
        ∃ general before c after, t.Resolves .general ∧ t.Describes lite .general {} general ∧
          Category.specific = before ++ c :: after ∧
          ¬ t.Resolves c ∧ t.DescriptionFault c fault ∧
          Descriptions.HalfRead t lite general before (c :: after) r.descriptions
            r'.descriptions ∧
          r'.profile = r.profile ∧ r'.formats = r.formats) ∧
    ∃ t lite r r' fault, (loadDescriptions t lite).run r = .error fault r' ∧
      r.descriptions.SwitchAgrees ∧ ¬ r'.descriptions.SwitchAgrees := by
  refine ⟨fun t lite r r' fault => ?_, exists_switch_left⟩
  simp only [loadDescriptions, onDescriptions_eq_error, Descriptions.load_eq_error,
    Descriptions.loadEach_eq_error]
  constructor
  · intro h
    obtain ⟨ds, ⟨hfault, rfl⟩ | ⟨general, hgeneral, h⟩, rfl⟩ := h
    · exact .inl ⟨hfault.not_resolves, hfault, rfl⟩
    · obtain ⟨before, c, after, hsplit, hbefore, hfault⟩ := h
      obtain ⟨hresolves, hdescribes⟩ := Description.ofTerritory_eq_ok_iff.1 hgeneral
      exact .inr ⟨general, before, c, after, hresolves, hdescribes, hsplit, hfault.not_resolves,
        hfault, (Descriptions.loadEach_eq_ok_iff hsplit).1 hbefore, rfl, rfl⟩
  · intro h
    rcases h with ⟨-, hfault, rfl⟩ | ⟨general, before, c, after, hresolves, hdescribes, h⟩
    · exact ⟨_, .inl ⟨hfault, rfl⟩, rfl⟩
    · obtain ⟨hsplit, -, hfault, hleft, hprofile, hformats⟩ := h
      have hgeneral := Description.ofTerritory_eq_ok_iff.2 ⟨hresolves, hdescribes⟩
      have hbefore := (Descriptions.loadEach_eq_ok_iff hsplit).2 hleft
      obtain ⟨profile, formats, ds⟩ := r'
      subst hprofile hformats
      exact ⟨ds, .inr ⟨general, hgeneral, before, c, after, hsplit, hbefore, hfault⟩, rfl⟩

end NumberingPlan
