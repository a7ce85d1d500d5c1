import NumberingPlan.Proofs.Territory.Checks
import NumberingPlan.Territory.Descriptions

/-! What loading descriptions leaves behind where it succeeds. Main statement:
`Descriptions.of_load`, every description read from its own element and from the general one. -/
namespace NumberingPlan

theorem Descriptions.eq_of_categories {ds ds' : Descriptions} (hof : ∀ c, ds.of c = ds'.of c)
    (hsame : ds.sameMobileAndFixedLine = ds'.sameMobileAndFixedLine) : ds = ds' := by
  cases ds
  cases ds'
  exact congr (congrArg mk (funext hof)) hsame

variable [Pattern.Engine]

theorem Element.patternOr_eq_ok {e : Element} {name inherited p : String} :
    e.patternOr name inherited = .ok p ↔
      (∃ x, e.firstChild? name = some x ∧ checkBarePattern x.text = .ok p) ∨
        e.firstChild? name = none ∧ p = inherited := by
  unfold Element.patternOr
  cases e.firstChild? name with
  | none =>
    simp only [Except.ok.injEq, reduceCtorEq, false_and, exists_false, true_and, false_or]
    exact eq_comm
  | some x => simp

theorem Description.ofTerritory_eq_ok {inherited d : Description} {territory : Element}
    {c : Category} {lite : Bool} :
    Description.ofTerritory inherited territory c lite = .ok d ↔
      territory.firstChild? c.tag = none ∧ d = {} ∨
      ∃ e, territory.firstChild? c.tag = some e ∧
        e.patternOr Schema.possiblePattern inherited.possible = .ok d.possible ∧
        e.patternOr Schema.nationalPattern inherited.national = .ok d.national ∧
        d.sample = if lite then "" else
          ((e.firstChild? Schema.sampleNumber).map Element.text).getD inherited.sample := by
  unfold Description.ofTerritory
  cases territory.firstChild? c.tag with
  | none =>
    simp only [Except.ok.injEq, reduceCtorEq, false_and, exists_false, true_and, or_false]
    exact eq_comm
  | some e =>
    simp only [bind_eq_ok, pure_eq_ok, reduceCtorEq, false_and, false_or, Option.some.injEq,
      exists_eq_left']
    constructor
    · intro h
      obtain ⟨p, hp, n, hn, rfl⟩ := h
      refine ⟨hp, hn, ?_⟩
      cases e.firstChild? Schema.sampleNumber <;> rfl
    · intro h
      obtain ⟨hp, hn, hs⟩ := h
      refine ⟨d.possible, hp, d.national, hn, ?_⟩
      cases d
      subst hs
      cases e.firstChild? Schema.sampleNumber <;> rfl

namespace Descriptions

/-- Every category read has its new description, and the others keep theirs. -/
theorem loadEach_eq_ok {general : Description} {territory : Element} {lite : Bool}
    {cs : List Category} {ds ds' : Descriptions} {u : Unit} :
    (loadEach general territory lite cs).run ds = .ok u ds' ↔
      (∀ c, if c ∈ cs then Description.ofTerritory general territory c lite = .ok (ds'.of c)
        else ds'.of c = ds.of c) ∧ ds'.sameMobileAndFixedLine = ds.sameMobileAndFixedLine := by
  induction cs generalizing ds with
  | nil =>
    simp only [loadEach, run_pure_eq_ok, List.not_mem_nil, if_false, true_and]
    constructor
    · intro h
      subst h
      exact ⟨fun _ => rfl, rfl⟩
    · intro h
      exact eq_of_categories (fun c => (h.1 c).symm) h.2.symm
  | cons x cs ih =>
    simp only [loadEach, run_bind_eq_ok, run_ofExcept_eq_ok, run_modify_eq_ok, ih]
    constructor
    · intro h
      obtain ⟨d, _, ⟨hd, rfl⟩, _, _, rfl, hof, hsame⟩ := h
      refine ⟨fun c => ?_, hsame⟩
      have hc := hof c
      -- what is stored for `c` is kept unless `c` is read again
      by_cases hmem : c ∈ cs
      · simpa [hmem] using hc
      · simp only [hmem, if_false] at hc
        by_cases hx : c = x
        · subst hx
          simpa [hc, set] using hd
        · simp [hmem, hx, hc, set]
    · intro h
      obtain ⟨hof, hsame⟩ := h
      have hx : Description.ofTerritory general territory x lite = .ok (ds'.of x) := by
        simpa using hof x
      refine ⟨ds'.of x, ds, ⟨hx, rfl⟩, (), _, rfl, fun c => ?_, hsame⟩
      have hc := hof c
      by_cases hmem : c ∈ cs
      · simpa [hmem] using hc
      · by_cases hcx : c = x
        · subst hcx
          simp [hmem, set]
        · simpa [hmem, hcx, set] using hc

/-- The general description is its own, all others are read beside it, and the switch is what it
caches. -/
theorem load_eq_ok {territory : Element} {lite : Bool} {ds ds' : Descriptions} {u : Unit} :
    (load territory lite).run ds = .ok u ds' ↔
      Description.ofTerritory {} territory .general lite = .ok (ds'.of .general) ∧
      (∀ c, c ≠ .general →
        Description.ofTerritory (ds'.of .general) territory c lite = .ok (ds'.of c)) ∧
      (ds'.sameMobileAndFixedLine = true ↔
        (ds'.of (.ofType .fixedLine)).national = (ds'.of (.ofType .mobile)).national) := by
  have hspecific : ∀ c, c ∈ Category.specific ↔ c ≠ .general := by
    intro c
    have hc : c = .general ∨ c ∈ Category.specific := List.mem_cons.1 c.mem_all
    constructor
    · rintro hmem rfl
      exact absurd hmem (by decide)
    · exact hc.resolve_left
  simp only [load, run_bind_eq_ok, run_ofExcept_eq_ok, run_modify_eq_ok, loadEach_eq_ok, hspecific]
  constructor
  · intro h
    obtain ⟨g, _, ⟨hg, rfl⟩, _, m, ⟨hof, -⟩, rfl⟩ := h
    refine ⟨by simpa [set] using hg, fun c hc => ?_, ?_⟩
    · have hnew := hof c
      simpa [set, hc] using hnew
    · rw [beq_iff_eq]
      exact eq_comm
  · intro h
    obtain ⟨hg, hof, hsame⟩ := h
    let m : Descriptions := { ds' with
      of := fun c => if c = .general then ds.of .general else ds'.of c
      sameMobileAndFixedLine := ds.sameMobileAndFixedLine }
    refine ⟨ds'.of .general, ds, ⟨hg, rfl⟩, (), m, ⟨fun c => ?_, rfl⟩, ?_⟩
    · by_cases hc : c = .general
      · simp [hc, m]
      · simpa [hc, m] using hof c hc
    · refine eq_of_categories (fun c => ?_) ?_
      · by_cases hc : c = .general <;> simp [hc, m, set]
      · have hswitch : ((ds'.of (.ofType .mobile)).national ==
            (ds'.of (.ofType .fixedLine)).national) = ds'.sameMobileAndFixedLine := by
          rw [Bool.eq_iff_iff, beq_iff_eq, hsame]
          exact eq_comm
        simpa [m, set] using hswitch

theorem of_load {territory : Element} {lite : Bool} {ds ds' : Descriptions} {u : Unit}
    (h : (load territory lite).run ds = .ok u ds') :
    Description.ofTerritory {} territory .general lite = .ok (ds'.of .general) ∧
      ∀ c, c ≠ .general →
        Description.ofTerritory (ds'.of .general) territory c lite = .ok (ds'.of c) := by
  obtain ⟨hgeneral, hspecific, -⟩ := load_eq_ok.1 h
  exact ⟨hgeneral, hspecific⟩

end Descriptions

theorem isBarePattern_notApplicable : IsBarePattern notApplicable :=
  ⟨Pattern.compiles_of_short ⟨_, rfl, by decide⟩ (by decide) (by decide), by decide⟩

def Description.patterns (d : Description) : List String := [d.possible, d.national]

theorem Element.patternOr_bare {e : Element} {name inherited p : String}
    (hi : IsBarePattern inherited) (h : e.patternOr name inherited = .ok p) : IsBarePattern p := by
  rcases Element.patternOr_eq_ok.1 h with ⟨x, -, hx⟩ | ⟨-, rfl⟩
  · exact isBarePattern_of_check hx
  · exact hi

theorem Description.ofTerritory_bare {inherited d : Description} {territory : Element}
    {c : Category} {lite : Bool} (hi : ∀ p ∈ inherited.patterns, IsBarePattern p)
    (h : Description.ofTerritory inherited territory c lite = .ok d) :
    ∀ p ∈ d.patterns, IsBarePattern p := by
  have hna := isBarePattern_notApplicable
  rcases Description.ofTerritory_eq_ok.1 h with ⟨-, rfl⟩ | ⟨e, -, hp, hn, -⟩
  · simp [patterns, hna]
  · have hpossible := Element.patternOr_bare (hi _ (by simp [patterns])) hp
    have hnational := Element.patternOr_bare (hi _ (by simp [patterns])) hn
    simp [patterns, hpossible, hnational]

/-- Own, inherited and missing patterns alike. -/
theorem Descriptions.load_bare {territory : Element} {lite : Bool} {ds ds' : Descriptions}
    {u : Unit} (h : (Descriptions.load territory lite).run ds = .ok u ds') (c : Category) :
    ∀ p ∈ (ds'.of c).patterns, IsBarePattern p := by
  have hna := isBarePattern_notApplicable
  obtain ⟨hg, hc⟩ := Descriptions.of_load h
  have hgeneral := Description.ofTerritory_bare (by simp [Description.patterns, hna]) hg
  by_cases hcg : c = .general
  · rw [hcg]
    exact hgeneral
  · exact Description.ofTerritory_bare hgeneral (hc c hcg)

def Element.ownNational? (e : Element) : Option String :=
  (e.firstChild? Schema.nationalPattern).map fun x => Text.withoutBlanks x.text

/-- The national pattern of a category: its own, else the general one, else that there are no such
numbers. A category that is absent has none. -/
def Element.nationalOf? (territory : Element) (c : Category) : Option String :=
  (territory.firstChild? c.tag).map fun e =>
    (e.ownNational?.or ((territory.firstChild? Category.general.tag).bind ownNational?)).getD
      notApplicable

theorem Element.patternOr_national {e : Element} {inherited p : String}
    (h : e.patternOr Schema.nationalPattern inherited = .ok p) :
    p = e.ownNational?.getD inherited := by
  rcases Element.patternOr_eq_ok.1 h with ⟨x, hx, hp⟩ | ⟨hx, hp⟩
  · have hown : e.ownNational? = some (Text.withoutBlanks x.text) := by simp [ownNational?, hx]
    rw [hown, Option.getD_some]
    exact (checkPattern_eq_ok.1 hp).2
  · have hown : e.ownNational? = none := by simp [ownNational?, hx]
    rw [hown, Option.getD_none]
    exact hp

theorem Descriptions.national_of_load {territory : Element} {lite : Bool} {ds ds' : Descriptions}
    {u : Unit} (h : (Descriptions.load territory lite).run ds = .ok u ds') {c : Category}
    (hc : c ≠ .general) : (ds'.of c).national = (territory.nationalOf? c).getD notApplicable := by
  obtain ⟨hg, hall⟩ := of_load h
  have hgeneral : (ds'.of .general).national =
      ((territory.firstChild? Category.general.tag).bind Element.ownNational?).getD
        notApplicable := by
    rcases Description.ofTerritory_eq_ok.1 hg with ⟨hnone, hd⟩ | ⟨e, he, -, hn, -⟩
    · rw [hd, hnone, Option.bind_none, Option.getD_none]
    · rw [Element.patternOr_national hn, he, Option.bind_some]
  rcases Description.ofTerritory_eq_ok.1 (hall c hc) with ⟨hnone, hd⟩ | ⟨e, he, -, hn, -⟩
  · rw [hd, Element.nationalOf?, hnone, Option.map_none, Option.getD_none]
  · rw [Element.patternOr_national hn, hgeneral, Element.nationalOf?, he, Option.map_some,
      Option.getD_some]
    cases e.ownNational? with
    | none => simp
    | some p => simp

end NumberingPlan
