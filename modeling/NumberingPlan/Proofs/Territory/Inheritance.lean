import NumberingPlan.Pattern.Standard
import NumberingPlan.Proofs.Territory.Acceptance

/-! What descriptions inherit. A description takes each thing that its element leaves out from the
general one, and the general one says that there are no such numbers; so does a description without
an element, whatever is said in general. Main statement: `Record.loadDescriptions_inherit`. -/
namespace NumberingPlan

section
variable [Pattern.Engine]

def Element.ownPattern? (e : Element) (name : String) : Option String :=
  (e.firstChild? name).map fun p => Text.withoutBlanks p.text

def Element.ownSample? (e : Element) : Option String :=
  (e.firstChild? Schema.sampleNumber).map Element.text

/-- What a territory says of a category: what its element says and, for each part that the element
leaves out, what is inherited. -/
structure Element.Describes (t : Element) (lite : Bool) (c : Category)
    (inherited d : Description) : Prop where
  absent : t.firstChild? c.tag = none → d = ⟨notApplicable, notApplicable, notApplicable⟩
  possible : ∀ e, t.firstChild? c.tag = some e →
    d.possible = (e.ownPattern? Schema.possiblePattern).getD inherited.possible
  national : ∀ e, t.firstChild? c.tag = some e →
    d.national = (e.ownPattern? Schema.nationalPattern).getD inherited.national
  sample : ∀ e, t.firstChild? c.tag = some e →
    d.sample = if lite then "" else e.ownSample?.getD inherited.sample

def Element.Resolves (t : Element) (c : Category) : Prop :=
  ∀ e, t.firstChild? c.tag = some e → e.IsDescription

theorem Element.patternOr_eq_ok_iff {e : Element} {name inherited p : String} :
    e.patternOr name inherited = .ok p ↔
      (∀ x, e.firstChild? name = some x → IsLoosePattern x.text) ∧
        p = (e.ownPattern? name).getD inherited := by
  unfold patternOr ownPattern?
  cases e.firstChild? name with
  | none => simp [eq_comm]
  | some x => simp [checkBarePattern, checkPattern_eq_ok, IsLoosePattern]

theorem Description.ofTerritory_eq_ok_iff {inherited d : Description} {t : Element} {c : Category}
    {lite : Bool} :
    ofTerritory inherited t c lite = .ok d ↔ t.Resolves c ∧ t.Describes lite c inherited d := by
  simp only [ofTerritory_eq_ok, Element.patternOr_eq_ok_iff]
  constructor
  · intro h
    rcases h with ⟨hnone, rfl⟩ | ⟨e, he, ⟨hp, hpossible⟩, ⟨hn, hnational⟩, hsample⟩
    · exact ⟨by simp [Element.Resolves, hnone], by constructor <;> simp [hnone]⟩
    · refine ⟨?_, ?_⟩
      · intro x hx
        rw [he, Option.some.injEq] at hx
        exact hx ▸ ⟨hp, hn⟩
      · constructor <;> simp [he, hpossible, hnational, hsample, Element.ownSample?]
  · intro h
    obtain ⟨hresolves, hmade⟩ := h
    cases he : t.firstChild? c.tag with
    | none => exact .inl ⟨rfl, hmade.absent he⟩
    | some e =>
      obtain ⟨hp, hn⟩ := hresolves e he
      exact .inr ⟨e, rfl, ⟨hp, hmade.possible e he⟩, ⟨hn, hmade.national e he⟩, hmade.sample e he⟩

def Descriptions.SwitchAgrees (ds : Descriptions) : Prop :=
  ds.sameMobileAndFixedLine = true ↔
    (ds.of (.ofType .mobile)).national = (ds.of (.ofType .fixedLine)).national

structure Descriptions.AreOf (t : Element) (lite : Bool) (ds : Descriptions) : Prop where
  general : t.Describes lite .general {} (ds.of .general)
  specific : ∀ c, c ≠ .general → t.Describes lite c (ds.of .general) (ds.of c)
  switchAgrees : ds.SwitchAgrees

theorem Descriptions.load_eq_ok_iff {t : Element} {lite : Bool} {ds ds' : Descriptions} :
    (load t lite).run ds = .ok () ds' ↔ (∀ c, t.Resolves c) ∧ ds'.AreOf t lite := by
  simp only [load_eq_ok, Description.ofTerritory_eq_ok_iff]
  constructor
  · intro h
    obtain ⟨⟨hgeneral, hmade⟩, hspecific, hsame⟩ := h
    refine ⟨fun c => ?_, hmade, fun c hc => (hspecific c hc).2, hsame.trans eq_comm⟩
    by_cases hc : c = .general
    · exact hc ▸ hgeneral
    · exact (hspecific c hc).1
  · intro h
    obtain ⟨hresolves, hgeneral, hspecific, hsame⟩ := h
    exact ⟨⟨hresolves _, hgeneral⟩, fun c hc => ⟨hresolves c, hspecific c hc⟩,
      hsame.trans eq_comm⟩

/-- Loading the descriptions of a territory goes well exactly if all thirteen resolve, and then
leaves what they are made of, whatever descriptions the record had before. -/
theorem Record.loadDescriptions_inherit (t : Element) (lite : Bool) (r : Record) :
    ((∃ r', (loadDescriptions t lite).run r = .ok () r') ↔ ∀ c, t.Resolves c) ∧
    ∀ r', (loadDescriptions t lite).run r = .ok () r' ↔
      (∀ c, t.Resolves c) ∧ r'.descriptions.AreOf t lite ∧
        r'.profile = r.profile ∧ r'.formats = r.formats := by
  simp only [loadDescriptions, onDescriptions_eq_ok]
  refine ⟨?_, fun r' => ?_⟩
  · constructor
    · intro h
      obtain ⟨_, descriptions, hload, -⟩ := h
      exact Descriptions.exists_load.1 ⟨descriptions, hload⟩
    · intro h
      obtain ⟨descriptions, hload⟩ := Descriptions.exists_load.2 h
      exact ⟨_, descriptions, hload, rfl⟩
  · simp only [Descriptions.load_eq_ok_iff]
    constructor
    · intro h
      obtain ⟨descriptions, ⟨hresolves, hmade⟩, rfl⟩ := h
      exact ⟨hresolves, hmade, rfl, rfl⟩
    · intro h
      obtain ⟨profile, formats, descriptions⟩ := r'
      obtain ⟨hresolves, hmade, rfl, rfl⟩ := h
      exact ⟨descriptions, ⟨hresolves, hmade⟩, rfl⟩

end

/-- The general description is complete, that of mobile numbers says nothing of its own, and those
of fixed-line and emergency numbers say something. -/
def partlyDescribedTerritory : Element where
  name := Schema.territory
  children := [
    ("fixedLine", [("nationalNumberPattern", " 2\\d{4} ")]),
    ("generalDesc", [("possibleNumberPattern", "\\d{5,6}"), ("exampleNumber", " 12345"),
      ("nationalNumberPattern", "[1-9]\n\\d{4,5}")]),
    ("mobile", []),
    ("emergency", [("nationalNumberPattern", "112"), ("possibleNumberPattern", "\\d{3}"),
      ("exampleNumber", "112")])].map fun (name, parts) =>
        { name, children := parts.map fun (name, text) => { name, text } }

def describedRecord : Record where
  descriptions := { of := fun _ => ⟨"\\d", "1", "1"⟩, sameMobileAndFixedLine := true }

theorem Record.loadDescriptions_partlyDescribed :
    ∃ r', (loadDescriptions partlyDescribedTerritory false).run describedRecord = .ok () r' ∧
      r'.descriptions.AreOf partlyDescribedTerritory false ∧
      r'.description (.ofType .fixedLine) = ⟨"\\d{5,6}", "2\\d{4}", " 12345"⟩ ∧
      r'.description (.ofType .mobile) = ⟨"\\d{5,6}", "[1-9]\\d{4,5}", " 12345"⟩ ∧
      r'.description .emergency = ⟨"\\d{3}", "112", "112"⟩ ∧
      r'.description (.ofType .pager) = ⟨"NA", "NA", "NA"⟩ ∧
      r'.descriptions.sameMobileAndFixedLine = false := by
  have hr : ∃ r', (loadDescriptions partlyDescribedTerritory false).run describedRecord =
        .ok () r' ∧
      r'.description (.ofType .fixedLine) = ⟨"\\d{5,6}", "2\\d{4}", " 12345"⟩ ∧
      r'.description (.ofType .mobile) = ⟨"\\d{5,6}", "[1-9]\\d{4,5}", " 12345"⟩ ∧
      r'.description .emergency = ⟨"\\d{3}", "112", "112"⟩ ∧
      r'.description (.ofType .pager) = ⟨"NA", "NA", "NA"⟩ ∧
      r'.descriptions.sameMobileAndFixedLine = false := ⟨_, rfl, rfl, rfl, rfl, rfl, rfl⟩
  obtain ⟨r', hload, hfields⟩ := hr
  obtain ⟨-, hof, -⟩ := ((loadDescriptions_inherit _ _ _).2 r').1 hload
  exact ⟨r', hload, hof, hfields⟩

end NumberingPlan
