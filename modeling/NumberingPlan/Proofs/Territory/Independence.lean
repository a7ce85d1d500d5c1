import NumberingPlan.Proofs.Territory.Formats
import NumberingPlan.Proofs.Territory.Records

/-! Loading formats beside loading descriptions. Each changes its own part of a record, even where
it fails, and neither looks at what the record holds to find a fault, so the order in which they run
decides only which fault is found first. Main statement: `Record.loaders_independent`. -/
namespace NumberingPlan

section Runs

variable {ε σ α β : Type}

theorem verdict_seq_eq_error {x y : EStateM ε σ Unit} {s : σ} {e : ε} :
    verdict ((do x; y).run s) = .error e ↔
      verdict (x.run s) = .error e ∨
        verdict (x.run s) = .ok () ∧ verdict (y.run (remains (x.run s))) = .error e := by
  rw [verdict_bind, bind_eq_error]
  refine or_congr_right ⟨fun h => ?_, fun h => ⟨(), h⟩⟩
  obtain ⟨⟨⟩, h⟩ := h
  exact h

/-- Whether a run fails, and how, does not depend on the state in which it starts. -/
def Oblivious (x : EStateM ε σ α) : Prop := ∀ s s', verdict (x.run s) = verdict (x.run s')

namespace Oblivious

theorem pure (a : α) : Oblivious (pure a : EStateM ε σ α) := fun _ _ => rfl

theorem modify (f : σ → σ) : Oblivious (modify f : EStateM ε σ PUnit) := fun _ _ => rfl

theorem ofExcept (x : Except ε α) : Oblivious (MonadExcept.ofExcept x : EStateM ε σ α) := by
  intro s s'
  cases x <;> rfl

theorem bind {x : EStateM ε σ α} {f : α → EStateM ε σ β} (hx : Oblivious x)
    (hf : ∀ a, Oblivious (f a)) : Oblivious (x >>= f) := by
  intro s s'
  rw [verdict_bind, verdict_bind, hx s s']
  congr 1
  funext a
  exact hf a _ _

end Oblivious

end Runs

namespace Record

/-- What comes of two loaders run one after the other: if one of them fails, the fault of the first
that does; if neither fails, one record in both orders. -/
structure InEitherOrder (x y : EStateM Fault Record Unit) : Prop where
  stops : ∀ r fault, verdict ((do x; y).run r) = .error fault ↔
    verdict (x.run r) = .error fault ∨
      verdict (x.run r) = .ok () ∧ verdict (y.run r) = .error fault
  stopsSwapped : ∀ r fault, verdict ((do y; x).run r) = .error fault ↔
    verdict (y.run r) = .error fault ∨
      verdict (y.run r) = .ok () ∧ verdict (x.run r) = .error fault
  sameRecord : ∀ r, verdict (x.run r) = .ok () → verdict (y.run r) = .ok () →
    ∃ r', (do x; y).run r = .ok () r' ∧ (do y; x).run r = .ok () r'

/-- A loader of formats and one of descriptions touch different parts of a record, so what the first
to run leaves behind is, for the other, the record it started from. -/
theorem inEitherOrder (x : EStateM Fault Formats Unit) (y : EStateM Fault Descriptions Unit) :
    InEitherOrder (onFormats x) (onDescriptions y) where
  stops r fault := by
    rw [verdict_seq_eq_error, remains_onFormats, verdict_onDescriptions, verdict_onDescriptions]
  stopsSwapped r fault := by
    rw [verdict_seq_eq_error, remains_onDescriptions, verdict_onFormats, verdict_onFormats]
  sameRecord r hx hy := by
    rw [verdict_onFormats] at hx
    rw [verdict_onDescriptions] at hy
    have hx := result_eq_ok.2 ⟨hx, rfl⟩
    have hy := result_eq_ok.2 ⟨hy, rfl⟩
    refine ⟨{ r with
      formats := remains (x.run r.formats)
      descriptions := remains (y.run r.descriptions) }, ?_, ?_⟩
    · refine run_bind_eq_ok.2 ⟨(), _, onFormats_eq_ok.2 ⟨_, hx, rfl⟩, ?_⟩
      exact onDescriptions_eq_ok.2 ⟨_, hy, rfl⟩
    · refine run_bind_eq_ok.2 ⟨(), _, onDescriptions_eq_ok.2 ⟨_, hy, rfl⟩, ?_⟩
      exact onFormats_eq_ok.2 ⟨_, hx, rfl⟩

end Record

variable [Pattern.Engine]

theorem Formats.loadRule_oblivious (defaults : FormatDefaults) (nationalPrefix : String)
    (rule : Element) : Oblivious (loadRule defaults nationalPrefix rule) := by
  refine .bind (.ofExcept _) fun r => ?_
  refine .bind (.modify _) fun _ => ?_
  refine .bind (.ofExcept _) fun i => ?_
  cases i with
  | explicit r => exact .modify _
  | implied r | withheld => exact .pure _

theorem Formats.loadRules_oblivious (defaults : FormatDefaults) (nationalPrefix : String)
    (rules : List Element) : Oblivious (loadRules defaults nationalPrefix rules) := by
  induction rules with
  | nil => exact .pure _
  | cons rule rules ih => exact .bind (loadRule_oblivious defaults nationalPrefix rule) fun _ => ih

theorem Formats.load_oblivious (t : Element) (nationalPrefix nationalPrefixRule : String)
    (nationalPrefixOptional : Bool) :
    Oblivious (load t nationalPrefix nationalPrefixRule nationalPrefixOptional) := by
  rw [load_eq_loadRules]
  exact .bind (.modify _) fun _ => loadRules_oblivious _ _ _

theorem Descriptions.loadEach_oblivious (general : Description) (t : Element) (lite : Bool)
    (cs : List Category) : Oblivious (loadEach general t lite cs) := by
  induction cs with
  | nil => exact .pure _
  | cons c cs ih =>
    refine .bind (.ofExcept _) fun d => ?_
    exact .bind (.modify _) fun _ => ih

theorem Descriptions.load_oblivious (t : Element) (lite : Bool) : Oblivious (load t lite) := by
  refine .bind (.ofExcept _) fun general => ?_
  refine .bind (loadEach_oblivious general t lite _) fun _ => ?_
  exact .modify _

namespace Record

/-- Loading the formats of a territory changes the formats of a record alone and loading the
descriptions of one its descriptions alone, whether they succeed or fail; whether they do, and with
which fault, is up to the territories. So they can be run in either order. -/
theorem loaders_independent (t u : Element) (nationalPrefix nationalPrefixRule : String)
    (nationalPrefixOptional lite : Bool) :
    let onlyFormats := loadFormats t nationalPrefix nationalPrefixRule nationalPrefixOptional
    let onlyDescriptions := loadDescriptions u lite
    (∀ r, ∃ formats, remains (onlyFormats.run r) = { r with formats }) ∧
      (∀ r, ∃ descriptions, remains (onlyDescriptions.run r) = { r with descriptions }) ∧
      Oblivious onlyFormats ∧ Oblivious onlyDescriptions ∧
      InEitherOrder onlyFormats onlyDescriptions := by
  refine ⟨fun r => ⟨_, remains_onFormats _ r⟩, fun r => ⟨_, remains_onDescriptions _ r⟩, ?_, ?_,
    inEitherOrder _ _⟩
  · intro r r'
    rw [loadFormats, verdict_onFormats, verdict_onFormats]
    exact Formats.load_oblivious _ _ _ _ _ _
  · intro r r'
    rw [loadDescriptions, verdict_onDescriptions, verdict_onDescriptions]
    exact Descriptions.load_oblivious _ _ _ _

end Record

end NumberingPlan
