import NumberingPlan.Pattern.Reader

/-! From the text of a pattern to its tree. -/
namespace NumberingPlan.Pattern

/-- Why a text is refused as a pattern. -/
inductive Defect where
  | malformed
  /-- Well formed, but too large to be compiled. -/
  | tooBig
  deriving DecidableEq, Repr

/-- How deep a pattern may nest. -/
def depthLimit : Nat := 250

/-- The reading of a whole text, before its depth and size are looked at. -/
def parse? [PropertyTable] (text : List Char) : Option Part :=
  (Reader.feed {} text).bind Reader.finish?

/-- The syntax check lets the text through. -/
def WellFormed [PropertyTable] (text : List Char) : Prop :=
  ∃ p, parse? text = some p ∧ p.depth ≤ depthLimit

/-- What reading a pattern leaves open: which properties have a name, and which texts stay within
the size limit once they are compiled. -/
class Engine extends PropertyTable where
  fits : List Char → Bool
  /-- Only a count in braces makes much of a short text. -/
  fits_short : ∀ {text : List Char}, text.length ≤ 16 → '{' ∉ text → fits text = true
  /-- No pattern gets smaller by a dollar sign at its end. -/
  fits_of_dollar : ∀ {text : List Char}, WellFormed text → WellFormed (text ++ ['$']) →
    fits (text ++ ['$']) = true → fits text = true

variable [Engine]

def compile (text : List Char) : Except Defect (Tree Atom) :=
  match parse? text with
  | none => .error .malformed
  | some p =>
    if depthLimit < p.depth then .error .malformed
    else if Engine.fits text then .ok p.tree
    else .error .tooBig

def Compiles (text : List Char) : Prop := ∃ t, compile text = .ok t

instance (text : List Char) : Decidable (Compiles text) :=
  match h : compile text with
  | .ok t => .isTrue ⟨t, h⟩
  | .error d => .isFalse fun ⟨t, ht⟩ => by simp [h] at ht

theorem compile_eq_ok {text : List Char} {t : Tree Atom} :
    compile text = .ok t ↔
      ∃ p, parse? text = some p ∧ p.depth ≤ depthLimit ∧ Engine.fits text = true ∧ p.tree = t := by
  unfold compile
  cases parse? text with
  | none => simp
  | some p =>
    simp only [Option.some.injEq, exists_eq_left', ← Nat.not_lt]
    split
    case isTrue hd => simp [hd]
    case isFalse hd => cases Engine.fits text <;> simp [hd]

theorem compiles_iff {text : List Char} :
    Compiles text ↔ WellFormed text ∧ Engine.fits text = true := by
  simp only [Compiles, compile_eq_ok, WellFormed]
  constructor
  · intro h
    obtain ⟨_, p, hp, hd, hf, -⟩ := h
    exact ⟨⟨p, hp, hd⟩, hf⟩
  · intro h
    obtain ⟨⟨p, hp, hd⟩, hf⟩ := h
    exact ⟨p.tree, p, hp, hd, hf, rfl⟩

theorem compiles_of_short {text : List Char} (h : WellFormed text) (hlength : text.length ≤ 16)
    (hbrace : '{' ∉ text) : Compiles text := compiles_iff.2 ⟨h, Engine.fits_short hlength hbrace⟩

end NumberingPlan.Pattern
