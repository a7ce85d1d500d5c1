import Mathlib.Data.List.TakeWhile
import NumberingPlan.Emergency
import NumberingPlan.Pattern.Path
import NumberingPlan.Proofs.Registry.Lookup
import NumberingPlan.Proofs.Territory.Descriptions

/-! What the answers of a compiled document say of the document itself. Main statement:
`Registry.answers_iff_reaches`. -/
namespace NumberingPlan

def dashes : List Char :=
  ['-', '\u2010', '\u2011', '\u2012', '\u2013', '\u2014', '\u2015', '\u2212', '\uFF0D']

/-- The first character that is no blank is no plus sign. -/
def Domestic (number : String) : Prop :=
  ∀ c, number.toList.find? (fun c => !Text.isBlank c) = some c → c ≠ '+' ∧ c ≠ '\uFF0B'

instance (number : String) : Decidable (Domestic number) :=
  decidable_of_iff ((number.toList.find? fun c => !Text.isBlank c).all
    (fun c => c ≠ '+' ∧ c ≠ '\uFF0B') = true) (by
      rw [Domestic]
      cases number.toList.find? fun c => !Text.isBlank c <;> simp)

/-- What a number is matched as. Only a star at the very front is dropped, and only where the
number has to be an emergency number itself. -/
def Dialling.textOf (d : Dialling) (number : String) : List Char :=
  let front := number.toList.dropWhile Text.isBlank
  let dialled := if d = exactly ∧ front.head? = some '*' then front.tail else front
  (dialled.map Text.toAsciiDigit).filter fun c => !(Text.isBlank c || dashes.contains c)

theorem isDash_eq (c : Char) : isDash c = dashes.contains c := by
  have hval : ∀ d : Char, c = d ↔ c.toNat = d.toNat := fun d => by
    rw [Char.ext_iff, ← UInt32.toNat_inj]
    rfl
  have hle : ∀ d e : Char, d ≤ e ↔ d.toNat ≤ e.toNat := fun d e => Iff.rfl
  rw [Bool.eq_iff_iff]
  simp only [isDash, dashes, List.contains_cons, List.contains_nil, Bool.or_eq_true,
    Bool.and_eq_true, beq_iff_eq, decide_eq_true_eq, hval, hle, Char.reduceToNat]
  simp only [Bool.false_eq_true, or_false]
  omega

theorem dropStar_eq (cs : List Char) :
    dropStar cs = if cs.head? = some '*' then cs.tail else cs := by
  unfold dropStar
  split
  case h_1 => simp
  case h_2 hne =>
    cases cs with
    | nil => simp
    | cons c cs =>
      have hc : c ≠ '*' := fun h => hne cs (by rw [h])
      simp [hc]

theorem Dialling.digits?_eq_some {d : Dialling} {number : String} {cs : List Char} :
    d.digits? number = some cs ↔ Domestic number ∧ cs = d.textOf number := by
  have hhead : (Text.trimLeft number.toList).head? =
      number.toList.find? fun c => !Text.isBlank c :=
    (List.find?_not_eq_head?_dropWhile _ _).symm
  have hplus : (Text.trimLeft number.toList).head?.any isPlus = false ↔ Domestic number := by
    rw [hhead, Domestic]
    cases number.toList.find? fun c => !Text.isBlank c with
    | none => simp
    | some c => simp [isPlus]
  have hconnects : connects.textOf number = plainDigits (Text.trimLeft number.toList) := by
    simp [textOf, plainDigits, isDash_eq, Text.trimLeft]
  have hexactly :
      exactly.textOf number = plainDigits (dropStar (Text.trimLeft number.toList)) := by
    simp [textOf, plainDigits, isDash_eq, dropStar_eq, Text.trimLeft]
  unfold digits?
  by_cases hp : (Text.trimLeft number.toList).head?.any isPlus = true
  · have hno : ¬ Domestic number := fun h => by simp [hplus.2 h] at hp
    simp [hp, hno]
  · have hyes : Domestic number := hplus.1 (by simpa using hp)
    cases d with
    | connects => simp [hp, hyes, hconnects, eq_comm]
    | exactly => simp [hp, hyes, hexactly, eq_comm]

theorem Description.hasNationalNumbers_iff {d : Description} :
    d.hasNationalNumbers = true ↔ d.national ≠ "" ∧ d.national ≠ notApplicable := by
  simp [hasNationalNumbers]

theorem Question.match?_eq_some {q : Question} {g : Registry} {m : String × List Char} :
    q.match? g = some m ↔
      Domestic q.number ∧ ∃ r, g.record? q.region = some r ∧
        (r.description .emergency).hasNationalNumbers = true ∧
        m = (q.dialling.anchor (r.description .emergency).national,
          q.dialling.textOf q.number) := by
  simp only [match?, Option.bind_eq_bind, Option.bind_eq_some_iff, Dialling.digits?_eq_some,
    Option.ite_none_right_eq_some, Option.some.injEq]
  constructor
  · intro h
    obtain ⟨_, ⟨hd, rfl⟩, r, hr, hn, rfl⟩ := h
    exact ⟨hd, r, hr, hn, rfl⟩
  · intro h
    obtain ⟨hd, r, hr, hn, rfl⟩ := h
    exact ⟨_, ⟨hd, rfl⟩, r, hr, hn, rfl⟩

/-- A record that has nothing but an emergency pattern, which need not compile. -/
def Record.ofEmergency (id pattern : String) : Record where
  profile := { id }
  descriptions := ({} : Descriptions).set .emergency { national := pattern }

section
variable [Pattern.Engine]

def Pattern.FoundIn (pattern text : List Char) : Prop :=
  ∃ t, compile pattern = .ok t ∧ ∃ i j, i ≤ text.length ∧ t.Spans text i j

theorem Registry.answer_eq_true {g : Registry} {q : Question} :
    g.answer q = true ↔
      Domestic q.number ∧ ∃ r, g.record? q.region = some r ∧
        (r.description .emergency).hasNationalNumbers = true ∧
        Pattern.FoundIn (q.dialling.anchor (r.description .emergency).national).toList
          (q.dialling.textOf q.number) := by
  have hanswer : g.answer q = true ↔
      ∃ m, q.match? g = some m ∧ Pattern.FoundIn m.1.toList m.2 := by
    unfold answer
    cases q.match? g with
    | none => simp
    | some m =>
      simp only [Option.some.injEq, exists_eq_left', Pattern.FoundIn]
      cases Pattern.compile m.1.toList with
      | error e => simp
      | ok t => simp [Pattern.Tree.isMatch_iff]
  rw [hanswer]
  constructor
  · intro h
    obtain ⟨m, hm, hfound⟩ := h
    obtain ⟨hd, r, hr, hn, rfl⟩ := Question.match?_eq_some.1 hm
    exact ⟨hd, r, hr, hn, hfound⟩
  · intro h
    obtain ⟨hd, r, hr, hn, hfound⟩ := h
    exact ⟨_, Question.match?_eq_some.2 ⟨hd, r, hr, hn, rfl⟩, hfound⟩

/-- What a document has to say for a number to reach the emergency service of a region. -/
def Dialling.Reaches (d : Dialling) (root : Element) (number region : String) : Prop :=
  region ≠ unknownRegion ∧ Domestic number ∧
    ∃ t p, Record.lastTerritory? root region = some t ∧ t.nationalOf? .emergency = some p ∧
      p ≠ "" ∧ p ≠ notApplicable ∧ Pattern.FoundIn (d.anchor p).toList (d.textOf number)

theorem Record.national_ofTerritory {region : String} {t : Element} {lite : Bool} {r : Record}
    (h : Record.ofTerritory region t lite = .ok r) {c : Category} (hc : c ≠ .general) :
    (r.description c).national = (t.nationalOf? c).getD notApplicable :=
  Descriptions.national_of_load (Record.ofTerritory_eq_ok.1 h).2.2 hc

theorem Registry.answer_iff_reaches {root : Element} {lite : Bool} {g : Registry}
    (h : Registry.ofDocument root lite = .ok g) {d : Dialling} {number region : String} :
    g.answer { dialling := d, number, region } = true ↔ d.Reaches root number region := by
  rw [answer_eq_true, Dialling.Reaches]
  constructor
  · intro hanswer
    obtain ⟨hd, r, hr, hn, hfound⟩ := hanswer
    obtain ⟨hz, t, ht, hrecord⟩ := (record?_ofDocument h).1 hr
    obtain ⟨hempty, hna⟩ := Description.hasNationalNumbers_iff.1 hn
    have hnational := Record.national_ofTerritory hrecord (c := .emergency) (by decide)
    cases hp : t.nationalOf? .emergency with
    | none =>
      rw [hp, Option.getD_none] at hnational
      exact absurd hnational hna
    | some p =>
      rw [hp, Option.getD_some] at hnational
      rw [hnational] at hempty hna hfound
      exact ⟨hz, hd, t, p, ht, hp, hempty, hna, hfound⟩
  · intro hreaches
    obtain ⟨hz, hd, t, p, ht, hp, hempty, hna, hfound⟩ := hreaches
    -- the document compiled, so this territory did too
    obtain ⟨r, hr, hrecord⟩ := exists_record h hz ht
    have hnational := Record.national_ofTerritory hrecord (c := .emergency) (by decide)
    rw [hp, Option.getD_some] at hnational
    rw [← hnational] at hempty hna hfound
    exact ⟨hd, r, hr, Description.hasNationalNumbers_iff.2 ⟨hempty, hna⟩, hfound⟩

/-- Whether a number connects to an emergency service, or is an emergency number, is said by the
document alone. -/
theorem Registry.answers_iff_reaches {root : Element} {lite : Bool} {g : Registry}
    (h : Registry.ofDocument root lite = .ok g) (number region : String) :
    (g.connectsToEmergency number region = true ↔
        Dialling.connects.Reaches root number region) ∧
      (g.isEmergency number region = true ↔ Dialling.exactly.Reaches root number region) :=
  ⟨answer_iff_reaches h, answer_iff_reaches h⟩

end

def twiceDescribed : Element where
  name := "phoneNumberMetadata"
  children := [
    { name := Schema.territories
      children := [
        { name := Schema.territory
          attributes := [("id", "XX"), ("countryCode", "1"), ("internationalPrefix", "00")] },
        { name := Schema.territory
          attributes := [("id", "XX"), ("countryCode", "1"), ("internationalPrefix", "00")]
          children := [
            { name := "generalDesc"
              children := [{ name := "nationalNumberPattern", text := "9|9 11" }] },
            { name := "emergency" }] }] }]

theorem Registry.reaches_twiceDescribed :
    ∃ g, Registry.ofDocument twiceDescribed false = .ok g ∧
      Dialling.exactly.Reaches twiceDescribed " *9-1\uFF11" "XX" ∧
      Dialling.connects.Reaches twiceDescribed "912" "XX" ∧
      ¬ Dialling.exactly.Reaches twiceDescribed "912" "XX" := by
  have hg : ∃ g, Registry.ofDocument twiceDescribed false = .ok g ∧
      g.isEmergency " *9-1\uFF11" "XX" = true ∧ g.connectsToEmergency "912" "XX" = true ∧
      g.isEmergency "912" "XX" = false := ⟨_, rfl, rfl, rfl, rfl⟩
  obtain ⟨g, hg, hexact, hconnects, hlonger⟩ := hg
  have hiff := Registry.answers_iff_reaches hg
  refine ⟨g, hg, (hiff _ _).2.1 hexact, (hiff _ _).1.1 hconnects, fun h => ?_⟩
  have htrue := (hiff _ _).2.2 h
  rw [hlonger] at htrue
  exact Bool.false_ne_true htrue

end NumberingPlan
