import NumberingPlan.Proofs.Emergency.Binding

/-! A star in front of a number that has to be an emergency number itself. It is dropped before the
separators are; so it counts where dashes stand in front of it. Main statement:
`Registry.isEmergency_separatorsFirst_iff`, only such numbers are answered differently if the
separators are dropped first. -/
namespace NumberingPlan
open Pattern

def isSeparator (c : Char) : Bool := Text.isBlank c || dashes.contains c

theorem digitValue?_of_isBlank {c : Char} (h : Text.isBlank c = true) :
    Text.digitValue? c = none := by
  -- every run of digits lies between two neighbouring stretches of blanks
  have hgaps : ∀ z ∈ Text.zeros, (0x21 ≤ z ∧ z + 10 ≤ 0x85) ∨ (0xA1 ≤ z ∧ z + 10 ≤ 0x1680) ∨
      (0x1681 ≤ z ∧ z + 10 ≤ 0x2000) ∨ (0x2060 ≤ z ∧ z + 10 ≤ 0x3000) ∨ 0x3001 ≤ z := by
    decide
  have hoff : ∀ z ∈ Text.zeros, ¬ (z ≤ c.toNat ∧ c.toNat < z + 10) := by
    intro z hz
    have hgap := hgaps z hz
    simp only [Text.isBlank, Bool.or_eq_true, Bool.and_eq_true, decide_eq_true_eq, beq_iff_eq] at h
    omega
  simpa [Text.digitValue?] using hoff

theorem digitValue?_of_isSeparator {c : Char} (h : isSeparator c = true) :
    Text.digitValue? c = none := by
  rcases Bool.or_eq_true_iff.1 h with hblank | hdash
  · exact digitValue?_of_isBlank hblank
  · have hmem : c ∈ dashes := List.contains_iff_mem.1 hdash
    simp only [dashes, List.mem_cons, List.not_mem_nil, or_false] at hmem
    rcases hmem with rfl | rfl | rfl | rfl | rfl | rfl | rfl | rfl | rfl <;> rfl

theorem digitValue?_lt {c : Char} {d : Nat} (h : Text.digitValue? c = some d) : d < 10 := by
  obtain ⟨z, hz, rfl⟩ := Option.map_eq_some_iff.1 h
  have hrun := List.find?_some hz
  simp only [Bool.and_eq_true, decide_eq_true_eq] at hrun
  omega

/-- Writing digits in ASCII neither makes nor removes separators. -/
theorem isSeparator_toAsciiDigit (c : Char) :
    isSeparator (Text.toAsciiDigit c) = isSeparator c := by
  have hascii : ∀ d < 10, isSeparator (Text.asciiDigit d) = false := by decide
  unfold Text.toAsciiDigit
  cases hd : Text.digitValue? c with
  | none => rfl
  | some d =>
    have hc : isSeparator c = false := by
      rw [Bool.eq_false_iff]
      intro hsep
      rw [digitValue?_of_isSeparator hsep] at hd
      cases hd
    rw [hc]
    exact hascii d (digitValue?_lt hd)

/-- What is no digit stays as it is, and no digit becomes it. -/
theorem toAsciiDigit_eq {c x : Char} (hx : Text.digitValue? x = none) :
    Text.toAsciiDigit c = x ↔ c = x := by
  have hascii : ∀ d < 10, Text.digitValue? (Text.asciiDigit d) ≠ none := by decide
  constructor
  · intro h
    unfold Text.toAsciiDigit at h
    cases hd : Text.digitValue? c with
    | none =>
      rw [hd] at h
      exact h
    | some d =>
      rw [hd] at h
      change Text.asciiDigit d = x at h
      rw [← h] at hx
      exact absurd hx (hascii d (digitValue?_lt hd))
  · intro h
    rw [h, Text.toAsciiDigit, hx]

theorem toAsciiDigit_eq_star {c : Char} : Text.toAsciiDigit c = '*' ↔ c = '*' :=
  toAsciiDigit_eq rfl

def plainText (cs : List Char) : List Char :=
  (cs.map Text.toAsciiDigit).filter fun c => !isSeparator c

theorem plainText_eq (cs : List Char) :
    plainText cs = (cs.filter fun c => !isSeparator c).map Text.toAsciiDigit := by
  rw [plainText, List.filter_map]
  congr 2
  funext c
  simp only [Function.comp_apply, isSeparator_toAsciiDigit]

theorem plainText_cons_star (cs : List Char) : plainText ('*' :: cs) = '*' :: plainText cs := by
  have hstar : isSeparator '*' = false := by decide
  have hdigit : Text.toAsciiDigit '*' = '*' := by decide
  simp [plainText, hdigit, hstar]

theorem plainText_cons_separator {c : Char} (hc : isSeparator c = true) (cs : List Char) :
    plainText (c :: cs) = plainText cs := by
  rw [plainText_eq, plainText_eq, List.filter_cons_of_neg (by simp [hc])]

theorem plainText_dropWhile (cs : List Char) :
    plainText (cs.dropWhile Text.isBlank) = plainText cs := by
  induction cs with
  | nil => rfl
  | cons c cs ih =>
    cases hc : Text.isBlank c with
    | false => rw [List.dropWhile_cons_of_neg (by simp [hc])]
    | true =>
      have hsep : isSeparator c = true := by simp [isSeparator, hc]
      rw [List.dropWhile_cons_of_pos hc, ih, plainText_cons_separator hsep]

/-- A star is left in front exactly where nothing but separators stood before it. -/
theorem head?_plainText {cs : List Char} :
    (plainText cs).head? = some '*' ↔ cs.find? (fun c => !isSeparator c) = some '*' := by
  rw [plainText_eq, List.head?_map, List.head?_filter, Option.map_eq_some_iff]
  constructor
  · intro h
    obtain ⟨c, hc, hstar⟩ := h
    rw [hc, toAsciiDigit_eq_star.1 hstar]
  · intro h
    exact ⟨'*', h, by decide⟩

/-- What a number is if separators are dropped first, and then a star in front of what is left. -/
def separatorsFirst (number : String) : List Char :=
  let plain := plainText number.toList
  if plain.head? = some '*' then plain.tail else plain

/-- The first character that is no blank is a dash, and the first that is no separator a star. -/
def HidesStar (number : String) : Prop :=
  (∃ c ∈ dashes, number.toList.find? (fun c => !Text.isBlank c) = some c) ∧
    number.toList.find? (fun c => !isSeparator c) = some '*'

theorem textOf_exactly_eq (number : String) :
    Dialling.exactly.textOf number =
      let front := number.toList.dropWhile Text.isBlank
      plainText (if front.head? = some '*' then front.tail else front) := by
  simp [Dialling.textOf, plainText, isSeparator]

/-- A star behind dashes is still there. -/
theorem textOf_of_hidesStar {number : String} (h : HidesStar number) :
    Dialling.exactly.textOf number = '*' :: separatorsFirst number := by
  obtain ⟨⟨c, hdash, hfirst⟩, hstar⟩ := h
  have hfront : (number.toList.dropWhile Text.isBlank).head? ≠ some '*' := by
    rw [← List.find?_not_eq_head?_dropWhile, hfirst]
    intro heq
    cases heq
    revert hdash
    decide
  have hplain : (plainText number.toList).head? = some '*' := head?_plainText.2 hstar
  rw [textOf_exactly_eq, separatorsFirst]
  simp only [hfront, if_false, hplain, if_true, plainText_dropWhile]
  exact (List.cons_head?_tail hplain).symm

theorem textOf_of_not_hidesStar {number : String} (h : ¬ HidesStar number) :
    Dialling.exactly.textOf number = separatorsFirst number := by
  rw [textOf_exactly_eq, separatorsFirst, ← plainText_dropWhile number.toList]
  have hfirst := List.find?_not_eq_head?_dropWhile Text.isBlank number.toList
  cases hfront : number.toList.dropWhile Text.isBlank with
  | nil => rfl
  | cons c rest =>
    by_cases hc : c = '*'
    · subst hc
      simp [plainText_cons_star]
    · have hhead : (plainText (c :: rest)).head? ≠ some '*' := by
        intro hstar
        rw [hfront, List.head?_cons] at hfirst
        have hblank : Text.isBlank c = false := by simpa using List.find?_some hfirst
        have hdash : c ∈ dashes := by
          by_contra hno
          have hsep : isSeparator c = false := by simp [isSeparator, hblank, hno]
          rw [head?_plainText, List.find?_cons_of_pos (by simp [hsep])] at hstar
          exact hc (Option.some.inj hstar)
        rw [← hfront, plainText_dropWhile, head?_plainText] at hstar
        exact h ⟨⟨c, hdash, hfirst⟩, hstar⟩
      simp [hc, hhead]

def pairTree : Pattern.Tree Atom :=
  .cat (.atom (.one .all)) (.cat (.atom (.one .all)) .empty)

theorem Pattern.CharSet.mem_all (c : Char) : CharSet.all.mem c = true := by
  have hle : c.toNat ≤ 0x10FFFF := by
    have hvalid := c.valid
    unfold UInt32.isValidChar Nat.isValidChar at hvalid
    change c.val.toNat ≤ _
    omega
  simp only [CharSet.all, CharSet.mem, Bool.and_eq_true, decide_eq_true_eq]
  exact ⟨Nat.zero_le _, hle⟩

theorem spans_pairTree {text : List Char} {i j : Nat} :
    pairTree.Spans text i j ↔ j = i + 2 ∧ j ≤ text.length := by
  have hone : ∀ i j, (Atom.one .all).Spans text i j ↔ j = i + 1 ∧ j ≤ text.length := by
    intro i j
    simp only [Atom.Spans, CharSet.mem_all, and_true]
    constructor
    · intro h
      obtain ⟨rfl, c, hc⟩ := h
      exact ⟨rfl, (List.getElem?_eq_some_iff.1 hc).1⟩
    · intro h
      exact ⟨h.1, text[i], List.getElem?_eq_getElem (by omega)⟩
  simp only [pairTree, Pattern.Tree.Spans, Pattern.Tree.Path, hone]
  constructor
  · intro h
    obtain ⟨m, hm, n, hn, rfl⟩ := h
    omega
  · intro h
    exact ⟨i + 1, by omega, j, by omega, rfl⟩

theorem chain_pairTree {text : List Char} {k i j : Nat} (hi : i ≤ text.length) :
    Chain (pairTree.Spans text) k i j ↔ j = i + 2 * k ∧ j ≤ text.length := by
  induction k generalizing i with
  | zero =>
    simp only [Chain]
    omega
  | succ k ih =>
    constructor
    · intro h
      obtain ⟨m, him, hmj⟩ := h
      have hm := spans_pairTree.1 him
      have hj := (ih hm.2).1 hmj
      omega
    · intro h
      have hm : i + 2 ≤ text.length := by omega
      exact ⟨i + 2, spans_pairTree.2 ⟨rfl, hm⟩, (ih hm).2 (by omega)⟩

def evenLength : Description := { national := "(?s:..)*" }

section
variable [Engine]

/-- Whether a text is one of the numbers of a description; none is where there are no numbers, or
where the pattern does not compile. -/
def Description.accepts (d : Description) (dialling : Dialling) (text : List Char) : Bool :=
  d.hasNationalNumbers &&
    (compile (dialling.anchor d.national).toList).toOption.any (·.isMatch text)

theorem Description.accepts_iff {d : Description} {dialling : Dialling} {text : List Char} :
    d.accepts dialling text = true ↔
      d.hasNationalNumbers = true ∧ FoundIn (dialling.anchor d.national).toList text := by
  rw [accepts, Bool.and_eq_true, FoundIn]
  refine and_congr_right fun _ => ?_
  cases compile (dialling.anchor d.national).toList with
  | error e => simp [Except.toOption]
  | ok t => simp [Except.toOption, Pattern.Tree.isMatch_iff]

theorem Registry.isEmergency_eq_accepts {g : Registry} {number region : String} {r : Record}
    (hr : g.record? region = some r) (h : Domestic number) :
    g.isEmergency number region =
      (r.description .emergency).accepts .exactly (Dialling.exactly.textOf number) := by
  rw [Bool.eq_iff_iff, isEmergency, answer_eq_true, Description.accepts_iff]
  simp [h, hr]

theorem accepts_evenLength {text : List Char} :
    evenLength.accepts .exactly text = true ↔ text.length % 2 = 0 := by
  have hcompile : compile evenLength.national.toList = .ok (.cat (.rep pairTree 0 none) .empty) :=
    compile_eq_ok.2 ⟨_, rfl, by decide, Engine.fits_short (by decide) (by decide), rfl⟩
  have hbound : Compiles (Dialling.exactly.anchor evenLength.national).toList :=
    compiles_of_short ⟨_, rfl, by decide⟩ (by decide) (by decide)
  have hnumbers : evenLength.hasNationalNumbers = true := by decide
  rw [Description.accepts_iff, Dialling.foundIn_anchor hcompile hbound, Dialling.isMatch_exactly]
  have hrep : Pattern.Tree.Spans (.cat (.rep pairTree 0 none) .empty) text 0 text.length ↔
      ∃ k, Chain (pairTree.Spans text) k 0 text.length := by
    simp only [Pattern.Tree.Spans, Pattern.Tree.Path, exists_eq_right, Option.mem_def,
      reduceCtorEq, false_implies, implies_true, true_and, Nat.zero_add]
    rfl
  simp only [hnumbers, true_and, hrep, chain_pairTree (Nat.zero_le _)]
  constructor
  · intro h
    obtain ⟨k, hk⟩ := h
    omega
  · intro h
    exact ⟨text.length / 2, by omega⟩

namespace Registry

/-- Separators may as well be dropped before the star, except where they hide it. -/
theorem isEmergency_separatorsFirst_iff {number : String} (h : Domestic number) :
    (∀ (g : Registry) (region : String) (r : Record), g.record? region = some r →
        g.isEmergency number region =
          (r.description .emergency).accepts .exactly (separatorsFirst number)) ↔
      ¬ HidesStar number := by
  constructor
  · intro hall hstar
    -- one character more or less decides whether a text has an even length
    have hrecord : (ofRecords [.ofEmergency "XX" evenLength.national]).record? "XX" =
        some (.ofEmergency "XX" evenLength.national) := rfl
    have hdescription : (Record.ofEmergency "XX" evenLength.national).description .emergency =
        evenLength := rfl
    have heq := hall _ "XX" _ hrecord
    rw [isEmergency_eq_accepts hrecord h, textOf_of_hidesStar hstar, hdescription,
      Bool.eq_iff_iff, accepts_evenLength, accepts_evenLength, List.length_cons] at heq
    omega
  · intro hstar g region r hr
    rw [isEmergency_eq_accepts hr h, textOf_of_not_hidesStar hstar]

end Registry

end

namespace Registry

theorem separatorsFirst_hiddenStar :
    Domestic " -*911" ∧ HidesStar " -*911" ∧
      ¬ ∀ (g : Registry) (region : String) (r : Record), g.record? region = some r →
        g.isEmergency " -*911" region =
          (r.description .emergency).accepts .exactly (separatorsFirst " -*911") := by
  have hdomestic : Domestic " -*911" := by decide
  have hstar : HidesStar " -*911" := ⟨⟨'-', by decide, by decide⟩, by decide⟩
  exact ⟨hdomestic, hstar, fun hall =>
    (isEmergency_separatorsFirst_iff hdomestic).1 hall hstar⟩

theorem not_forall_isEmergency_separatorsFirst :
    ¬ ∀ (g : Registry) (region : String) (r : Record) (number : String),
      g.record? region = some r → Domestic number →
      g.isEmergency number region =
        (r.description .emergency).accepts .exactly (separatorsFirst number) := by
  intro hall
  have hrecord : (ofRecords [.ofEmergency "XX" "911"]).record? "XX" =
      some (.ofEmergency "XX" "911") := rfl
  have hanswer : (ofRecords [.ofEmergency "XX" "911"]).isEmergency " -*911" "XX" = false := rfl
  have hexpected : ((Record.ofEmergency "XX" "911").description .emergency).accepts .exactly
      (separatorsFirst " -*911") = true := rfl
  have heq := hall _ "XX" _ " -*911" hrecord (by decide)
  rw [hanswer, hexpected] at heq
  exact Bool.false_ne_true heq

end Registry

end NumberingPlan
