import NumberingPlan.Pattern.Standard
import NumberingPlan.Proofs.Territory.Consistency
import NumberingPlan.Proofs.Territory.Defects

/-! The national side of one rule, loaded into a draft that may hold anything already. Leading
digits are put behind those of the draft one at a time, then the pattern of the draft is replaced,
then its format; where one of them is wrong, what was changed before it stays changed. Main
statement: `FormatDraft.loadNational_leaves`. -/
namespace NumberingPlan

section
variable [Pattern.Engine]

variable {rule : Element} {fault : Fault} {d d' : FormatDraft}

namespace FormatDraft

def addDigits (es : List Element) (d : FormatDraft) : FormatDraft :=
  { d with leadingDigits := d.leadingDigits ++ es.map fun e => Text.withoutBlanks e.text }

def withPatterns (rule : Element) (d : FormatDraft) : FormatDraft :=
  { d.addDigits (rule.childrenNamed Schema.leadingDigits) with
    pattern := (rule.attribute? Schema.pattern).getD "" }

structure SameRules (d d' : FormatDraft) : Prop where
  nationalPrefixRule : d'.nationalPrefixRule = d.nationalPrefixRule
  carrierCodeRule : d'.carrierCodeRule = d.carrierCodeRule
  nationalPrefixOptional : d'.nationalPrefixOptional = d.nationalPrefixOptional

end FormatDraft

structure Element.HasPatterns (rule : Element) : Prop where
  leadingDigits : ∀ d ∈ rule.childrenNamed Schema.leadingDigits, IsLoosePattern d.text
  pattern : IsPattern ((rule.attribute? Schema.pattern).getD "")

/-- How loading the national side of a rule into a draft ends, and the draft it leaves. -/
inductive Element.Leaves (rule : Element) (d : FormatDraft) :
    EStateM.Result Fault FormatDraft String → Prop
  | digitsFault {before after : List Element} {e : Element} {defect : Pattern.Defect}
    (hdigits : rule.childrenNamed Schema.leadingDigits = before ++ e :: after)
    (hbefore : ∀ x ∈ before, IsLoosePattern x.text)
    (h : Pattern.compile (Text.withoutBlanks e.text).toList = .error defect) :
    Leaves rule d
      (.error (.invalidPattern (Text.withoutBlanks e.text) defect) (d.addDigits before))
  | patternFault {pattern : String} {defect : Pattern.Defect}
    (hdigits : ∀ x ∈ rule.childrenNamed Schema.leadingDigits, IsLoosePattern x.text)
    (hpattern : (rule.attribute? Schema.pattern).getD "" = pattern)
    (h : Pattern.compile pattern.toList = .error defect) :
    Leaves rule d (.error (.invalidPattern pattern defect)
      (d.addDigits (rule.childrenNamed Schema.leadingDigits)))
  | countFault {k : Nat} (hpatterns : rule.HasPatterns)
    (hk : (rule.childrenNamed Schema.format).length = k) (h : k ≠ 1) :
    Leaves rule d (.error (.formatCount k) (d.withPatterns rule))
  | loaded {f : Element} (hpatterns : rule.HasPatterns)
    (hf : rule.childrenNamed Schema.format = [f]) :
    Leaves rule d (.ok f.text { d.withPatterns rule with format := some f.text })

theorem Element.Leaves.sameRules {result : EStateM.Result Fault FormatDraft String}
    (h : rule.Leaves d result) : d.SameRules (remains result) := by
  cases h <;> exact ⟨rfl, rfl, rfl⟩

theorem checkBarePattern_eq_ok {s p : String} :
    checkBarePattern s = .ok p ↔ IsLoosePattern s ∧ p = Text.withoutBlanks s :=
  checkPattern_eq_ok

theorem mapM_checkBarePattern_eq_ok {es : List Element} {ps : List String} :
    es.mapM (fun e => checkBarePattern e.text) = .ok ps ↔
      (∀ e ∈ es, IsLoosePattern e.text) ∧ ps = es.map fun e => Text.withoutBlanks e.text := by
  constructor
  · intro h
    have hall := exists_mapM.1 ⟨ps, h⟩
    exact ⟨fun e he => exists_checkBarePattern.1 (hall e he), withoutBlanks_of_checked h⟩
  · intro h
    obtain ⟨hall, rfl⟩ := h
    obtain ⟨ps, hps⟩ := exists_mapM.2 fun e he => exists_checkBarePattern.2 (hall e he)
    rw [hps, withoutBlanks_of_checked hps]

namespace FormatDraft

theorem loadLeadingDigits_eq_ok_iff {es : List Element} :
    (loadLeadingDigits es).run d = .ok () d' ↔
      (∀ e ∈ es, IsLoosePattern e.text) ∧ d' = d.addDigits es := by
  simp only [loadLeadingDigits_eq_ok, mapM_checkBarePattern_eq_ok]
  constructor
  · intro h
    obtain ⟨_, ⟨hall, rfl⟩, rfl⟩ := h
    exact ⟨hall, rfl⟩
  · intro h
    obtain ⟨hall, rfl⟩ := h
    exact ⟨_, ⟨hall, rfl⟩, rfl⟩

/-- The digits before the first text that is no pattern have been added. -/
theorem loadLeadingDigits_eq_error {es : List Element} :
    (loadLeadingDigits es).run d = .error fault d' ↔
      ∃ before e after, es = before ++ e :: after ∧ (∀ x ∈ before, IsLoosePattern x.text) ∧
        checkBarePattern e.text = .error fault ∧ d' = d.addDigits before := by
  -- what has been added stands in the draft, so the induction is over all drafts
  induction es generalizing d with
  | nil => simp [loadLeadingDigits]
  | cons e es ih =>
    rw [exists_split_cons]
    simp only [loadLeadingDigits, run_bind_eq_error, run_ofExcept_eq_error, run_ofExcept_eq_ok,
      run_modify_eq_error, run_modify_eq_ok, ih, checkBarePattern_eq_ok, List.forall_mem_cons]
    constructor
    · intro h
      rcases h with ⟨he, rfl⟩ | ⟨_, _, ⟨⟨hloose, rfl⟩, rfl⟩, hfalse | ⟨_, _, rfl, h⟩⟩
      · exact .inl ⟨by simp, he, by simp [addDigits]⟩
      · exact hfalse.elim
      · obtain ⟨before, x, after, hsplit, hbefore, hx, rfl⟩ := h
        exact .inr ⟨before, x, after, hsplit, ⟨hloose, hbefore⟩, hx, by simp [addDigits]⟩
    · intro h
      rcases h with ⟨-, he, rfl⟩ | ⟨before, x, after, hsplit, ⟨hloose, hbefore⟩, hx, rfl⟩
      · exact .inl ⟨he, by simp [addDigits]⟩
      · exact .inr ⟨_, d, ⟨⟨hloose, rfl⟩, rfl⟩, .inr ⟨(), _, rfl, before, x, after, hsplit, hbefore,
          hx, by simp [addDigits]⟩⟩

theorem loadPatterns_eq_ok_iff :
    (loadPatterns rule).run d = .ok () d' ↔ rule.HasPatterns ∧ d' = d.withPatterns rule := by
  constructor
  · intro h
    obtain ⟨hdigits, hpattern⟩ := exists_loadPatterns.1 ⟨d', h⟩
    exact ⟨⟨hdigits, hpattern⟩, loadPatterns_eq h⟩
  · intro h
    obtain ⟨hpatterns, rfl⟩ := h
    obtain ⟨m, hm⟩ := exists_loadPatterns (d := d).2 ⟨hpatterns.leadingDigits, hpatterns.pattern⟩
    rw [hm, loadPatterns_eq hm]
    rfl

theorem loadPatterns_eq_error :
    (loadPatterns rule).run d = .error fault d' ↔
      (loadLeadingDigits (rule.childrenNamed Schema.leadingDigits)).run d = .error fault d' ∨
      (loadLeadingDigits (rule.childrenNamed Schema.leadingDigits)).run d = .ok () d' ∧
        checkPattern ((rule.attribute? Schema.pattern).getD "") = .error fault := by
  simp only [loadPatterns, run_bind_eq_error, run_ofExcept_eq_error, run_modify_eq_error,
    and_false, exists_false, or_false]
  refine or_congr_right ?_
  constructor
  · intro h
    obtain ⟨_, m, hm, hp, rfl⟩ := h
    exact ⟨hm, hp⟩
  · intro h
    exact ⟨(), d', h.1, h.2, rfl⟩

omit [Pattern.Engine] in
theorem onlyFormat_eq_error :
    onlyFormat rule = .error fault ↔
      ∃ n, (rule.childrenNamed Schema.format).length = n ∧ n ≠ 1 ∧ fault = .formatCount n := by
  unfold onlyFormat
  split
  case h_1 f h => simp [h]
  case h_2 hne =>
    have hone : (rule.childrenNamed Schema.format).length ≠ 1 := by
      intro hone
      obtain ⟨f, hf⟩ := List.length_eq_one_iff.1 hone
      exact hne f hf
    simp [hone, eq_comm]

/-- A rule without its format has its patterns. -/
theorem loadNational_eq_error :
    (loadNational rule).run d = .error fault d' ↔
      (loadPatterns rule).run d = .error fault d' ∨
      (loadPatterns rule).run d = .ok () d' ∧ onlyFormat rule = .error fault := by
  simp only [loadNational, run_bind_eq_error, run_ofExcept_eq_error, run_modify_eq_error,
    EStateM.run_pure, reduceCtorEq, and_false, exists_false, or_false]
  refine or_congr_right ?_
  constructor
  · intro h
    obtain ⟨_, m, hm, hf, rfl⟩ := h
    exact ⟨hm, hf⟩
  · intro h
    exact ⟨(), d', h.1, h.2, rfl⟩

theorem leaves_of_loadNational : rule.Leaves d ((loadNational rule).run d) := by
  cases h : (loadNational rule).run d with
  | ok format d' =>
    obtain ⟨m, hm, hformat, rfl⟩ := loadNational_eq_ok.1 h
    obtain ⟨hpatterns, rfl⟩ := loadPatterns_eq_ok_iff.1 hm
    obtain ⟨f, hf, rfl⟩ := onlyFormat_eq_ok.1 hformat
    exact .loaded hpatterns hf
  | error fault d' =>
    rcases loadNational_eq_error.1 h with h | ⟨hm, hformat⟩
    · rcases loadPatterns_eq_error.1 h with h | ⟨hm, hpattern⟩
      · obtain ⟨before, e, after, hsplit, hbefore, hcheck, rfl⟩ := loadLeadingDigits_eq_error.1 h
        obtain ⟨defect, hdefect, rfl⟩ := checkPattern_eq_error.1 hcheck
        exact .digitsFault hsplit hbefore hdefect
      · obtain ⟨hdigits, rfl⟩ := loadLeadingDigits_eq_ok_iff.1 hm
        obtain ⟨defect, hdefect, rfl⟩ := checkPattern_eq_error.1 hpattern
        exact .patternFault hdigits rfl hdefect
    · obtain ⟨hpatterns, rfl⟩ := loadPatterns_eq_ok_iff.1 hm
      obtain ⟨k, hk, hne, rfl⟩ := onlyFormat_eq_error.1 hformat
      exact .countFault hpatterns hk hne

theorem loadNational_of_leaves {result : EStateM.Result Fault FormatDraft String}
    (h : rule.Leaves d result) : (loadNational rule).run d = result := by
  cases h with
  | digitsFault hdigits hbefore hdefect =>
    have hcheck := checkPattern_eq_error.2 ⟨_, hdefect, rfl⟩
    have hload := loadLeadingDigits_eq_error (d := d).2 ⟨_, _, _, hdigits, hbefore, hcheck, rfl⟩
    exact loadNational_eq_error.2 (.inl (loadPatterns_eq_error.2 (.inl hload)))
  | patternFault hdigits hpattern hdefect =>
    subst hpattern
    have hload := loadLeadingDigits_eq_ok_iff (d := d).2 ⟨hdigits, rfl⟩
    have hcheck := checkPattern_eq_error.2 ⟨_, hdefect, rfl⟩
    exact loadNational_eq_error.2 (.inl (loadPatterns_eq_error.2 (.inr ⟨hload, hcheck⟩)))
  | countFault hpatterns hk hne =>
    have hload := loadPatterns_eq_ok_iff (d := d).2 ⟨hpatterns, rfl⟩
    exact loadNational_eq_error.2 (.inr ⟨hload, onlyFormat_eq_error.2 ⟨_, hk, hne, rfl⟩⟩)
  | @loaded f hpatterns hf =>
    have hload := loadPatterns_eq_ok_iff (d := d).2 ⟨hpatterns, rfl⟩
    exact loadNational_eq_ok.2 ⟨_, hload, onlyFormat_eq_ok.2 ⟨f, hf, rfl⟩, rfl⟩

/-- Loading the national side of a rule ends in one of four ways, whatever the draft holds: at the
first leading digits that are no pattern, at the pattern, at the number of formats, or with the only
format as its result. Each leaves the draft as far as it came, and none touches the formatting
rules or the switch of the draft. -/
theorem loadNational_leaves (rule : Element) (d : FormatDraft) :
    (∀ result, (loadNational rule).run d = result ↔ rule.Leaves d result) ∧
      d.SameRules (remains ((loadNational rule).run d)) := by
  refine ⟨fun result => ⟨?_, loadNational_of_leaves⟩, leaves_of_loadNational.sameRules⟩
  intro h
  exact h ▸ leaves_of_loadNational

end FormatDraft

end

namespace FormatDraft

def usedDraft : FormatDraft where
  pattern := "(\\d)"
  format := some "$1"
  leadingDigits := ["1"]
  carrierCodeRule := "$CC $1"
  nationalPrefixOptional := true

def twiceFormatted (digits : List String) : Element where
  name := Schema.numberFormat
  attributes := [("pattern", "(\\d+)")]
  children := digits.map (fun text => { name := "leadingDigits", text }) ++
    ["$1", "$1-$1"].map fun text => { name := "format", text }

example : (loadNational (twiceFormatted [" 2 3", "4"])).run usedDraft =
    .error (.formatCount 2)
      { usedDraft with leadingDigits := ["1", "23", "4"], pattern := "(\\d+)" } := rfl

example : (loadNational (twiceFormatted [" 2 3", "[ ", "4"])).run usedDraft =
    .error (.invalidPattern "[" .malformed) { usedDraft with leadingDigits := ["1", "23"] } := rfl

end FormatDraft

end NumberingPlan
