import NumberingPlan.Pattern.Standard
import NumberingPlan.Proofs.Territory.Reading

/-! Blanks in the texts of patterns. A pattern may be spread over several lines; so territories that
differ in blanks only, and only where a pattern is read without them, compile alike. Main statement:
`Record.ofTerritory_respaced`. -/
namespace NumberingPlan

/-- Two texts that become one when blanks are dropped from either, wherever they stand. -/
inductive Text.SameButBlanks : List Char → List Char → Prop
  | nil : SameButBlanks [] []
  | both (c : Char) {cs ds : List Char} (h : SameButBlanks cs ds) :
      SameButBlanks (c :: cs) (c :: ds)
  | left {c : Char} (hc : isBlank c = true) {cs ds : List Char} (h : SameButBlanks cs ds) :
      SameButBlanks (c :: cs) ds
  | right {c : Char} (hc : isBlank c = true) {cs ds : List Char} (h : SameButBlanks cs ds) :
      SameButBlanks cs (c :: ds)

namespace Text.SameButBlanks

theorem filter_eq {cs ds : List Char} (h : SameButBlanks cs ds) :
    (cs.filter fun c => !isBlank c) = ds.filter fun c => !isBlank c := by
  induction h with
  | nil => rfl
  | both c _ ih => rw [List.filter_cons, List.filter_cons, ih]
  | left hc _ ih => rw [List.filter_cons_of_neg (by simp [hc]), ih]
  | right hc _ ih => rw [List.filter_cons_of_neg (by simp [hc]), ih]

theorem of_filter_eq {cs ds : List Char}
    (h : (cs.filter fun c => !isBlank c) = ds.filter fun c => !isBlank c) :
    SameButBlanks cs ds := by
  induction cs generalizing ds with
  | nil =>
    induction ds with
    | nil => exact .nil
    | cons d ds ih =>
      have hall := List.filter_eq_nil_iff.1 h.symm
      have hd : isBlank d = true := by simpa using hall d List.mem_cons_self
      rw [List.filter_cons_of_neg (by simp [hd])] at h
      exact .right hd (ih h)
  | cons c cs ih =>
    cases hc : isBlank c with
    | true =>
      rw [List.filter_cons_of_neg (by simp [hc])] at h
      exact .left hc (ih h)
    | false =>
      -- the blanks in front of the same sign in the other text
      induction ds with
      | nil => simp [hc] at h
      | cons d ds ihd =>
        cases hd : isBlank d with
        | true =>
          rw [List.filter_cons_of_neg (a := d) (by simp [hd])] at h
          exact .right hd (ihd h)
        | false =>
          rw [List.filter_cons_of_pos (by simp [hc]), List.filter_cons_of_pos (by simp [hd])] at h
          obtain ⟨rfl, htail⟩ := List.cons.inj h
          exact .both c (ih htail)

end Text.SameButBlanks

def Text.BlanksApart (s t : String) : Prop := SameButBlanks s.toList t.toList

theorem Text.blanksApart_iff {s t : String} :
    BlanksApart s t ↔ withoutBlanks s = withoutBlanks t := by
  rw [withoutBlanks, withoutBlanks, String.ofList_inj]
  exact ⟨SameButBlanks.filter_eq, .of_filter_eq⟩

instance (s t : String) : Decidable (Text.BlanksApart s t) :=
  decidable_of_iff _ Text.blanksApart_iff.symm

namespace Element

/-- Elements whose attributes, texts and, one by one, children agree, each in a way of its own.
Children that belong together have one name. -/
structure AlikeBy (sameValue : String → String → String → Prop) (sameText : String → String → Prop)
    (sameChild : String → Element → Element → Prop) (e f : Element) : Prop where
  attributes : ∀ key, Option.Rel (sameValue key) (e.attribute? key) (f.attribute? key)
  text : sameText e.text f.text
  children : List.Forall₂ (fun a b => a.name = b.name ∧ sameChild a.name a b) e.children f.children

def RespacedPattern : Element → Element → Prop :=
  AlikeBy (fun _ => Eq) Text.BlanksApart fun _ a b => a.same b

/-- Formatting rules that differ only in blanks of leading digits. -/
def RespacedRule : Element → Element → Prop :=
  AlikeBy (fun _ => Eq) Eq fun name a b =>
    if name = Schema.leadingDigits then a.RespacedPattern b else a.same b

def RespacedFormats : Element → Element → Prop :=
  AlikeBy (fun _ => Eq) Eq fun name a b =>
    if name = Schema.numberFormat then a.RespacedRule b else a.same b

/-- Descriptions that differ only in blanks of their two patterns. -/
def RespacedDescription : Element → Element → Prop :=
  AlikeBy (fun _ => Eq) Eq fun name a b =>
    if name = Schema.possiblePattern ∨ name = Schema.nationalPattern then a.RespacedPattern b
    else a.same b

/-- Territories that differ only in blanks of the prefix for parsing, of leading digits in their
formatting rules and of the patterns in their descriptions. -/
def RespacedTerritory : Element → Element → Prop :=
  AlikeBy (fun key => if key = Schema.nationalPrefixForParsing then Text.BlanksApart else Eq) Eq
    fun name a b =>
      if name = Schema.availableFormats then a.RespacedFormats b
      else if name ∈ Category.all.map Category.tag then a.RespacedDescription b
      else a.same b

theorem text_eq_of_same {e f : Element} (h : e.same f = true) : e.text = f.text := by
  cases e
  cases f
  simp only [same, Bool.and_eq_true, beq_iff_eq] at h
  exact h.1.1.1.2

namespace AlikeBy

variable {sameValue : String → String → String → Prop} {sameText : String → String → Prop}
  {sameChild : String → Element → Element → Prop} {e f : Element}

theorem map_attribute? {α : Type} {g : String → α} (h : AlikeBy sameValue sameText sameChild e f)
    {key : String} (hg : ∀ v w, sameValue key v w → g v = g w) :
    (e.attribute? key).map g = (f.attribute? key).map g :=
  map_eq_of_rel (h.attributes key) hg

theorem attribute?_eq (h : AlikeBy sameValue sameText sameChild e f) {key : String}
    (hkey : ∀ v w, sameValue key v w → v = w) : e.attribute? key = f.attribute? key := by
  simpa using h.map_attribute? (g := id) hkey

theorem childrenNamed (h : AlikeBy sameValue sameText sameChild e f) (name : String) :
    List.Forall₂ (sameChild name) (e.childrenNamed name) (f.childrenNamed name) := by
  have hall := h.children
  unfold Element.childrenNamed
  generalize e.children = as, f.children = bs at hall
  induction hall with
  | nil => exact .nil
  | @cons a b as bs hab _ ih =>
    obtain ⟨hname, hchild⟩ := hab
    rw [List.filter_cons, List.filter_cons, ← hname]
    split
    case isTrue heq =>
      rw [beq_iff_eq] at heq
      subst heq
      exact .cons hchild ih
    case isFalse => exact ih

theorem firstChild? (h : AlikeBy sameValue sameText sameChild e f) (name : String) :
    Option.Rel (sameChild name) (e.firstChild? name) (f.firstChild? name) :=
  firstChild?_related (h.childrenNamed name)

theorem map_childrenNamed {α : Type} {g : Element → α}
    (h : AlikeBy sameValue sameText sameChild e f) {name : String}
    (hg : ∀ a b, sameChild name a b → g a = g b) :
    (e.childrenNamed name).map g = (f.childrenNamed name).map g :=
  map_eq_of_forall₂ (h.childrenNamed name) hg

theorem map_firstChild? {α : Type} {g : Element → α}
    (h : AlikeBy sameValue sameText sameChild e f) {name : String}
    (hg : ∀ a b, sameChild name a b → g a = g b) :
    (e.firstChild? name).map g = (f.firstChild? name).map g :=
  map_eq_of_rel (h.firstChild? name) hg

end AlikeBy

theorem RespacedPattern.bareText_eq {e f : Element} (h : e.RespacedPattern f) :
    e.bareText = f.bareText :=
  Text.blanksApart_iff.1 h.text

theorem RespacedRule.sameRule {rule rule' : Element} (h : rule.RespacedRule rule') :
    rule.SameRule rule' where
  attributes := fun _ => h.attribute?_eq fun _ _ heq => heq
  leadingDigits := h.map_childrenNamed fun a b hab => by
    rw [if_pos rfl] at hab
    exact hab.bareText_eq
  formats := h.map_childrenNamed fun a b hab => text_eq_of_same hab
  internationalFormats := h.map_childrenNamed fun a b hab => text_eq_of_same hab

theorem RespacedDescription.sameDescription {e f : Element} (h : e.RespacedDescription f) :
    e.SameDescription f where
  possible := h.map_firstChild? fun a b hab => by
    rw [if_pos (.inl rfl)] at hab
    exact hab.bareText_eq
  national := h.map_firstChild? fun a b hab => by
    rw [if_pos (.inr rfl)] at hab
    exact hab.bareText_eq
  sample := h.map_firstChild? fun a b hab => text_eq_of_same hab

namespace RespacedTerritory

variable {t t' : Element} (h : t.RespacedTerritory t')
include h

theorem rulesOf : List.Forall₂ SameRule (Formats.rulesOf t) (Formats.rulesOf t') := by
  refine Formats.rulesOf_related (h.firstChild? Schema.availableFormats) fun l l' hlist => ?_
  rw [if_pos rfl] at hlist
  refine (hlist.childrenNamed Schema.numberFormat).imp fun rule rule' hrule => ?_
  rw [if_pos rfl] at hrule
  exact hrule.sameRule

theorem description (c : Category) :
    Option.Rel SameDescription (t.firstChild? c.tag) (t'.firstChild? c.tag) := by
  have hformats : c.tag ≠ Schema.availableFormats := by
    cases c with
    | ofType n => cases n <;> decide
    | _ => decide
  have htag : c.tag ∈ Category.all.map Category.tag := List.mem_map_of_mem c.mem_all
  refine rel_imp (h.firstChild? c.tag) fun d d' hd => ?_
  rw [if_neg hformats, if_pos htag] at hd
  exact hd.sameDescription

theorem sameTerritory : t.SameTerritory t' where
  attributes := fun key hkey => h.attribute?_eq fun v w hvw => by rwa [if_neg hkey] at hvw
  forParsing := h.map_attribute? fun v w hvw => by
    rw [if_pos rfl] at hvw
    exact Text.blanksApart_iff.1 hvw
  rules := h.rulesOf
  descriptions := h.description

end RespacedTerritory

end Element

/-- How patterns are broken into lines makes no difference to a record or to a fault. -/
theorem Record.ofTerritory_respaced [Pattern.Engine] {t t' : Element} (h : t.RespacedTerritory t')
    (region : String) (lite : Bool) : ofTerritory region t lite = ofTerritory region t' lite :=
  ofTerritory_congr h.sameTerritory region lite

namespace Element

def ruleOf (leadingDigits : String) : Element where
  name := Schema.numberFormat
  attributes := [(Schema.pattern, "(\\d{3})(\\d{3})")]
  children := [{ name := Schema.leadingDigits, text := leadingDigits },
    { name := Schema.format, text := "$1 $2" }]

def patternsOf (forParsing leadingDigits national : String) : Element where
  name := Schema.territory
  attributes := [(Schema.nationalPrefixForParsing, forParsing), (Schema.callingCode, "1"),
    (Schema.internationalPrefix, "00")]
  children := [{ name := Schema.availableFormats, children := [ruleOf leadingDigits] },
    { name := Category.general.tag, children := [
      { name := Schema.nationalPattern, text := national }] }]

theorem respacedPattern_of_text (name : String) {s t : String} (h : Text.BlanksApart s t) :
    RespacedPattern { name := name, text := s } { name := name, text := t } where
  attributes := fun _ => .none
  text := h
  children := .nil

theorem respaced_ruleOf {leadingDigits leadingDigits' : String}
    (h : Text.BlanksApart leadingDigits leadingDigits') :
    (ruleOf leadingDigits).RespacedRule (ruleOf leadingDigits') where
  attributes := fun _ => rel_eq_refl _
  text := rfl
  children := by
    have hdigits := respacedPattern_of_text Schema.leadingDigits h
    exact .cons ⟨rfl, (if_pos rfl).mpr hdigits⟩ (.cons ⟨rfl, (if_neg (by decide)).mpr rfl⟩ .nil)

theorem respaced_patternsOf {forParsing forParsing' leadingDigits leadingDigits' national
    national' : String} (hparsing : Text.BlanksApart forParsing forParsing')
    (hdigits : Text.BlanksApart leadingDigits leadingDigits')
    (hnational : Text.BlanksApart national national') :
    (patternsOf forParsing leadingDigits national).RespacedTerritory
      (patternsOf forParsing' leadingDigits' national') where
  attributes := fun key => by
    by_cases hkey : key = Schema.nationalPrefixForParsing
    · subst hkey
      exact .some hparsing
    · have hne : (key == Schema.nationalPrefixForParsing) = false := beq_eq_false_iff_ne.2 hkey
      simp only [attribute?, patternsOf, List.lookup_cons, hne, if_neg hkey]
      exact rel_eq_refl _
  text := rfl
  children := by
    have hformats : RespacedFormats
        { name := Schema.availableFormats, children := [ruleOf leadingDigits] }
        { name := Schema.availableFormats, children := [ruleOf leadingDigits'] } :=
      ⟨fun _ => .none, rfl, .cons ⟨rfl, (if_pos rfl).mpr (respaced_ruleOf hdigits)⟩ .nil⟩
    have hpattern := respacedPattern_of_text Schema.nationalPattern hnational
    have hdescription : RespacedDescription
        { name := Category.general.tag,
          children := [{ name := Schema.nationalPattern, text := national }] }
        { name := Category.general.tag,
          children := [{ name := Schema.nationalPattern, text := national' }] } :=
      ⟨fun _ => .none, rfl, .cons ⟨rfl, (if_pos (.inr rfl)).mpr hpattern⟩ .nil⟩
    have hname : Category.general.tag ≠ Schema.availableFormats := by decide
    have htag : Category.general.tag ∈ Category.all.map Category.tag := by decide
    refine .cons ⟨rfl, (if_pos rfl).mpr hformats⟩ (.cons ⟨rfl, ?_⟩ .nil)
    exact (if_neg hname).mpr ((if_pos htag).mpr hdescription)

def spreadPatterns : Element := patternsOf "0\n |1" "[2-\u3000 5]" "\\d\u2028{6}"

def compactPatterns : Element := patternsOf "0|1" "[2-5]" "\\d{6}"

end Element

theorem Record.ofTerritory_spreadPatterns :
    Element.spreadPatterns.RespacedTerritory Element.compactPatterns ∧
      ofTerritory "XX" Element.spreadPatterns false =
        ofTerritory "XX" Element.compactPatterns false := by
  have hrespaced : Element.spreadPatterns.RespacedTerritory Element.compactPatterns :=
    Element.respaced_patternsOf (by decide) (by decide) (by decide)
  exact ⟨hrespaced, ofTerritory_respaced hrespaced "XX" false⟩

end NumberingPlan
