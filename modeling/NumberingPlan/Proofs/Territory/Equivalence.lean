import Mathlib.Logic.Relation
import NumberingPlan.Pattern.Standard
import NumberingPlan.Proofs.Territory.Reading

/-! Elements that agree in all the schema names: attributes, text and, name by name, children. How
children of different names alternate, what the schema does not name, and the order in which
attributes were set make no difference. Main statement: `Element.compileAlike_of_agreement`. -/
namespace NumberingPlan

def Schema.elements : List String :=
  [territories, territory, availableFormats, numberFormat, leadingDigits, format,
    internationalFormat] ++ Category.all.map Category.tag ++
    [possiblePattern, nationalPattern, sampleNumber]

theorem Schema.tag_mem_elements (c : Category) : c.tag ∈ elements :=
  List.mem_append_left _ (List.mem_append_right _ (List.mem_map_of_mem c.mem_all))

namespace Element

/-- Elements with the same attributes and text, and under each name of the schema equivalent
children, in order. -/
inductive Equivalent : Element → Element → Prop
  | intro {e f : Element} (attributes : ∀ key, e.attribute? key = f.attribute? key)
      (text : e.text = f.text)
      (children : ∀ name ∈ Schema.elements,
        List.Forall₂ Equivalent (e.childrenNamed name) (f.childrenNamed name)) : Equivalent e f

/-- One change to something the schema leaves open, at any depth. -/
inductive Edited : Element → Element → Prop
  /-- Attributes are set in another order, or once more with a value that does not last. -/
  | reset {e : Element} {attributes : List (String × String)}
      (h : ∀ key, attributes.lookup key = e.attributes.lookup key) :
      Edited e { e with attributes }
  | swap (e : Element) (before after : List Element) {a b : Element} (h : a.name ≠ b.name) :
      Edited { e with children := before ++ a :: b :: after }
        { e with children := before ++ b :: a :: after }
  | insert (e : Element) (before after : List Element) {a : Element}
      (h : a.name ∉ Schema.elements) :
      Edited { e with children := before ++ after } { e with children := before ++ a :: after }
  | inside (e : Element) (before after : List Element) {a b : Element} (h : Edited a b) :
      Edited { e with children := before ++ a :: after }
        { e with children := before ++ b :: after }

structure CompileAlike [Pattern.Engine] (e f : Element) : Prop where
  asDocuments : ∀ lite, Record.ofDocument e lite = Record.ofDocument f lite
  asTerritories : ∀ region lite, Record.ofTerritory region e lite = Record.ofTerritory region f lite

namespace Equivalent

variable {e f : Element}

theorem attribute?_eq (h : e.Equivalent f) (key : String) :
    e.attribute? key = f.attribute? key := by
  cases h with
  | intro attributes => exact attributes key

theorem text_eq (h : e.Equivalent f) : e.text = f.text := by
  cases h with
  | intro _ text => exact text

theorem bareText_eq (h : e.Equivalent f) : e.bareText = f.bareText := by
  rw [bareText, bareText, h.text_eq]

theorem childrenNamed (h : e.Equivalent f) {name : String} (hname : name ∈ Schema.elements) :
    List.Forall₂ Equivalent (e.childrenNamed name) (f.childrenNamed name) := by
  cases h with
  | intro _ _ children => exact children name hname

theorem firstChild? (h : e.Equivalent f) {name : String} (hname : name ∈ Schema.elements) :
    Option.Rel Equivalent (e.firstChild? name) (f.firstChild? name) :=
  firstChild?_related (h.childrenNamed hname)

section Map

variable {α : Type} {g : Element → α} (hg : ∀ {a b : Element}, a.Equivalent b → g a = g b)
include hg

theorem map_childrenNamed (h : e.Equivalent f) {name : String} (hname : name ∈ Schema.elements) :
    (e.childrenNamed name).map g = (f.childrenNamed name).map g :=
  map_eq_of_forall₂ (h.childrenNamed hname) fun _ _ hab => hg hab

theorem map_firstChild? (h : e.Equivalent f) {name : String} (hname : name ∈ Schema.elements) :
    (e.firstChild? name).map g = (f.firstChild? name).map g :=
  map_eq_of_rel (h.firstChild? hname) fun _ _ hab => hg hab

end Map

theorem sameRule (h : e.Equivalent f) : e.SameRule f where
  attributes := h.attribute?_eq
  leadingDigits := h.map_childrenNamed bareText_eq (by simp [Schema.elements])
  formats := h.map_childrenNamed text_eq (by simp [Schema.elements])
  internationalFormats := h.map_childrenNamed text_eq (by simp [Schema.elements])

theorem sameDescription (h : e.Equivalent f) : e.SameDescription f where
  possible := h.map_firstChild? bareText_eq (by simp [Schema.elements])
  national := h.map_firstChild? bareText_eq (by simp [Schema.elements])
  sample := h.map_firstChild? text_eq (by simp [Schema.elements])

theorem rulesOf (h : e.Equivalent f) :
    List.Forall₂ SameRule (Formats.rulesOf e) (Formats.rulesOf f) := by
  refine Formats.rulesOf_related (h.firstChild? (by simp [Schema.elements])) fun l l' hlist => ?_
  exact (hlist.childrenNamed (by simp [Schema.elements])).imp fun _ _ hrule => hrule.sameRule

theorem sameTerritory (h : e.Equivalent f) : e.SameTerritory f where
  attributes := fun key _ => h.attribute?_eq key
  forParsing := by rw [h.attribute?_eq]
  rules := h.rulesOf
  descriptions := fun c =>
    rel_imp (h.firstChild? (Schema.tag_mem_elements c)) fun _ _ hd => hd.sameDescription

/-- Either both elements have a list of territories or both are taken for one. -/
theorem territoriesOf (h : e.Equivalent f) :
    List.Forall₂ Equivalent (Record.territoriesOf e) (Record.territoriesOf f) := by
  have hlists : Option.Rel Equivalent (e.firstChild? Schema.territories)
      (f.firstChild? Schema.territories) := h.firstChild? (by simp [Schema.elements])
  unfold Record.territoriesOf
  generalize e.firstChild? Schema.territories = l, f.firstChild? Schema.territories = l'
    at hlists
  cases hlists with
  | none => exact h.childrenNamed (by simp [Schema.elements])
  | some hlist => exact hlist.childrenNamed (by simp [Schema.elements])

theorem compileAlike [Pattern.Engine] (h : e.Equivalent f) : e.CompileAlike f where
  asDocuments := fun lite =>
    mapM_congr (h.territoriesOf.imp fun _ _ ht => Record.ofEntry_congr ht.sameTerritory lite)
  asTerritories := Record.ofTerritory_congr h.sameTerritory

theorem refl (e : Element) : e.Equivalent e := by
  refine .intro (fun _ => rfl) rfl fun name _ => List.forall₂_same.2 fun c hc => ?_
  have hlt : sizeOf c < sizeOf e := by
    have hmem := List.sizeOf_lt_of_mem (List.mem_of_mem_filter hc)
    cases e
    simp only [mk.sizeOf_spec] at hmem ⊢
    omega
  exact refl c
termination_by sizeOf e

theorem refl_children (es : List Element) : List.Forall₂ Equivalent es es :=
  List.forall₂_same.2 fun e _ => refl e

/-- Children are compared name by name. -/
theorem of_children (e : Element) {children children' : List Element}
    (h : ∀ name ∈ Schema.elements,
      children.filter (·.name == name) = children'.filter (·.name == name)) :
    ({ e with children } : Element).Equivalent { e with children := children' } := by
  refine .intro (fun _ => rfl) rfl fun name hname => ?_
  unfold Element.childrenNamed
  rw [h name hname]
  exact refl_children _

end Equivalent

namespace Edited

variable {e f : Element}

theorem name_eq (h : e.Edited f) : e.name = f.name := by
  cases h <;> rfl

/-- Of the children of one name no change moves or drops any, and none is added that is read. -/
theorem equivalent (h : e.Edited f) : e.Equivalent f := by
  induction h with
  | reset h => exact .intro (fun key => (h key).symm) rfl fun _ _ => Equivalent.refl_children _
  | @swap e before after a b hab =>
    refine .of_children e fun name _ => ?_
    have hone : a.name ≠ name ∨ b.name ≠ name := by
      by_contra hboth
      push Not at hboth
      exact hab (hboth.1.trans hboth.2.symm)
    rcases hone with hne | hne <;> simp [List.filter_cons, hne]
  | @insert e before after a ha =>
    refine .of_children e fun name hname => ?_
    have hne : a.name ≠ name := fun heq => ha (heq ▸ hname)
    simp [hne]
  | @inside e before after a b hab ih =>
    refine .intro (fun _ => rfl) rfl fun name _ => ?_
    unfold Element.childrenNamed
    rw [List.filter_append, List.filter_append, List.filter_cons, List.filter_cons, hab.name_eq]
    refine List.rel_append (Equivalent.refl_children _) ?_
    split
    · exact .cons ih (Equivalent.refl_children _)
    · exact Equivalent.refl_children _

end Edited

theorem CompileAlike.of_edits [Pattern.Engine] {e f : Element}
    (h : Relation.EqvGen Edited e f) : e.CompileAlike f := by
  induction h with
  | rel _ _ hedit => exact hedit.equivalent.compileAlike
  | refl _ => exact ⟨fun _ => rfl, fun _ _ => rfl⟩
  | symm _ _ _ ih =>
    exact ⟨fun lite => (ih.asDocuments lite).symm,
      fun region lite => (ih.asTerritories region lite).symm⟩
  | trans _ _ _ _ _ ih ih' =>
    exact ⟨fun lite => (ih.asDocuments lite).trans (ih'.asDocuments lite),
      fun region lite => (ih.asTerritories region lite).trans (ih'.asTerritories region lite)⟩

/-- Elements that agree in what the schema names compile alike, and so do elements of which any
number of changes to what it leaves open make the one from the other. -/
theorem compileAlike_of_agreement [Pattern.Engine] (e f : Element) :
    (e.Equivalent f → e.CompileAlike f) ∧
      (Relation.EqvGen Edited e f → e.CompileAlike f) :=
  ⟨Equivalent.compileAlike, CompileAlike.of_edits⟩

def fixedLineDescription : Element where
  name := "fixedLine"
  children := [{ name := "nationalNumberPattern", text := "[2-4]\\d{5}" }]

def mobileDescription : Element where
  name := "mobile"
  children := [{ name := "exampleNumber", text := "512345" }]

def documentOf (territory : Element) : Element where
  name := "phoneNumberMetadata"
  children := [{ name := Schema.territories, children := [territory] }]

def plainTerritory : Element where
  name := Schema.territory
  attributes := [("id", "XX"), ("countryCode", "1"), ("internationalPrefix", "00")]
  children := [fixedLineDescription, mobileDescription]

/-- The same with a remark, the descriptions the other way round, and an id that was set twice. -/
def remarkedTerritory : Element where
  name := Schema.territory
  attributes := [("internationalPrefix", "00"), ("countryCode", "1"), ("id", "XX"), ("id", "YY")]
  children := [mobileDescription, { name := "remark", text := "(" }, fixedLineDescription]

theorem compileAlike_remarked :
    Relation.EqvGen Edited (documentOf plainTerritory) (documentOf remarkedTerritory) ∧
      (documentOf plainTerritory).CompileAlike (documentOf remarkedTerritory) := by
  have hinside : ∀ {t t' : Element}, t.Edited t' →
      Relation.EqvGen Edited (documentOf t) (documentOf t') := fun h =>
    .rel _ _ (.inside { name := "phoneNumberMetadata" } [] []
      (.inside { name := Schema.territories } [] [] h))
  have hreset : plainTerritory.Edited
      { plainTerritory with attributes := remarkedTerritory.attributes } := by
    refine .reset fun key => ?_
    by_cases hid : key = "id"
    · subst hid
      rfl
    by_cases hcode : key = "countryCode"
    · subst hcode
      rfl
    · have hneither : (key == "id") = false ∧ (key == "countryCode") = false :=
        ⟨beq_eq_false_iff_ne.2 hid, beq_eq_false_iff_ne.2 hcode⟩
      simp [plainTerritory, remarkedTerritory, List.lookup_cons, hneither.1, hneither.2]
  have hswap : Edited { plainTerritory with attributes := remarkedTerritory.attributes }
      { remarkedTerritory with children := [mobileDescription, fixedLineDescription] } :=
    .swap remarkedTerritory [] [] (by decide)
  have hinsert : Edited
      { remarkedTerritory with children := [mobileDescription, fixedLineDescription] }
      remarkedTerritory :=
    .insert remarkedTerritory [mobileDescription] [fixedLineDescription] (by decide)
  have hedits := ((hinside hreset).trans _ _ _ (hinside hswap)).trans _ _ _ (hinside hinsert)
  exact ⟨hedits, (compileAlike_of_agreement _ _).2 hedits⟩

end Element

end NumberingPlan
