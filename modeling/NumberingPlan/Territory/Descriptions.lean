import NumberingPlan.Metadata.Record
import NumberingPlan.Territory.Schema

/-! Descriptions of a territory's numbers. What a description leaves out it takes from the general
one; a description that is absent altogether takes nothing, and says that there are no such
numbers. -/
namespace NumberingPlan

variable [Pattern.Engine]

/-- The pattern in the first child of a name, or the inherited one. -/
def Element.patternOr (e : Element) (name inherited : String) : Except Fault String :=
  match e.firstChild? name with
  | some p => checkBarePattern p.text
  | none => .ok inherited

/-- Reads a description. A lite build keeps no sample numbers. -/
def Description.ofTerritory (inherited : Description) (territory : Element) (c : Category)
    (lite : Bool) : Except Fault Description :=
  match territory.firstChild? c.tag with
  | none => .ok {}
  | some e => do
    let possible ← e.patternOr Schema.possiblePattern inherited.possible
    let national ← e.patternOr Schema.nationalPattern inherited.national
    let sample :=
      if lite then ""
      else match e.firstChild? Schema.sampleNumber with
        | some s => s.text
        | none => inherited.sample
    return { possible, national, sample }

/-- The same by the name of an element; a name that is no category describes no numbers. -/
def Description.ofTag (inherited : Description) (territory : Element) (tag : String) (lite : Bool) :
    Except Fault Description :=
  match Category.ofTag? tag with
  | some c => ofTerritory inherited territory c lite
  | none => .ok {}

namespace Descriptions

/-- Reads categories in turn; those before a fault keep their new descriptions. -/
def loadEach (general : Description) (territory : Element) (lite : Bool) :
    List Category → EStateM Fault Descriptions Unit
  | [] => pure ()
  | c :: cs => do
    let d ← MonadExcept.ofExcept (Description.ofTerritory general territory c lite)
    modify (·.set c d)
    loadEach general territory lite cs

/-- The general description is read first and stored last. -/
def load (territory : Element) (lite : Bool) : EStateM Fault Descriptions Unit := do
  let general ← MonadExcept.ofExcept (Description.ofTerritory {} territory .general lite)
  loadEach general territory lite Category.specific
  modify fun ds =>
    let ds := ds.set .general general
    { ds with
      sameMobileAndFixedLine :=
        (ds.of (.ofType .mobile)).national == (ds.of (.ofType .fixedLine)).national }

end Descriptions

end NumberingPlan
