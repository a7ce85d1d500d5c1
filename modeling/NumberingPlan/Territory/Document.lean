import NumberingPlan.Territory.Descriptions
import NumberingPlan.Territory.Formats
import NumberingPlan.Territory.Profile

/-! From a document to the records of its territories. -/
namespace NumberingPlan

variable [Pattern.Engine]

namespace Record

/-- Works on the formats of a record and on nothing else. -/
def onFormats {α : Type} (x : EStateM Fault Formats α) : EStateM Fault Record α :=
  fun r =>
    match x.run r.formats with
    | .ok a formats => .ok a { r with formats }
    | .error fault formats => .error fault { r with formats }

/-- Works on the descriptions of a record and on nothing else. -/
def onDescriptions {α : Type} (x : EStateM Fault Descriptions α) : EStateM Fault Record α :=
  fun r =>
    match x.run r.descriptions with
    | .ok a descriptions => .ok a { r with descriptions }
    | .error fault descriptions => .error fault { r with descriptions }

def loadFormats (territory : Element) (nationalPrefix nationalPrefixRule : String)
    (nationalPrefixOptional : Bool) : EStateM Fault Record Unit :=
  onFormats (Formats.load territory nationalPrefix nationalPrefixRule nationalPrefixOptional)

def loadInternationalFormat (rule : Element) (nationalFormat : String) :
    EStateM Fault Record Bool :=
  onFormats (Formats.loadInternational rule nationalFormat)

def loadDescriptions (territory : Element) (lite : Bool) : EStateM Fault Record Unit :=
  onDescriptions (Descriptions.load territory lite)

def ofTerritory (region : String) (territory : Element) (lite : Bool) : Except Fault Record := do
  let nationalPrefix := territory.nationalPrefix
  let profile ← Profile.ofElement region territory nationalPrefix
  let optional ← territory.switch Schema.nationalPrefixOptional
  let load : EStateM Fault Record Unit := do
    loadFormats territory nationalPrefix (territory.nationalPrefixRule nationalPrefix) optional
    loadDescriptions territory lite
  match load.run { profile } with
  | .ok _ r => return r
  | .error fault _ => throw fault

/-- Compiles a territory under its own id; its faults are reported with that id. -/
def ofEntry (lite : Bool) (territory : Element) : Except Fault Record :=
  match territory.attribute? Schema.id with
  | none => .error (.missingAttribute Schema.id)
  | some region => (ofTerritory region territory lite).mapError (.territory region)

/-- The territories of a document: those of its first `territories` element, or of the root. -/
def territoriesOf (root : Element) : List Element :=
  ((root.firstChild? Schema.territories).getD root).childrenNamed Schema.territory

/-- Compiles the territories in order; the first fault ends it. -/
def ofDocument (root : Element) (lite : Bool) : Except Fault (List Record) :=
  (territoriesOf root).mapM (ofEntry lite)

end Record

end NumberingPlan
