/-! Trees of named elements with attributes, children and text. Of two values set for one attribute
the later counts. -/
namespace NumberingPlan

structure Element where
  name : String
  /-- Latest first. -/
  attributes : List (String × String) := []
  children : List Element := []
  text : String := ""

namespace Element

def setAttribute (e : Element) (key value : String) : Element :=
  { e with attributes := (key, value) :: e.attributes }

def addChildren (e : Element) (cs : List Element) : Element :=
  { e with children := e.children ++ cs }

def setText (e : Element) (text : String) : Element := { e with text }

def attribute? (e : Element) (key : String) : Option String := e.attributes.lookup key

def hasAttribute (e : Element) (key : String) : Bool := (e.attribute? key).isSome

/-- The direct children of a name, in document order. -/
def childrenNamed (e : Element) (name : String) : List Element :=
  e.children.filter (·.name == name)

def firstChild? (e : Element) (name : String) : Option Element :=
  e.children.find? (·.name == name)

/-- Every value of the first element is the value of the second. -/
def attributesWithin (e f : Element) : Bool :=
  e.attributes.all fun (key, _) => f.attribute? key == e.attribute? key

mutual

/-- Equality of trees; attributes are compared by their values, not by how they were set. -/
def same : Element → Element → Bool
  | e@⟨name, _, children, text⟩, f@⟨name', _, children', text'⟩ =>
    name == name' && text == text' && e.attributesWithin f && f.attributesWithin e &&
      sameAll children children'

def sameAll : List Element → List Element → Bool
  | [], [] => true
  | e :: es, f :: fs => same e f && sameAll es fs
  | _, _ => false

end

end Element

end NumberingPlan
