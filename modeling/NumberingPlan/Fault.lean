import NumberingPlan.Pattern.Compile
import NumberingPlan.Text.Blank

/-! What is wrong with a document that cannot be compiled, and the wording of each fault. -/
namespace NumberingPlan

def Pattern.Defect.label : Pattern.Defect → String
  | malformed => "Syntax"
  | tooBig => "CompiledTooBig"

inductive Fault where
  /-- A text that is no pattern; it is given as it was tried, without blanks where these do not
  count. -/
  | invalidPattern (pattern : String) (defect : Pattern.Defect)
  | formatCount (found : Nat)
  | internationalFormatCount (found : Nat)
  | missingFormat
  | missingAttribute (key : String)
  /-- The value is given as written. -/
  | invalidAttribute (key value : String)
  | territory (region : String) (cause : Fault)
  deriving DecidableEq, Repr

def Fault.message : Fault → String
  | invalidPattern pattern defect => s!"Invalid pattern '{pattern}': <{defect.label}>"
  | formatCount found => s!"Expected exactly one <format> element, found {found}"
  | internationalFormatCount found => s!"Expected at most one <intlFormat> element, found {found}"
  | missingFormat => "Number format has no national format template"
  | missingAttribute key => s!"Missing required attribute '{key}'"
  | invalidAttribute key value => s!"Invalid value '{value}' for attribute '{key}'"
  | territory region cause => s!"Failed to build metadata for region {region}: {cause.message}"

variable [Pattern.Engine]

/-- The text of a pattern that compiles, as it was tried. -/
def checkPattern (text : String) : Except Fault String :=
  match Pattern.compile text.toList with
  | .ok _ => .ok text
  | .error d => .error (.invalidPattern text d)

/-- The same for a text in which blanks do not count. -/
def checkBarePattern (text : String) : Except Fault String := checkPattern (Text.withoutBlanks text)

end NumberingPlan
