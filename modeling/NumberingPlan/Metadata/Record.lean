import NumberingPlan.Fault
import NumberingPlan.Metadata.NumberType

/-! What is known of the numbers of one territory. -/
namespace NumberingPlan

/-- Stands where a category has no numbers, and for an international format that is not offered. -/
def notApplicable : String := "NA"

/-- A new description says that there are no such numbers. -/
structure Description where
  possible : String := notApplicable
  national : String := notApplicable
  sample : String := notApplicable
  deriving DecidableEq, Repr

def Description.hasNationalNumbers (d : Description) : Bool :=
  d.national != "" && d.national != notApplicable

/-- How numbers with given leading digits are written: the groups of `pattern`, put into
`format`. -/
structure FormatRule where
  pattern : String
  format : String
  leadingDigits : List String
  nationalPrefixRule : String
  carrierCodeRule : String
  nationalPrefixOptional : Bool
  deriving DecidableEq, Repr

/-- A rule while it is put together. -/
structure FormatDraft where
  pattern : String := ""
  format : Option String := none
  leadingDigits : List String := []
  nationalPrefixRule : String := ""
  carrierCodeRule : String := ""
  nationalPrefixOptional : Bool := false
  deriving DecidableEq, Repr

/-- A rule needs a format. -/
def FormatDraft.finish (d : FormatDraft) : Except Fault FormatRule :=
  match d.format with
  | none => .error .missingFormat
  | some format => .ok { d with format }

structure Profile where
  id : String := ""
  callingCode : Int := 0
  leadingDigits : Option String := none
  internationalPrefix : String := ""
  preferredInternationalPrefix : Option String := none
  nationalPrefix : Option String := none
  nationalPrefixForParsing : Option String := none
  nationalPrefixTransformRule : Option String := none
  preferredExtensionPrefix : Option String := none
  /-- The first territory to be named for its calling code. -/
  mainForCode : Bool := false
  leadingZeroPossible : Bool := false
  deriving DecidableEq, Repr

structure Formats where
  national : List FormatRule := []
  international : List FormatRule := []
  deriving DecidableEq, Repr

/-- One description for each category. The switch is a cached comparison; the patterns count. -/
structure Descriptions where
  of : Category → Description := fun _ => {}
  /-- Whether mobile and fixed-line numbers have the same national pattern. -/
  sameMobileAndFixedLine : Bool := false

def Descriptions.set (ds : Descriptions) (c : Category) (d : Description) : Descriptions :=
  { ds with of := fun x => if x = c then d else ds.of x }

structure Record where
  profile : Profile := {}
  formats : Formats := {}
  descriptions : Descriptions := {}

namespace Record

def id (r : Record) : String := r.profile.id

def callingCode (r : Record) : Int := r.profile.callingCode

def mainForCode (r : Record) : Bool := r.profile.mainForCode

def description (r : Record) (c : Category) : Description := r.descriptions.of c

end Record

end NumberingPlan
