import NumberingPlan.Metadata.Record
import NumberingPlan.Territory.Attributes

/-! The profile of a territory, from the attributes of its element. -/
namespace NumberingPlan

variable [Pattern.Engine]

/-- A national prefix also serves for parsing, unless the territory has a pattern of its own for
that; a transform rule counts only beside such a pattern. -/
def Profile.ofElement (region : String) (e : Element) (nationalPrefix : String) :
    Except Fault Profile := do
  let callingCode ← readCallingCode (← e.required Schema.callingCode)
  let leadingDigits ← e.checked Schema.leadingDigits checkPattern
  let internationalPrefix ← checkPattern (← e.required Schema.internationalPrefix)
  let forParsing ← e.checked Schema.nationalPrefixForParsing checkBarePattern
  let transformRule ←
    if forParsing.isSome then e.checked Schema.nationalPrefixTransformRule checkPattern
    else pure none
  let mainForCode ← e.switch Schema.mainForCode
  let leadingZeroPossible ← e.switch Schema.leadingZeroPossible
  let given := if nationalPrefix = "" then none else some nationalPrefix
  return {
    id := region
    callingCode
    leadingDigits
    internationalPrefix
    preferredInternationalPrefix := e.attribute? Schema.preferredInternationalPrefix
    nationalPrefix := given
    nationalPrefixForParsing := forParsing.or given
    nationalPrefixTransformRule := transformRule
    preferredExtensionPrefix := e.attribute? Schema.preferredExtensionPrefix
    mainForCode
    leadingZeroPossible }

end NumberingPlan
