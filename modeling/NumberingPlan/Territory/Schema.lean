import NumberingPlan.Element

/-! The element and attribute names of a numbering plan document. -/
namespace NumberingPlan.Schema

def territories : String := "territories"
def territory : String := "territory"
def availableFormats : String := "availableFormats"
def numberFormat : String := "numberFormat"
def leadingDigits : String := "leadingDigits"
def format : String := "format"
def internationalFormat : String := "intlFormat"
def possiblePattern : String := "possibleNumberPattern"
def nationalPattern : String := "nationalNumberPattern"
def sampleNumber : String := "exampleNumber"

def id : String := "id"
def callingCode : String := "countryCode"
def internationalPrefix : String := "internationalPrefix"
def preferredInternationalPrefix : String := "preferredInternationalPrefix"
def nationalPrefix : String := "nationalPrefix"
def nationalPrefixForParsing : String := "nationalPrefixForParsing"
def nationalPrefixTransformRule : String := "nationalPrefixTransformRule"
def preferredExtensionPrefix : String := "preferredExtnPrefix"
def mainForCode : String := "mainCountryForCode"
def leadingZeroPossible : String := "leadingZeroPossible"
def nationalPrefixRule : String := "nationalPrefixFormattingRule"
def carrierCodeRule : String := "carrierCodeFormattingRule"
def nationalPrefixOptional : String := "nationalPrefixOptionalWhenFormatting"
def pattern : String := "pattern"

end NumberingPlan.Schema
