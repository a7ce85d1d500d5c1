import NumberingPlan.Fault
import NumberingPlan.Text.Digit
import NumberingPlan.Text.Substitute
import NumberingPlan.Territory.Schema

/-! Attributes by kind: required texts, switches, patterns, calling codes and formatting rules. -/
namespace NumberingPlan

namespace Element

def required (e : Element) (key : String) : Except Fault String :=
  match e.attribute? key with
  | some v => .ok v
  | none => .error (.missingAttribute key)

/-- A switch is off unless its attribute says otherwise. -/
def switch (e : Element) (key : String) : Except Fault Bool :=
  match e.attribute? key with
  | none => .ok false
  | some v =>
    let word := Text.trim v.toList
    if word = "true".toList then .ok true
    else if word = "false".toList then .ok false
    else .error (.invalidAttribute key v)

/-- An attribute that, if present, has to pass a check. -/
def checked (e : Element) (key : String) (check : String → Except Fault String) :
    Except Fault (Option String) :=
  match e.attribute? key with
  | none => .ok none
  | some v => (check v).map some

end Element

/-- The greatest number that can be a calling code. -/
def greatestCallingCode : Nat := 0x7FFFFFFF

/-- A calling code is positive and below 2^31; it may be padded with blanks and zeros. -/
def readCallingCode (v : String) : Except Fault Int :=
  match Text.readDecimal? greatestCallingCode (Text.trim v.toList) with
  | some n => if 0 < n then .ok n else .error (.invalidAttribute Schema.callingCode v)
  | none => .error (.invalidAttribute Schema.callingCode v)

/-- Puts the national prefix for the first `$NP` and the first group for the first `$FG`. The
carrier code `$CC` is left for when a number is formatted. -/
def fillPlaceholders (rule nationalPrefix : String) : String :=
  let withPrefix := Text.replaceFirst "$NP".toList nationalPrefix.toList rule.toList
  String.ofList (Text.replaceFirst "$FG".toList "$\x7b1\x7d".toList withPrefix)

namespace Element

/-- The formatting rule in an attribute, filled in; empty if there is none. -/
def formattingRule (e : Element) (key nationalPrefix : String) : String :=
  match e.attribute? key with
  | none => ""
  | some rule => fillPlaceholders rule nationalPrefix

def nationalPrefix (e : Element) : String := (e.attribute? Schema.nationalPrefix).getD ""

def nationalPrefixRule (e : Element) (nationalPrefix : String) : String :=
  e.formattingRule Schema.nationalPrefixRule nationalPrefix

def carrierCodeRule (e : Element) (nationalPrefix : String) : String :=
  e.formattingRule Schema.carrierCodeRule nationalPrefix

end Element

end NumberingPlan
