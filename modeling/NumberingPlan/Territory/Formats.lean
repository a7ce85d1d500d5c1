import NumberingPlan.Metadata.Record
import NumberingPlan.Territory.Attributes

/-! Formatting rules of a territory. Loading changes what it loads into step by step, and what was
changed before a fault stays changed. -/
namespace NumberingPlan

variable [Pattern.Engine]

namespace FormatDraft

/-- Appends the leading digits of a rule, one element after the other. -/
def loadLeadingDigits : List Element → EStateM Fault FormatDraft Unit
  | [] => pure ()
  | e :: es => do
    let p ← MonadExcept.ofExcept (checkBarePattern e.text)
    modify fun d => { d with leadingDigits := d.leadingDigits ++ [p] }
    loadLeadingDigits es

def loadPatterns (rule : Element) : EStateM Fault FormatDraft Unit := do
  loadLeadingDigits (rule.childrenNamed Schema.leadingDigits)
  let p ← MonadExcept.ofExcept (checkPattern ((rule.attribute? Schema.pattern).getD ""))
  modify fun d => { d with pattern := p }

def onlyFormat (rule : Element) : Except Fault String :=
  match rule.childrenNamed Schema.format with
  | [f] => .ok f.text
  | fs => .error (.formatCount fs.length)

/-- The national side of a rule: its patterns and its format, which is also returned. -/
def loadNational (rule : Element) : EStateM Fault FormatDraft String := do
  loadPatterns rule
  let format ← MonadExcept.ofExcept (onlyFormat rule)
  modify fun d => { d with format := some format }
  return format

end FormatDraft

/-- A rule with the patterns of an element, the given format and nothing else. -/
def FormatRule.plain (rule : Element) (format : String) : Except Fault FormatRule :=
  match (FormatDraft.loadPatterns rule).run {} with
  | .ok _ d => { d with format := some format }.finish
  | .error fault _ => .error fault

/-- The international side of a rule. -/
inductive International where
  /-- Nothing is said, so the national format serves. -/
  | implied (rule : FormatRule)
  /-- Numbers under this rule are not dialled from abroad. -/
  | withheld
  | explicit (rule : FormatRule)
  deriving DecidableEq, Repr

def International.ofElement (rule : Element) (nationalFormat : String) :
    Except Fault International :=
  match rule.childrenNamed Schema.internationalFormat with
  | [] => (FormatRule.plain rule nationalFormat).map .implied
  | [f] =>
    if f.text = notApplicable then .ok .withheld else (FormatRule.plain rule f.text).map .explicit
  | fs => .error (.internationalFormatCount fs.length)

/-- What holds for a rule that says nothing of its own. -/
structure FormatDefaults where
  nationalPrefixRule : String := ""
  carrierCodeRule : String := ""
  nationalPrefixOptional : Bool := false
  deriving DecidableEq, Repr

/-- The draft a rule starts from: its own attributes where it has them. -/
def FormatDefaults.draft (d : FormatDefaults) (nationalPrefix : String) (rule : Element) :
    Except Fault FormatDraft := do
  let nationalPrefixOptional ←
    if rule.hasAttribute Schema.nationalPrefixOptional then
      rule.switch Schema.nationalPrefixOptional
    else pure d.nationalPrefixOptional
  return {
    nationalPrefixRule :=
      if rule.hasAttribute Schema.nationalPrefixRule then rule.nationalPrefixRule nationalPrefix
      else d.nationalPrefixRule
    carrierCodeRule :=
      if rule.hasAttribute Schema.carrierCodeRule then rule.carrierCodeRule nationalPrefix
      else d.carrierCodeRule
    nationalPrefixOptional }

/-- The finished national rule of an element. -/
def FormatRule.ofElement (d : FormatDefaults) (nationalPrefix : String) (rule : Element) :
    Except Fault FormatRule := do
  match (FormatDraft.loadNational rule).run (← d.draft nationalPrefix rule) with
  | .ok _ draft => draft.finish
  | .error fault _ => throw fault

namespace Formats

def addNational (r : FormatRule) (fs : Formats) : Formats :=
  { fs with national := fs.national ++ [r] }

def addInternational (r : FormatRule) (fs : Formats) : Formats :=
  { fs with international := fs.international ++ [r] }

/-- Adds the international side of a rule, also where it is implied; returns whether the rule says
something of its own about it. -/
def loadInternational (rule : Element) (nationalFormat : String) : EStateM Fault Formats Bool := do
  match ← MonadExcept.ofExcept (International.ofElement rule nationalFormat) with
  | .implied r => modify (addInternational r); return false
  | .withheld => return true
  | .explicit r => modify (addInternational r); return true

/-- Adds a rule, and its international side only where that is explicit. -/
def loadRule (d : FormatDefaults) (nationalPrefix : String) (rule : Element) :
    EStateM Fault Formats Unit := do
  let r ← MonadExcept.ofExcept (FormatRule.ofElement d nationalPrefix rule)
  modify (addNational r)
  match ← MonadExcept.ofExcept (International.ofElement rule r.format) with
  | .explicit r => modify (addInternational r)
  | _ => pure ()

def loadRules (d : FormatDefaults) (nationalPrefix : String) :
    List Element → EStateM Fault Formats Unit
  | [] => pure ()
  | e :: es => do
    loadRule d nationalPrefix e
    loadRules d nationalPrefix es

/-- The rules of the first list of formats. International rules loaded earlier are dropped first. -/
def load (territory : Element) (nationalPrefix nationalPrefixRule : String)
    (nationalPrefixOptional : Bool) : EStateM Fault Formats Unit := do
  modify fun fs => { fs with international := [] }
  let carrierCodeRule := territory.carrierCodeRule nationalPrefix
  match territory.firstChild? Schema.availableFormats with
  | none => pure ()
  | some list =>
    loadRules { nationalPrefixRule, carrierCodeRule, nationalPrefixOptional } nationalPrefix
      (list.childrenNamed Schema.numberFormat)

end Formats

end NumberingPlan
