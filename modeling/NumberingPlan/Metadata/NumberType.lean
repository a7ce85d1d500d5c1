/-! The kinds of numbers in a numbering plan, and the categories by which a territory describes its
numbers. -/
namespace NumberingPlan

inductive NumberType where
  | fixedLine | mobile | pager | tollFree | premiumRate | sharedCost | personalNumber
  /-- Voice over the internet. -/
  | voip
  /-- Universal access numbers. -/
  | uan
  /-- Numbers dialled outside the numbering plan. -/
  | shortCode
  deriving DecidableEq, Repr

namespace NumberType

def all : List NumberType :=
  [fixedLine, mobile, pager, tollFree, premiumRate, sharedCost, personalNumber, voip, uan,
   shortCode]

/-- The element that describes numbers of this kind. -/
def tag : NumberType → String
  | fixedLine => "fixedLine"
  | mobile => "mobile"
  | pager => "pager"
  | tollFree => "tollFree"
  | premiumRate => "premiumRate"
  | sharedCost => "sharedCost"
  | personalNumber => "personalNumber"
  | voip => "voip"
  | uan => "uan"
  | shortCode => "shortCode"

def ofTag? (tag : String) : Option NumberType := all.find? (·.tag == tag)

theorem mem_all (t : NumberType) : t ∈ all := by cases t <;> simp [all]

theorem ofTag?_tag (t : NumberType) : ofTag? t.tag = some t := by cases t <;> decide

end NumberType

/-- The thirteen descriptions: of all numbers, of each kind, of emergency numbers and of those that
cannot be dialled from abroad. -/
inductive Category where
  | general
  | ofType (t : NumberType)
  | emergency
  | noInternationalDialling
  deriving DecidableEq, Repr

namespace Category

/-- All categories but the general one, in the order in which they are read. -/
def specific : List Category := NumberType.all.map ofType ++ [emergency, noInternationalDialling]

def all : List Category := general :: specific

def tag : Category → String
  | general => "generalDesc"
  | ofType t => t.tag
  | emergency => "emergency"
  | noInternationalDialling => "noInternationalDialling"

def ofTag? (tag : String) : Option Category := all.find? (·.tag == tag)

theorem mem_all (c : Category) : c ∈ all := by
  cases c with
  | ofType t => exact .tail _ (List.mem_append_left _ (List.mem_map_of_mem t.mem_all))
  | _ => decide

theorem ofTag?_tag (c : Category) : ofTag? c.tag = some c := by
  cases c with
  | ofType t => cases t <;> decide
  | _ => decide

end Category

end NumberingPlan
