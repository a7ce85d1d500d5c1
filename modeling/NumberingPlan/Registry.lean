import NumberingPlan.CodeIndex
import NumberingPlan.Territory.Document
import Std.Data.HashMap
import Std.Data.TreeMap

/-! Records by region and regions by calling code. Both are collected record by record; then the
calling codes are put into order, and nothing changes any more. -/
namespace NumberingPlan

/-- Stands for no known region; never registered. -/
def unknownRegion : String := "ZZ"

structure Registry where
  records : Std.TreeMap String Record := {}
  /-- In ascending order of calling codes, with main territories first. -/
  regions : CodeIndex := #[]

/-- A registry while it is put together; its calling codes are in no order. -/
structure RegistryDraft where
  records : Std.TreeMap String Record := {}
  /-- Main territories first. -/
  regions : Std.HashMap Int (List String) := {}

namespace RegistryDraft

/-- A main territory goes to the front, any other to the back. -/
def place (r : Record) (ids : List String) : List String :=
  if r.mainForCode then r.id :: ids else ids ++ [r.id]

/-- Of two records with one id the later counts; the calling codes list both. -/
def add (d : RegistryDraft) (r : Record) : RegistryDraft :=
  if r.id = unknownRegion then d
  else
    { records := d.records.insert r.id r
      regions := d.regions.alter r.callingCode fun ids => some (place r (ids.getD [])) }

def ofRecords (rs : List Record) : RegistryDraft := rs.foldl add {}

/-- The finished registry, from the calling codes in whatever order they are taken. -/
def freeze (d : RegistryDraft) (entries : List (Int × List String)) : Registry where
  records := d.records
  regions := CodeIndex.ofEntries entries

end RegistryDraft

namespace Registry

def ofRecords (rs : List Record) : Registry :=
  let d := RegistryDraft.ofRecords rs
  d.freeze d.regions.toList

def ofDocument [Pattern.Engine] (root : Element) (lite : Bool) : Except Fault Registry :=
  (Record.ofDocument root lite).map ofRecords

def record? (g : Registry) (region : String) : Option Record := g.records[region]?

def isValid (g : Registry) (region : String) : Bool := g.records.contains region

def allRegions (g : Registry) : List String := g.records.keys

def callingCodes (g : Registry) : List Int := g.regions.toList.map Prod.fst

def regionsFor (g : Registry) (code : Int) : List String := (g.regions.regions? code).getD []

def regionFor (g : Registry) (code : Int) : String := (g.regionsFor code).headD unknownRegion

end Registry

end NumberingPlan
