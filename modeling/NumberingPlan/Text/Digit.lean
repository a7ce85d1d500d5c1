/-! Decimal digits of every script. Each script writes zero to nine as ten consecutive characters,
so a digit is known by the zero of its run. -/
namespace NumberingPlan.Text

/-- The zeros of the decimal scripts, in ascending order. -/
def zeros : List Nat :=
  [0x30, 0x660, 0x6F0, 0x7C0, 0x966, 0x9E6, 0xA66, 0xAE6, 0xB66, 0xBE6, 0xC66, 0xCE6, 0xD66, 0xDE6,
   0xE50, 0xED0, 0xF20, 0x1040, 0x1090, 0x17E0, 0x1810, 0x1946, 0x19D0, 0x1A80, 0x1A90, 0x1B50,
   0x1BB0, 0x1C40, 0x1C50, 0xA620, 0xA8D0, 0xA900, 0xA9D0, 0xA9F0, 0xAA50, 0xABF0, 0xFF10, 0x104A0,
   0x10D30, 0x10D40, 0x11066, 0x110F0, 0x11136, 0x111D0, 0x112F0, 0x11450, 0x114D0, 0x11650,
   0x116C0, 0x116D0, 0x116DA, 0x11730, 0x118E0, 0x11950, 0x11BF0, 0x11C50, 0x11D50, 0x11DA0,
   0x11F50, 0x16130, 0x16A60, 0x16AC0, 0x16B50, 0x16D70, 0x1CCF0, 0x1D7CE, 0x1D7D8, 0x1D7E2,
   0x1D7EC, 0x1D7F6, 0x1E140, 0x1E2F0, 0x1E4F0, 0x1E5F1, 0x1E950, 0x1FBF0]

/-- The value of a decimal digit of any script. -/
def digitValue? (c : Char) : Option Nat :=
  (zeros.find? fun z => z ≤ c.toNat && c.toNat < z + 10).map (c.toNat - ·)

def isDecimal (c : Char) : Bool := (digitValue? c).isSome

/-- The ASCII digit of value `d`, for `d < 10`. -/
def asciiDigit (d : Nat) : Char := Char.ofNat (0x30 + d)

/-- Writes a digit of any script as the ASCII digit of its value and keeps all else. -/
def toAsciiDigit (c : Char) : Char :=
  match digitValue? c with
  | some d => asciiDigit d
  | none => c

/-- One more ASCII digit behind a number. -/
def appendDigit (n : Nat) (c : Char) : Nat := 10 * n + (c.toNat - 0x30)

/-- The same as long as the number stays within a limit. -/
def appendDigit? (limit n : Nat) (c : Char) : Option Nat :=
  if appendDigit n c ≤ limit then some (appendDigit n c) else none

/-- The number written by ASCII digits, most significant first. -/
def decimalValue (cs : List Char) : Nat := cs.foldl appendDigit 0

/-- Reads a non-empty run of ASCII digits, of any length and with any leading zeros. The number
grows digit by digit, and reading ends at the first one that takes it beyond the limit. -/
def readDecimal? (limit : Nat) (cs : List Char) : Option Nat :=
  if !cs.isEmpty && cs.all Char.isDigit then cs.foldlM (appendDigit? limit) 0 else none

end NumberingPlan.Text
