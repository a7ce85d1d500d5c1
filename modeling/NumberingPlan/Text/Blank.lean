/-! White space as the character property White_Space has it: wider than ASCII, and without the
zero-width characters. Stripping, trimming and their small laws. -/
namespace NumberingPlan.Text

/-- Tab to carriage return, space, next line, and the space, line and paragraph separators. -/
def isBlank (c : Char) : Bool :=
  let n := c.toNat
  (0x9 ≤ n && n ≤ 0xD) || n == 0x20 || n == 0x85 || n == 0xA0 || n == 0x1680 ||
    (0x2000 ≤ n && n ≤ 0x200A) || n == 0x2028 || n == 0x2029 || n == 0x202F || n == 0x205F ||
    n == 0x3000

def withoutBlanks (s : String) : String :=
  String.ofList (s.toList.filter fun c => !isBlank c)

def trimLeft (cs : List Char) : List Char := cs.dropWhile isBlank

def trimRight (cs : List Char) : List Char := (trimLeft cs.reverse).reverse

def trim (cs : List Char) : List Char := trimRight (trimLeft cs)

theorem toList_withoutBlanks (s : String) :
    (withoutBlanks s).toList = s.toList.filter fun c => !isBlank c := by
  simp [withoutBlanks]

theorem withoutBlanks_withoutBlanks (s : String) :
    withoutBlanks (withoutBlanks s) = withoutBlanks s := by
  simp [withoutBlanks]

end NumberingPlan.Text
