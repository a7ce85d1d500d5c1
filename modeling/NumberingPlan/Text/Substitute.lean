/-! Replacing the first occurrence of a piece of text. -/
namespace NumberingPlan.Text

/-- Replaces the leftmost occurrence of `old` by `new`; a text without one stays as it is. -/
def replaceFirst (old new : List Char) : List Char → List Char
  | [] => if old.isEmpty then new else []
  | c :: cs =>
    if old.isPrefixOf (c :: cs) then new ++ (c :: cs).drop old.length
    else c :: replaceFirst old new cs

end NumberingPlan.Text
