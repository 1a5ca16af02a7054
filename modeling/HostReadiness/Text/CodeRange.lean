/-! Classes of characters given by a table of code point ranges. -/

namespace HostReadiness.Text

abbrev CodeRange := Nat × Nat

/-- Whether one of the ranges holds the code point. The ranges ascend, so the search ends at the
first one that begins above it. -/
def CodeRange.covers : List CodeRange → Nat → Bool
  | [], _ => false
  | (first, last) :: rest, code => first ≤ code && (code ≤ last || covers rest code)

end HostReadiness.Text
