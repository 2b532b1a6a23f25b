/-
Sets and maps of characters given by ascending runs of code points.

A `CharSet` lists closed ranges in ascending order, a `CaseMap` lists runs of code points that are
sent to another run of the same shape. Both are searched from the left and the search stops at the
first run that reaches the code point.
-/

namespace SearchFilter.Text

/-- closed ranges of code points, ascending and apart -/
abbrev CharSet := List (Nat × Nat)

/-- whether a code point lies in one of the ranges -/
def CharSet.has : CharSet → Nat → Bool
  | [], _ => false
  | (lo, hi) :: rest, n => if n ≤ hi then lo ≤ n else CharSet.has rest n

/-- every `step`-th code point from `lo` to `hi`; the first one is sent to `image`, the others keep
their distance from it -/
structure CaseRun where
  lo : Nat
  hi : Nat
  step : Nat
  image : Nat

/-- runs in ascending order -/
abbrev CaseMap := List CaseRun

/-- image of a code point; one that no run holds is sent to itself -/
def CaseMap.image : CaseMap → Nat → Nat
  | [], n => n
  | r :: rest, n =>
    if n ≤ r.hi then
      if r.lo ≤ n && (n - r.lo) % r.step == 0 then r.image + (n - r.lo) else n
    else CaseMap.image rest n

end SearchFilter.Text
