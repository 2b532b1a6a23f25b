/-
General categories of characters.
-/
import SearchFilter.Text.Ranges

namespace SearchFilter.Text

/-- general category of a character, by its two-letter code -/
inductive Category where
  | lu
  | ll
  | lt
  | lm
  | lo
  | mn
  | mc
  | me
  | nd
  | nl
  | no
  | pc
  | pd
  | ps
  | pe
  | pi
  | pf
  | po
  | sm
  | sc
  | sk
  | so
  | zs
  | zl
  | zp
  | cc
  | cf
  | co
  | cn
  deriving DecidableEq, Repr

/-- code points from `lo` to `hi` whose categories take turns -/
structure CategoryRun where
  lo : Nat
  hi : Nat
  first : Category
  second : Category

/-- category of a code point by ascending runs; what no run holds is unassigned -/
def categoryIn : List CategoryRun → Nat → Category
  | [], _ => .cn
  | r :: rest, n =>
    if n ≤ r.hi then
      if n < r.lo then .cn else if (n - r.lo) % 2 = 0 then r.first else r.second
    else categoryIn rest n

end SearchFilter.Text
