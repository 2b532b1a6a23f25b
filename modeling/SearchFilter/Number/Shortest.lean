/-
The fewest decimal digits that read back, and two layouts of them.

`shortest` looks at ever finer decimal grids and takes the first grid with a point that rounds to the
number; of two such points the nearer, and an exact tie as `Tie` says. `Layout` says how the digits
are written: when an exponent is used and whether a whole number keeps its point.
-/
import SearchFilter.Number.Binary

namespace SearchFilter.Number

/-- which of two equally near decimals is taken -/
inductive Tie where
  | even
  | up

/-- the reals that round to `m · 2 ^ e`, in units of `2 ^ (e - 2)`: both ends, and whether they belong -/
def Format.interval (f : Format) (m : Nat) (e : Int) : Nat × Nat × Bool :=
  let low := if m = twoTo (f.precision - 1) ∧ e > f.least then 4 * m - 1 else 4 * m - 2
  (low, 4 * m + 2, m % 2 == 0)

/-- the point of the grid of step `10 ^ g` that rounds to `m · 2 ^ e` and is nearest to it -/
def Format.onGrid (f : Format) (tie : Tie) (m : Nat) (e g : Int) : Option Nat :=
  let p := tenTo g.toNat * twoTo (2 - e).toNat
  let q := tenTo (-g).toNat * twoTo (e - 2).toNat
  let (low, high, closed) := f.interval m e
  let v := 4 * m * q
  let inside (d : Nat) : Bool :=
    if closed then low * q ≤ d * p && d * p ≤ high * q else low * q < d * p && d * p < high * q
  let d := v / p
  let below := v - d * p
  let above := (d + 1) * p - v
  match inside d, inside (d + 1) with
  | false, false => none
  | true, false => some d
  | false, true => some (d + 1)
  | true, true =>
    if below < above then some d
    else if above < below then some (d + 1)
    else
      match tie with
      | .up => some (d + 1)
      | .even => some (if d % 2 = 0 then d else d + 1)

/-- grids from step `10 ^ g` on, each ten times finer than the one before -/
def Format.refine (f : Format) (tie : Tie) (m : Nat) (e : Int) : Nat → Int → Nat × Int
  | 0, g => (0, g)
  | fuel + 1, g =>
    match f.onGrid tie m e g with
    | some d => (d, g)
    | none => f.refine tie m e fuel (g - 1)

/-- `(d, g)` with `d · 10 ^ g` the shortest decimal that reads back as `m · 2 ^ e` -/
def Format.shortest (f : Format) (tie : Tie) (m : Nat) (e : Int) : Nat × Int :=
  f.refine tie m e 40 ((m.log2 + e) * 30103 / 100000 + 2)

/-! ## Layout -/

/-- how a number is written -/
structure Layout where
  tie : Tie
  /-- a whole number ends in `.0` -/
  keepPoint : Bool
  /-- an exponent is written when the point would stand outside these places from the first digit -/
  plain : Option (Int × Int)
  nan : String
  infinity : String

def zeros (n : Nat) : String := String.ofList (List.replicate n '0')

/-- digits with the point `point` places after their start -/
def Layout.positional (l : Layout) (ds : List Char) (point : Int) : String :=
  let n := ds.length
  if point ≤ 0 then "0." ++ zeros (-point).toNat ++ String.ofList ds
  else if point.toNat < n then
    String.ofList (ds.take point.toNat) ++ "." ++ String.ofList (ds.drop point.toNat)
  else String.ofList ds ++ zeros (point.toNat - n) ++ (if l.keepPoint then ".0" else "")

/-- one digit, the others after a point, and a signed exponent -/
def scientific (ds : List Char) (point : Int) : String :=
  let rest := ds.drop 1
  String.ofList (ds.take 1) ++ (if rest.isEmpty then "" else "." ++ String.ofList rest) ++ "e" ++
    (if point - 1 < 0 then "-" else "+") ++ toString (point - 1).natAbs

def Layout.write (l : Layout) (f : Format) : Binary → String
  | .nan => l.nan
  | .infinite s => (if s then "-" else "") ++ l.infinity
  | .finite s m e =>
    (if s then "-" else "") ++
    if m = 0 then (if l.keepPoint then "0.0" else "0")
    else
      let (d, g) := f.shortest l.tie m e
      let ds := Nat.toDigits 10 d
      let point := ds.length + g
      match l.plain with
      | none => l.positional ds point
      | some (lo, hi) => if lo ≤ point ∧ point ≤ hi then l.positional ds point else scientific ds point

end SearchFilter.Number
