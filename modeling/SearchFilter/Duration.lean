/-
Lengths of time in whole nanoseconds, and their text: the largest of the units s, ms, µs and ns that
is not above the duration, with the fraction written without trailing zeros.
-/

namespace SearchFilter

/-- a length of time -/
structure Duration where
  nanoseconds : Nat
  deriving DecidableEq, Repr

namespace Duration

def ofMilliseconds (n : Nat) : Duration := ⟨n * 1000000⟩

def second : Duration := ⟨1000000000⟩

/-- `n` with at least `places` digits -/
def padded (places n : Nat) : List Char :=
  let ds := Nat.toDigits 10 n
  List.replicate (places - ds.length) '0' ++ ds

def dropZeros (ds : List Char) : List Char := (ds.reverse.dropWhile (· == '0')).reverse

/-- `n` counted in units of `10 ^ places` -/
def inUnits (n places : Nat) (unit : String) : String :=
  let size := Nat.pow 10 places
  let fraction := dropZeros (padded places (n % size))
  let point := if fraction.isEmpty then "" else "."
  toString (n / size) ++ point ++ String.ofList fraction ++ unit

def text (d : Duration) : String :=
  let n := d.nanoseconds
  if n ≥ 1000000000 then inUnits n 9 "s"
  else if n ≥ 1000000 then inUnits n 6 "ms"
  else if n ≥ 1000 then inUnits n 3 "µs"
  else toString n ++ "ns"

end Duration
end SearchFilter
