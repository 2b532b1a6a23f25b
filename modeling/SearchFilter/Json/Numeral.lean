/-
JSON numbers.

Digits are taken into a significand of 64 bits for as long as they fit; digits that do not fit only move
the point. The number is the significand, rounded, times or divided by a rounded power of ten. A number
too large for 64 bits is an error, one too small is zero.
-/
import SearchFilter.Json.Value
import SearchFilter.Number.Decimal

namespace SearchFilter.Json

open SearchFilter.Number (Binary double digitValue natOfDigits tenTo)
open SearchFilter.Text (isDigit)

/-- a number as it stands in the text -/
structure Numeral where
  negative : Bool
  whole : List Char
  fraction : List Char
  /-- sign and digits of the exponent -/
  exponent : Option (Bool × List Char)

/-! ## Reading -/

/-- a point and the digits after it, which must be there -/
def readFraction : List Char → Option (List Char × List Char)
  | '.' :: rest =>
    let ds := rest.takeWhile isDigit
    if ds.isEmpty then none else some (ds, rest.dropWhile isDigit)
  | s => some ([], s)

/-- an exponent mark with sign and digits, which must be there -/
def readExponent : List Char → Option (Option (Bool × List Char) × List Char)
  | [] => some (none, [])
  | c :: rest =>
    if c = 'e' ∨ c = 'E' then
      let (negative, rest) := Number.readSign rest
      let ds := rest.takeWhile isDigit
      if ds.isEmpty then none else some (some (negative, ds), rest.dropWhile isDigit)
    else some (none, c :: rest)

/-- the number at the start of a text: no sign but minus, and no zero before other digits -/
def readNumeral (s : List Char) : Option (Numeral × List Char) :=
  let (negative, s) :=
    match s with
    | '-' :: rest => (true, rest)
    | s => (false, s)
  let whole := s.takeWhile isDigit
  if whole.isEmpty ∨ (whole.head? = some '0' ∧ whole.length > 1) then none
  else
    match readFraction (s.dropWhile isDigit) with
    | none => none
    | some (fraction, rest) =>
      match readExponent rest with
      | none => none
      | some (exponent, rest) => some (⟨negative, whole, fraction, exponent⟩, rest)

/-! ## Value -/

/-- the greatest significand -/
def significandLimit : Nat := 18446744073709551615

/-- the greatest exponent that is computed with -/
def exponentLimit : Nat := 2147483647

/-- take digits for as long as the significand can hold them; the digits left over -/
def absorb (significand : Nat) : List Char → Nat × List Char
  | [] => (significand, [])
  | c :: rest =>
    let n := significand * 10 + digitValue c
    if n > significandLimit then (significand, c :: rest) else absorb n rest

/-- ten to the power `k`, rounded -/
def powerOfTen (k : Nat) : Binary := double.round false (tenTo k) 1

/-- `x · 10 ^ e` by rounded steps; `none` if it is too large -/
def scaleTen : Nat → Binary → Int → Option Binary
  | 0, _, _ => some (double.round false 0 1)
  | fuel + 1, x, e =>
    if 0 ≤ e then
      if e ≤ 308 then
        let y := double.mul x (powerOfTen e.toNat)
        if y.isFinite then some y else none
      else if x.isZero then some x else none
    else if -308 ≤ e then some (double.div x (powerOfTen (-e).toNat))
    else if x.isZero then some x
    else scaleTen fuel (double.div x (powerOfTen 308)) (e + 308)

/-- `± significand · 10 ^ e` -/
def ofParts (negative : Bool) (significand : Nat) (e : Int) : Option Number :=
  (scaleTen 4 (double.round false significand 1) e).map fun x => .real (if negative then x.negate else x)

/-- value of a whole number that the significand holds -/
def ofWhole (negative : Bool) (n : Nat) : Number :=
  if !negative then .whole n
  else if n = 0 ∨ n > 9223372036854775808 then .real (double.round true n 1)
  else .whole (-(n : Int))

/-- value of a number; `none` if it is too large -/
def Numeral.value (x : Numeral) : Option Number :=
  let (n, dropped) := absorb 0 x.whole
  let (m, rest) := absorb n x.fraction
  let e : Int := dropped.length - (x.fraction.length - rest.length : Nat)
  match x.exponent with
  | none =>
    if x.fraction.isEmpty then
      if dropped.isEmpty then some (ofWhole x.negative n) else ofParts x.negative n e
    else ofParts x.negative m e
  | some (negative, ds) =>
    let k := natOfDigits 0 ds
    if k > exponentLimit then
      if m ≠ 0 ∧ !negative then none else some (.real (double.round x.negative 0 1))
    else ofParts x.negative m (if negative then e - k else e + k)

end SearchFilter.Json
