/-
Decimal text and the binary numbers it denotes.

`read` takes an optional sign, then `inf`, `infinity` or `nan` in any case, or digits with an optional
point and an optional exponent; at least one digit stands beside the point. The number denoted is
the one of the format nearest to the exact decimal value.
-/
import SearchFilter.Number.Binary
import SearchFilter.Text.Case
import SearchFilter.Text.Classes

namespace SearchFilter.Number

open SearchFilter.Text (isDigit asciiLower)

/-- `± digits · 10 ^ exponent` -/
structure Decimal where
  negative : Bool
  digits : Nat
  exponent : Int
  deriving DecidableEq, Repr

def digitValue (c : Char) : Nat := c.toNat - '0'.toNat

/-- the number that a list of decimal digits denotes, after a number already read -/
def natOfDigits (start : Nat) (ds : List Char) : Nat :=
  ds.foldl (fun n c => 10 * n + digitValue c) start

/-- a sign, or none; `true` for minus -/
def readSign : List Char → Bool × List Char
  | '-' :: rest => (true, rest)
  | '+' :: rest => (false, rest)
  | s => (false, s)

/-- `e`, an optional sign and digits up to the end; nothing at all is exponent zero -/
def readExponent : List Char → Option Int
  | [] => some 0
  | c :: rest =>
    if c = 'e' ∨ c = 'E' then
      let (negative, ds) := readSign rest
      if ds ≠ [] ∧ ds.all isDigit then
        let n : Int := natOfDigits 0 ds
        some (if negative then -n else n)
      else none
    else none

/-- digits with an optional point and an optional exponent -/
def readMagnitude (negative : Bool) (s : List Char) : Option Decimal :=
  let whole := s.takeWhile isDigit
  let rest := s.dropWhile isDigit
  let (fraction, rest) :=
    match rest with
    | '.' :: more => (more.takeWhile isDigit, more.dropWhile isDigit)
    | _ => ([], rest)
  if whole = [] ∧ fraction = [] then none
  else
    (readExponent rest).map fun e =>
      ⟨negative, natOfDigits (natOfDigits 0 whole) fraction, e - fraction.length⟩

/-- Beyond these exponents every number of every format here is infinite or zero. -/
def exponentLimit : Int := 400

/-- the number of the format nearest to a decimal -/
def Format.ofDecimal (f : Format) (d : Decimal) : Binary :=
  if d.digits = 0 then f.round d.negative 0 1
  else if d.exponent > exponentLimit then .infinite d.negative
  else if d.exponent + (d.digits.log2 / 3 : Nat) + 2 < -exponentLimit then f.round d.negative 0 1
  else if d.exponent < 0 then f.round d.negative d.digits (tenTo (-d.exponent).toNat)
  else f.round d.negative (d.digits * tenTo d.exponent.toNat) 1

/-- the number a text denotes -/
def Format.read (f : Format) (s : List Char) : Option Binary :=
  let (negative, rest) := readSign s
  let word := rest.map asciiLower
  if word = "inf".toList ∨ word = "infinity".toList then some (.infinite negative)
  else if word = "nan".toList then some .nan
  else (readMagnitude negative rest).map f.ofDecimal

end SearchFilter.Number
