/-
Numbers, dates and times of TOML.
-/
import SearchFilter.Number.Decimal
import SearchFilter.Json.Read

namespace SearchFilter.Toml

open SearchFilter.Text (isDigit)
open SearchFilter.Number (natOfDigits)

/-- a value that a number or date stands for -/
inductive Scalar where
  | integer (n : Int)
  | float
  | datetime
  deriving DecidableEq, Repr

/-! ## Digits -/

/-- digits in groups, an underscore between each two groups -/
def grouped (isOne : Char → Bool) : Nat → List Char → List Char × List Char
  | 0, s => ([], s)
  | fuel + 1, s =>
    let ds := s.takeWhile isOne
    match s.dropWhile isOne with
    | '_' :: c :: rest =>
      if !ds.isEmpty && isOne c then
        let (more, r) := grouped isOne fuel (c :: rest)
        (ds ++ more, r)
      else (ds, '_' :: c :: rest)
    | r => (ds, r)

/-- at least one digit, in groups -/
def digits? (isOne : Char → Bool) (s : List Char) : Option (List Char × List Char) :=
  let (ds, r) := grouped isOne (s.length + 1) s
  if ds.isEmpty then none else some (ds, r)

/-! ## Integers and floats -/

/-- integers have 64 bits -/
def inRange (n : Int) : Option Int :=
  if -9223372036854775808 ≤ n ∧ n ≤ 9223372036854775807 then some n else none

/-- value of digits in a base -/
def ofBase (base : Nat) (ds : List Char) : Nat :=
  ds.foldl (fun n c => base * n + (Json.hexValue c).getD 0) 0

def radix? : List Char → Option (Int × List Char)
  | '0' :: 'x' :: rest => read 16 (fun c => (Json.hexValue c).isSome) rest
  | '0' :: 'o' :: rest => read 8 (fun c => '0' ≤ c && c ≤ '7') rest
  | '0' :: 'b' :: rest => read 2 (fun c => c == '0' || c == '1') rest
  | _ => none
where
  read (base : Nat) (isOne : Char → Bool) (s : List Char) : Option (Int × List Char) :=
    match digits? isOne s with
    | none => none
    | some (ds, r) => (inRange (ofBase base ds)).map fun n => (n, r)

/-- the whole part of a decimal number, which begins with no zero unless it is zero -/
def wholePart? (s : List Char) : Option (List Char × List Char) :=
  match s with
  | '0' :: rest => some (['0'], rest)
  | _ => digits? isDigit s

/-- fraction and exponent: their text without underscores, and the rest -/
def fraction? : List Char → Option (List Char × List Char)
  | '.' :: rest => (digits? isDigit rest).map fun (ds, r) => ('.' :: ds, r)
  | _ => none

def exponent? : List Char → Option (List Char × List Char)
  | c :: rest =>
    if c = 'e' ∨ c = 'E' then
      match rest with
      | '+' :: more => (digits? isDigit more).map fun (ds, r) => ('e' :: ds, r)
      | '-' :: more => (digits? isDigit more).map fun (ds, r) => ('e' :: '-' :: ds, r)
      | _ => (digits? isDigit rest).map fun (ds, r) => ('e' :: ds, r)
    else none
  | [] => none

/-- a float of digits is not too large for 64 bits -/
def finiteFloat (text : List Char) : Bool :=
  match Number.double.read text with
  | some x => x != .infinite false
  | none => false

def decimal? (negative : Bool) (s : List Char) : Option (Scalar × List Char) :=
  match wholePart? s with
  | none => none
  | some (ds, rest) =>
    let sign := if negative then ['-'] else []
    let float (text : List Char) (r : List Char) : Option (Scalar × List Char) :=
      if finiteFloat (sign ++ text) then some (.float, r) else none
    match fraction? rest with
    | some (fraction, rest) =>
      match exponent? rest with
      | some (exponent, rest) => float (ds ++ fraction ++ exponent) rest
      | none => float (ds ++ fraction) rest
    | none =>
      match exponent? rest with
      | some (exponent, rest) => float (ds ++ exponent) rest
      | none =>
        let n : Int := natOfDigits 0 ds
        (inRange (if negative then -n else n)).map fun n => (.integer n, rest)

def special? : List Char → Option (Scalar × List Char)
  | 'i' :: 'n' :: 'f' :: rest => some (.float, rest)
  | 'n' :: 'a' :: 'n' :: rest => some (.float, rest)
  | _ => none

/-! ## Dates and times -/

/-- exactly `n` digits with a value between two bounds -/
def fixed? (n lo hi : Nat) (s : List Char) : Option (Nat × List Char) :=
  let ds := s.take n
  let v := natOfDigits 0 ds
  if ds.length = n ∧ ds.all isDigit ∧ lo ≤ v ∧ v ≤ hi then some (v, s.drop n) else none

/-- one given character -/
def expect? (c : Char) : List Char → Option (List Char)
  | x :: rest => if x = c then some rest else none
  | [] => none

def daysIn (year month : Nat) : Nat :=
  let leap := year % 4 = 0 ∧ (year % 100 ≠ 0 ∨ year % 400 = 0)
  if month = 2 then (if leap then 29 else 28) else if month ∈ [4, 6, 9, 11] then 30 else 31

def date? (s : List Char) : Option (List Char) := do
  let (year, s) ← fixed? 4 0 9999 s
  let s ← expect? '-' s
  let (month, s) ← fixed? 2 1 12 s
  let s ← expect? '-' s
  let (_, s) ← fixed? 2 1 (daysIn year month) s
  return s

/-- a fraction of a second, if there is one -/
def secondFraction : List Char → List Char
  | '.' :: c :: rest => if isDigit c then rest.dropWhile isDigit else '.' :: c :: rest
  | s => s

def time? (s : List Char) : Option (List Char) := do
  let (_, s) ← fixed? 2 0 23 s
  let s ← expect? ':' s
  let (_, s) ← fixed? 2 0 59 s
  let s ← expect? ':' s
  let (_, s) ← fixed? 2 0 60 s
  return secondFraction s

/-- an offset from universal time, if there is one -/
def offset? : List Char → Option (List Char)
  | [] => some []
  | c :: rest =>
    if c = 'Z' ∨ c = 'z' then some rest
    else if c = '+' ∨ c = '-' then do
      let (_, s) ← fixed? 2 0 23 rest
      let s ← expect? ':' s
      let (_, s) ← fixed? 2 0 59 s
      return s
    else some (c :: rest)

/-- a time of day after a date, if there is one -/
def timeAfterDate? : List Char → Option (List Char)
  | [] => some []
  | c :: rest =>
    if c = 'T' ∨ c = 't' ∨ (c = ' ' ∧ (fixed? 2 0 99 rest).isSome) then (time? rest).bind offset?
    else some (c :: rest)

/-- a date, a time, or both -/
def datetime? (s : List Char) : Option (List Char) :=
  match date? s with
  | some rest => timeAfterDate? rest
  | none => time? s

/-! ## Any number or date -/

/-- the text begins like a date or a time -/
def looksLikeDate (s : List Char) : Bool :=
  let ds := s.takeWhile isDigit
  let next := (s.dropWhile isDigit).head?
  (ds.length == 4 && next == some '-') || (ds.length == 2 && next == some ':')

/-- the number, date or time at the start of a text -/
def readScalar (s : List Char) : Option (Scalar × List Char) :=
  if looksLikeDate s then (datetime? s).map fun r => (.datetime, r)
  else
    match s with
    | '+' :: rest => (special? rest).orElse fun _ => decimal? false rest
    | '-' :: rest => (special? rest).orElse fun _ => decimal? true rest
    | '0' :: c :: rest =>
      if c = 'x' ∨ c = 'o' ∨ c = 'b' then (radix? ('0' :: c :: rest)).map fun (n, r) => (.integer n, r)
      else decimal? false s
    | _ => (special? s).orElse fun _ => decimal? false s

end SearchFilter.Toml
