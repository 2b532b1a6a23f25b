/-
Binary numbers of bounded precision.

A `Format` fixes how many bits a number has and how far its exponents reach; `Format.round` sends an
exact ratio to the nearest number of the format, a tie to the even one. Numbers are ordered by their
exact value, and not-a-number is related to nothing.
-/

namespace SearchFilter.Number

def twoTo (n : Nat) : Nat := Nat.pow 2 n

def tenTo (n : Nat) : Nat := Nat.pow 10 n

/-- precision in bits, and the least and greatest exponent of the last bit -/
structure Format where
  precision : Nat
  least : Int
  greatest : Int

/-- 64-bit numbers -/
def double : Format := ⟨53, -1074, 971⟩

/-- 32-bit numbers -/
def single : Format := ⟨24, -149, 104⟩

/-- not-a-number, an infinity, or `± m · 2 ^ e` -/
inductive Binary where
  | nan
  | infinite (negative : Bool)
  | finite (negative : Bool) (m : Nat) (e : Int)
  deriving DecidableEq, Repr

namespace Binary

def zero : Binary := .finite false 0 0

def isFinite : Binary → Bool
  | .finite _ _ _ => true
  | _ => false

def isZero : Binary → Bool
  | .finite _ m _ => m == 0
  | _ => false

def negate : Binary → Binary
  | .nan => .nan
  | .infinite s => .infinite (!s)
  | .finite s m e => .finite (!s) m e

/-! ## Order -/

/-- `± m · 2 ^ e` counted in units of `2 ^ k`, for `k ≤ e` -/
def units (k : Int) (negative : Bool) (m : Nat) (e : Int) : Int :=
  let n : Int := (m * twoTo (e - k).toNat : Nat)
  if negative then -n else n

/-- order of two finite numbers by exact value -/
def finiteLe (s : Bool) (m : Nat) (e : Int) (s' : Bool) (m' : Nat) (e' : Int) : Bool :=
  units (min e e') s m e ≤ units (min e e') s' m' e'

def le : Binary → Binary → Bool
  | .nan, _ => false
  | _, .nan => false
  | .infinite true, _ => true
  | _, .infinite false => true
  | .infinite false, _ => false
  | _, .infinite true => false
  | .finite s m e, .finite s' m' e' => finiteLe s m e s' m' e'

def lt : Binary → Binary → Bool
  | .nan, _ => false
  | _, .nan => false
  | a, b => !le b a

end Binary

/-! ## Rounding -/

/-- the whole number nearest to `num / den`, the even one of two -/
def roundDiv (num den : Nat) : Nat :=
  let q := num / den
  let r := 2 * (num % den)
  if r < den || (r == den && q % 2 == 0) then q else q + 1

/-- `num / (den · 2 ^ e)` as a ratio -/
def scaleBy (num den : Nat) (e : Int) : Nat × Nat :=
  if e < 0 then (num * twoTo (-e).toNat, den) else (num, den * twoTo e.toNat)

/-- exponent of the last bit of the number nearest to `num / den` -/
def Format.exponentOf (f : Format) (num den : Nat) : Int :=
  let e := max f.least ((num.log2 : Int) - den.log2 - f.precision)
  let (n, d) := scaleBy num den e
  if n / d ≥ twoTo f.precision then e + 1 else e

/-- the number of the format nearest to `± num / den`, the even one of two -/
def Format.round (f : Format) (negative : Bool) (num den : Nat) : Binary :=
  if num = 0 then .finite negative 0 f.least
  else
    let e := f.exponentOf num den
    let (n, d) := scaleBy num den e
    let m := roundDiv n d
    let (m, e) := if m = twoTo f.precision then (twoTo (f.precision - 1), e + 1) else (m, e)
    if e > f.greatest then .infinite negative else .finite negative m e

/-! ## Arithmetic -/

/-- `m · 2 ^ e` as a ratio -/
def ratio (m : Nat) (e : Int) : Nat × Nat :=
  if e < 0 then (m, twoTo (-e).toNat) else (m * twoTo e.toNat, 1)

/-- product of two finite numbers, rounded to the format -/
def Format.mul (f : Format) : Binary → Binary → Binary
  | .finite s m e, .finite s' m' e' =>
    let (n, d) := ratio m e
    let (n', d') := ratio m' e'
    f.round (s != s') (n * n') (d * d')
  | x, _ => x

/-- quotient of two finite numbers, the second not zero, rounded to the format -/
def Format.div (f : Format) : Binary → Binary → Binary
  | .finite s m e, .finite s' m' e' =>
    let (n, d) := ratio m e
    let (n', d') := ratio m' e'
    f.round (s != s') (n * d') (d * n')
  | x, _ => x

end SearchFilter.Number
