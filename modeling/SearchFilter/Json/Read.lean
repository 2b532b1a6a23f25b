/-
Reading JSON text.

The reader is strict: one value with nothing but blanks around it, no control characters in strings, no
half of a surrogate pair, and at most 127 arrays and objects inside one another.
-/
import SearchFilter.Json.Numeral

namespace SearchFilter.Json

/-- how many arrays and objects may stand inside one another -/
def maxNesting : Nat := 127

/-- blanks between tokens -/
def isSpace (c : Char) : Bool := c == ' ' || c == '\t' || c == '\n' || c == '\r'

def skip (s : List Char) : List Char := s.dropWhile isSpace

/-! ## Strings -/

def hexValue (c : Char) : Option Nat :=
  if '0' ≤ c ∧ c ≤ '9' then some (c.toNat - '0'.toNat)
  else if 'a' ≤ c ∧ c ≤ 'f' then some (c.toNat - 'a'.toNat + 10)
  else if 'A' ≤ c ∧ c ≤ 'F' then some (c.toNat - 'A'.toNat + 10)
  else none

def hexNumber (ds : List Char) : Option Nat :=
  ds.foldlM (fun n c => (hexValue c).map (16 * n + ·)) 0

def simpleEscape : Char → Option Char
  | '"' => some '"'
  | '\\' => some '\\'
  | '/' => some '/'
  | 'b' => some '\x08'
  | 'f' => some '\x0c'
  | 'n' => some '\n'
  | 'r' => some '\r'
  | 't' => some '\t'
  | _ => none

/-- what a four-digit escape adds: a character, the first half of a pair, or nothing valid -/
inductive Unit16 where
  | char (c : Char)
  | high (n : Nat)
  | invalid

/-- the escape `n` after the half `high` of a pair, if there is one -/
def unit16 (high : Option Nat) (n : Nat) : Unit16 :=
  match high with
  | some h =>
    if 0xDC00 ≤ n ∧ n < 0xE000 then .char (Char.ofNat (0x10000 + (h - 0xD800) * 0x400 + (n - 0xDC00)))
    else .invalid
  | none =>
    if 0xD800 ≤ n ∧ n < 0xDC00 then .high n
    else if 0xDC00 ≤ n ∧ n < 0xE000 then .invalid
    else .char (Char.ofNat n)

/-- The rest of a string up to its closing quote, and what follows. `high` is the first half of a pair that
still waits for the second. -/
def readString (high : Option Nat) : List Char → Option (List Char × List Char)
  | [] => none
  | '"' :: rest => if high.isSome then none else some ([], rest)
  | '\\' :: 'u' :: a :: b :: c :: d :: rest =>
    match hexNumber [a, b, c, d] with
    | none => none
    | some n =>
      match unit16 high n with
      | .char x => (readString none rest).map fun (s, r) => (x :: s, r)
      | .high h => readString (some h) rest
      | .invalid => none
  | '\\' :: c :: rest =>
    match high, simpleEscape c with
    | none, some x => (readString none rest).map fun (s, r) => (x :: s, r)
    | _, _ => none
  | c :: rest =>
    if high.isSome ∨ c.toNat < 32 ∨ c = '\\' then none
    else (readString none rest).map fun (s, r) => (c :: s, r)

/-! ## Values -/

/-- a value that is neither array nor object -/
def readScalar : List Char → Option (Value × List Char)
  | '"' :: rest => (readString none rest).map fun (s, r) => (.string (String.ofList s), r)
  | 'n' :: 'u' :: 'l' :: 'l' :: rest => some (.null, rest)
  | 't' :: 'r' :: 'u' :: 'e' :: rest => some (.bool true, rest)
  | 'f' :: 'a' :: 'l' :: 's' :: 'e' :: rest => some (.bool false, rest)
  | s =>
    match readNumeral s with
    | none => none
    | some (x, rest) => x.value.map fun n => (.number n, rest)

/-- items with commas between them, up to the closing bracket -/
def readItems {α : Type} (item : List Char → Option (α × List Char)) (close : Char) :
    Nat → List Char → Option (List α × List Char)
  | 0, _ => none
  | fuel + 1, s =>
    match item (skip s) with
    | none => none
    | some (x, s) =>
      match skip s with
      | [] => none
      | c :: rest =>
        if c = close then some ([x], rest)
        else if c = ',' then (readItems item close fuel rest).map fun (xs, r) => (x :: xs, r)
        else none

/-- the items of an array or object whose bracket was just read, possibly none -/
def readList {α : Type} (fuel : Nat) (item : List Char → Option (α × List Char)) (close : Char)
    (s : List Char) : Option (List α × List Char) :=
  match skip s with
  | [] => none
  | c :: rest => if c = close then some ([], rest) else readItems item close fuel (c :: rest)

/-- a key, a colon and a value -/
def readMember (value : List Char → Option (Value × List Char)) :
    List Char → Option ((String × Value) × List Char)
  | '"' :: rest =>
    match readString none rest with
    | none => none
    | some (key, s) =>
      match skip s with
      | ':' :: rest => (value (skip rest)).map fun (v, r) => ((String.ofList key, v), r)
      | _ => none
  | _ => none

/-- a value with at most `depth` arrays and objects inside one another -/
def readValue (fuel : Nat) : Nat → List Char → Option (Value × List Char)
  | 0, s => readScalar s
  | depth + 1, '[' :: rest =>
    (readList fuel (readValue fuel depth) ']' rest).map fun (xs, r) => (.array xs, r)
  | depth + 1, '{' :: rest =>
    (readList fuel (readMember (readValue fuel depth)) '}' rest).map fun (ms, r) =>
      (.object (Members.ofList ms), r)
  | _ + 1, s => readScalar s

/-- the value of a whole text -/
def parse (s : List Char) : Option Value :=
  match readValue (s.length + 1) maxNesting (skip s) with
  | some (v, rest) => if skip rest = [] then some v else none
  | none => none

end SearchFilter.Json
