/-
Records with declared fields of fixed types, and the text each type reads as.
-/
import SearchFilter.Number.Decimal
import SearchFilter.Number.Shortest
import SearchFilter.Record.Schema

namespace SearchFilter

inductive FieldValue where
  | text (s : String)
  | bool (b : Bool)
  | char (c : Char)
  | integer (n : Int)
  | double (x : Number.Binary)
  | single (x : Number.Binary)
  /-- a value that may be missing -/
  | optional (v : Option FieldValue)
  deriving Repr

/-- Numbers of fields are written without an exponent, and whole ones without a point. -/
def fieldLayout : Number.Layout where
  tie := .up
  keepPoint := false
  plain := none
  nan := "NaN"
  infinity := "inf"

/-- text a value reads as; `none` for null -/
def FieldValue.field : FieldValue → Option String
  | .text s => some s
  | .bool b => some (toString b)
  | .char c => some (String.singleton c)
  | .integer n => some (toString n)
  | .double x => some (fieldLayout.write Number.double x)
  | .single x => some (fieldLayout.write Number.single x)
  | .optional none => none
  | .optional (some v) => v.field

/-- a record with declared fields -/
structure TypedRecord where
  fields : List (String × FieldValue)

namespace TypedRecord

def record (r : TypedRecord) : Record := fun name => (r.fields.lookup name).bind FieldValue.field

end TypedRecord

/-! ## Reading values from text -/

/-- types a field may be declared with -/
inductive FieldType where
  | text
  | bool
  | char
  /-- whole numbers from `lo` to `hi`; a minus sign is read only if there are negative ones -/
  | integer (lo hi : Int)
  | double
  | single

def FieldType.signed (bits : Nat) : FieldType :=
  .integer (-(Number.twoTo (bits - 1) : Int)) (Number.twoTo (bits - 1) - 1 : Nat)

def FieldType.unsigned (bits : Nat) : FieldType := .integer 0 (Number.twoTo bits - 1 : Nat)

/-- a whole number between two bounds, with an optional sign -/
def readInteger (lo hi : Int) (s : List Char) : Option Int :=
  let (negative, ds) :=
    match s with
    | '-' :: rest => if lo < 0 then (true, rest) else (false, s)
    | '+' :: rest => (false, rest)
    | s => (false, s)
  if ds = [] ∨ !ds.all Text.isDigit then none
  else
    let n : Int := Number.natOfDigits 0 ds
    let n := if negative then -n else n
    if lo ≤ n ∧ n ≤ hi then some n else none

/-- the value of a type that a text denotes -/
def FieldType.read (t : FieldType) (s : String) : Option FieldValue :=
  match t with
  | .text => some (.text s)
  | .bool => if s = "true" then some (.bool true) else if s = "false" then some (.bool false) else none
  | .char =>
    match s.toList with
    | [c] => some (.char c)
    | _ => none
  | .integer lo hi => (readInteger lo hi s.toList).map .integer
  | .double => (Number.double.read s.toList).map .double
  | .single => (Number.single.read s.toList).map .single

end SearchFilter
