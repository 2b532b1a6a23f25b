/-
JSON values and their compact text.

Objects list their members by ascending key, each key once. A number is a whole number of 64 bits or a
binary number; its text is the shortest that reads back.
-/
import SearchFilter.Number.Shortest
import SearchFilter.Text.Quoted

namespace SearchFilter.Json

/-- a whole number, or a 64-bit binary number -/
inductive Number where
  | whole (n : Int)
  | real (x : SearchFilter.Number.Binary)
  deriving DecidableEq, Repr

/-- a JSON value -/
inductive Value where
  | null
  | bool (b : Bool)
  | number (n : Number)
  | string (s : String)
  | array (items : List Value)
  | object (members : List (String × Value))
  deriving Repr, Inhabited

abbrev Members := List (String × Value)

/-- a member at its place by key, replacing one of the same key -/
def Members.insert (key : String) (value : Value) : Members → Members
  | [] => [(key, value)]
  | (k, v) :: rest =>
    if key = k then (key, value) :: rest
    else if key < k then (key, value) :: (k, v) :: rest
    else (k, v) :: Members.insert key value rest

/-- members in order of key; of several with one key the last -/
def Members.ofList (ms : List (String × Value)) : Members :=
  ms.foldl (fun acc (k, v) => Members.insert k v acc) []

/-- Numbers from `0.00001` up to sixteen digits are written without an exponent. -/
def numberLayout : SearchFilter.Number.Layout where
  tie := .even
  keepPoint := true
  plain := some (-4, 16)
  nan := "null"
  infinity := "null"

def Number.text : Number → String
  | .whole n => toString n
  | .real x => numberLayout.write SearchFilter.Number.double x

def escapeChar (c : Char) : List Char :=
  if c = '"' then ['\\', '"']
  else if c = '\\' then ['\\', '\\']
  else if c = '\x08' then ['\\', 'b']
  else if c = '\x0c' then ['\\', 'f']
  else if c = '\n' then ['\\', 'n']
  else if c = '\r' then ['\\', 'r']
  else if c = '\t' then ['\\', 't']
  else if c.toNat < 32 then
    ['\\', 'u', '0', '0'] ++ (if c.toNat < 16 then ['0'] else []) ++ Text.hexDigits c.toNat
  else [c]

/-- a string between quotes -/
def stringText (s : String) : String := String.ofList ('"' :: s.toList.flatMap escapeChar ++ ['"'])

mutual

/-- compact text of a value -/
def Value.text : Value → String
  | .null => "null"
  | .bool b => toString b
  | .number n => n.text
  | .string s => stringText s
  | .array items => "[" ++ ",".intercalate (Value.texts items) ++ "]"
  | .object members => Text.braced (",".intercalate (Value.memberTexts members))

def Value.texts : List Value → List String
  | [] => []
  | v :: vs => v.text :: Value.texts vs

def Value.memberTexts : List (String × Value) → List String
  | [] => []
  | (k, v) :: rest => (stringText k ++ ":" ++ v.text) :: Value.memberTexts rest

end

def Members.text (ms : Members) : String := (Value.object ms).text

end SearchFilter.Json
