/-
JSON objects as records, and record files.

A field of an object is looked up by its exact key first, then by the first key equal to it ignoring the
case of `a`-`z`. Null reads as null, a string as itself, anything else as its compact text.

A record file is one JSON array, or one JSON value on each line that is not blank. `parseRecords` names the
first line that does not parse or, when all do, the first value that is not an object.
-/
import SearchFilter.Json.Read
import SearchFilter.Record.Schema

namespace SearchFilter

open SearchFilter.Json (Value Members)

/-! ## Fields -/

/-- text a value reads as; `none` for null -/
def Json.Value.field : Value → Option String
  | .null => none
  | .string s => some s
  | v => some v.text

def Json.Members.find? (ms : Members) (name : String) : Option Value :=
  match ms.lookup name with
  | some v => some v
  | none => (List.find? (fun m => Text.eqIgnoreAsciiCase m.1 name) ms).map Prod.snd

def Json.Members.record (ms : Members) : Record := fun name => (ms.find? name).bind Value.field

/-- A record of texts with exact keys. -/
def exactRecord (fields : List (String × String)) : Record := fun name => fields.lookup name

/-! ## Record files -/

/-- why a record file was refused: a line, counted from one, or a record, counted from zero -/
inductive InputError where
  | json (line : Nat)
  | notAnObject (index : Nat)
  deriving DecidableEq, Repr

/-- the wording, as far as it does not quote the parser -/
def InputError.message : InputError → String
  | .json line => "Invalid JSON on line " ++ toString line ++ ":"
  | .notAnObject index => "Record " ++ toString index ++ " is not a JSON object"

/-- lines of a text, which end at a line feed or at a carriage return and a line feed -/
def lines : List Char → List (List Char)
  | [] => []
  | '\n' :: rest => [] :: lines rest
  | '\r' :: '\n' :: rest => [] :: lines rest
  | c :: rest =>
    match lines rest with
    | [] => [[c]]
    | line :: more => (c :: line) :: more

/-- values of the lines from number `n` on that are not blank -/
def parseLines (n : Nat) : List (List Char) → Except InputError (List Value)
  | [] => .ok []
  | line :: rest =>
    if Text.trim line = [] then parseLines (n + 1) rest
    else
      match Json.parse line with
      | none => .error (.json n)
      | some v => (parseLines (n + 1) rest).map (v :: ·)

/-- values of a record file -/
def parseValues (s : List Char) : Except InputError (List Value) :=
  let trimmed := Text.trimStart s
  if trimmed.head? = some '[' then
    match Json.parse trimmed with
    | some (.array vs) => .ok vs
    | _ => .error (.json 1)
  else parseLines 1 (lines s)

/-- the objects among values, which must all be objects; the first has number `n` -/
def objects (n : Nat) : List Value → Except InputError (List Members)
  | [] => .ok []
  | .object ms :: rest => (objects (n + 1) rest).map (ms :: ·)
  | _ :: _ => .error (.notAnObject n)

/-- records of a file -/
def parseRecords (content : String) : Except InputError (List Members) :=
  (parseValues content.toList).bind (objects 0)

/-- without repetitions of neighbours -/
def dedup : List String → List String
  | a :: b :: rest => if a = b then dedup (b :: rest) else a :: dedup (b :: rest)
  | s => s

/-- every key of the records and the extra names -/
def schemaFor (records : List Members) (extra : List String) : Schema :=
  let names := records.flatMap (fun ms => ms.map Prod.fst) ++ extra
  .ofNames (dedup (names.mergeSort fun a b => !decide (b < a)))

end SearchFilter
