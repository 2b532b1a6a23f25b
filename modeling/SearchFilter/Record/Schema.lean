/-
Field access, and the names a filter may use.

A record is read through a function from field names to texts, `none` standing for null. A schema maps a
property in lower case to the field's own spelling; of several spellings the last one counts.
-/
import SearchFilter.Text.Case

namespace SearchFilter

/-- a record, read by field name -/
abbrev Record := String → Option String

/-- lower-cased properties and their fields, each property once, in order of arrival -/
structure Schema where
  fields : List (String × String)
  deriving DecidableEq, Repr

namespace Schema

/-- the spelling of a property, replacing an earlier one -/
def put (fields : List (String × String)) (key name : String) : List (String × String) :=
  match fields with
  | [] => [(key, name)]
  | (k, n) :: rest => if k = key then (key, name) :: rest else (k, n) :: put rest key name

def ofNames (names : List String) : Schema :=
  ⟨names.foldl (fun fields name => put fields (Text.lowercase name) name) []⟩

/-- canonical name of a property, whatever its case -/
def resolve (s : Schema) (property : String) : Option String := s.fields.lookup (Text.lowercase property)

def size (s : Schema) : Nat := s.fields.length

/-- canonical names in order -/
def names (s : Schema) : List String := (s.fields.map Prod.snd).mergeSort (fun a b => !decide (b < a))

/-- equality as maps: the same properties with the same spellings -/
def same (a b : Schema) : Bool :=
  a.fields.length == b.fields.length && a.fields.all fun (k, n) => b.fields.lookup k == some n

end Schema
end SearchFilter
