/-
TOML values and the tables of a document.

A table is made by a header, by a key with dots, or on the way to another table. The rules on what may be
extended hang on two marks: `implicit` for a table that no header has named, and `dotted` for one made by a
key with dots. Of an array of tables only the last one can be extended, so only that one is kept.
-/
import SearchFilter.Toml.Number

namespace SearchFilter.Toml

/-- a value; of tables written inline only their presence counts -/
inductive Value where
  | string (s : String)
  | bool (b : Bool)
  | scalar (x : Scalar)
  | array (items : List Value)
  | table
  deriving Repr

/-- what a key of a table stands for -/
inductive Item where
  | value (v : Value)
  | table (implicit dotted : Bool) (entries : List (String × Item))
  | tables (last : List (String × Item))
  deriving Repr

/-- a table: its marks and its entries -/
structure Table where
  implicit : Bool
  dotted : Bool
  entries : List (String × Item)

namespace Table

def root : Table := ⟨false, false, []⟩

/-- an entry set, or replaced where it stands -/
def setEntry (key : String) (item : Item) : List (String × Item) → List (String × Item)
  | [] => [(key, item)]
  | (k, i) :: rest => if k = key then (key, item) :: rest else (k, i) :: setEntry key item rest

def set (t : Table) (key : String) (item : Item) : Table := { t with entries := setEntry key item t.entries }

/-- Changes the table at the end of a path, making the tables on the way. By a key with dots (`dotted`) no table
can be entered that a header has named, and a value can never be entered. -/
def updateAt (dotted : Bool) (change : Table → Option Table) : List String → Table → Option Table
  | [], t => change t
  | k :: ks, t =>
    match t.entries.lookup k with
    | none => (updateAt dotted change ks ⟨true, dotted, []⟩).map fun c => t.set k (.table c.implicit c.dotted c.entries)
    | some (.value _) => none
    | some (.tables last) => (updateAt dotted change ks ⟨false, false, last⟩).map fun c => t.set k (.tables c.entries)
    | some (.table implicit dot entries) =>
      if dotted && !implicit then none
      else (updateAt dotted change ks ⟨implicit, dot, entries⟩).map fun c =>
        t.set k (.table c.implicit c.dotted c.entries)

/-- a value under a key with dots; no key is given twice -/
def putValue (path : List String) (key : String) (v : Value) : Table → Option Table :=
  updateAt true (fun t =>
    if t.dotted == path.isEmpty then none
    else
      match t.entries.lookup key with
      | some _ => none
      | none => some (t.set key (.value v))) path

/-- a table named by a header; it may be one that was only on the way before -/
def openTable (path : List String) (key : String) : Table → Option Table :=
  updateAt false (fun t =>
    match t.entries.lookup key with
    | none => some (t.set key (.table false false []))
    | some (.table true false entries) => some (t.set key (.table false false entries))
    | some _ => none) path

/-- one more table in an array of tables -/
def openArrayTable (path : List String) (key : String) : Table → Option Table :=
  updateAt false (fun t =>
    match t.entries.lookup key with
    | none => some (t.set key (.tables []))
    | some (.tables _) => some (t.set key (.tables []))
    | some _ => none) path

end Table
end SearchFilter.Toml
