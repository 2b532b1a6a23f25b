/-
Reading TOML documents.

A document is a row of lines: blank ones, comments, headers, and keys with their values. `parse` gives the
root table, or nothing when the text breaks the grammar or a key is given twice.
-/
import SearchFilter.Toml.Table
import SearchFilter.Toml.Text

namespace SearchFilter.Toml

/-! ## Values -/

/-- the items of an array after its bracket -/
def readItems (item : List Char → Option (Value × List Char)) : Nat → List Char → Option (List Value × List Char)
  | 0, _ => none
  | fuel + 1, s =>
    match skipFiller (s.length + 1) s with
    | ']' :: rest => some ([], rest)
    | s =>
      match item s with
      | none => none
      | some (v, rest) =>
        match skipFiller (rest.length + 1) rest with
        | ',' :: rest => (readItems item fuel rest).map fun (vs, r) => (v :: vs, r)
        | ']' :: rest => some ([v], rest)
        | _ => none

/-- a key, an equals sign and a value -/
def readPair (item : List Char → Option (Value × List Char)) (s : List Char) :
    Option ((List String × String × Value) × List Char) :=
  match key? s with
  | none => none
  | some (path, key, rest) =>
    match skipWs rest with
    | '=' :: rest => (item (skipWs rest)).map fun (v, r) => ((path, key, v), r)
    | _ => none

/-- the pairs of an inline table after its brace, put into `t` -/
def readInline (item : List Char → Option (Value × List Char)) :
    Nat → Table → List Char → Option (List Char)
  | 0, _, _ => none
  | fuel + 1, t, s =>
    match readPair item (skipWs s) with
    | none => none
    | some ((path, key, v), rest) =>
      match t.putValue path key v with
      | none => none
      | some t =>
        match skipWs rest with
        | ',' :: rest => readInline item fuel t rest
        | '}' :: rest => some rest
        | _ => none

/-- a value that holds no other value -/
def readAtom : List Char → Option (Value × List Char)
  | 't' :: 'r' :: 'u' :: 'e' :: rest => some (.bool true, rest)
  | 'f' :: 'a' :: 'l' :: 's' :: 'e' :: rest => some (.bool false, rest)
  | s =>
    match s.head? with
    | some '"' => (string? s).map fun (x, r) => (.string (String.ofList x), r)
    | some '\'' => (string? s).map fun (x, r) => (.string (String.ofList x), r)
    | _ => (readScalar s).map fun (x, r) => (.scalar x, r)

/-- a value with at most `depth` arrays and inline tables inside one another -/
def readValue (fuel : Nat) : Nat → List Char → Option (Value × List Char)
  | depth + 1, '[' :: rest => (readItems (readValue fuel depth) fuel rest).map fun (vs, r) => (.array vs, r)
  | depth + 1, '{' :: rest =>
    match skipWs rest with
    | '}' :: rest => some (.table, rest)
    | rest => (readInline (readValue fuel depth) fuel .root rest).map fun r => (.table, r)
  | _, s => readAtom s

/-! ## Documents -/

/-- the root table, and the path of the table that keys are put into -/
structure Document where
  root : Table
  current : List String

/-- the closing brackets of a header and the end of its line -/
def headerEnd? (brackets : Nat) (s : List Char) : Option (List Char) :=
  let s := skipWs s
  if (s.take brackets).length = brackets ∧ (s.take brackets).all (· == ']') then lineEnd? (s.drop brackets)
  else none

/-- a header after its opening brackets -/
def readHeader (brackets : Nat) (start : List String → String → Table → Option Table) (d : Document)
    (s : List Char) : Option (Document × List Char) :=
  match key? (skipWs s) with
  | none => none
  | some (path, key, rest) =>
    match headerEnd? brackets rest, start path key d.root with
    | some rest, some root => some (⟨root, path ++ [key]⟩, rest)
    | _, _ => none

def readEntry (fuel : Nat) (d : Document) (s : List Char) : Option (Document × List Char) :=
  match readPair (readValue fuel maxNesting) s with
  | none => none
  | some ((path, key, v), rest) =>
    match lineEnd? rest, Table.updateAt false (Table.putValue path key v) d.current d.root with
    | some rest, some root => some ({ d with root := root }, rest)
    | _, _ => none

/-- one line that is not blank -/
def readLine (fuel : Nat) (d : Document) : List Char → Option (Document × List Char)
  | '#' :: rest => (lineEnd? ('#' :: rest)).map fun r => (d, r)
  | '[' :: '[' :: rest => readHeader 2 Table.openArrayTable d rest
  | '[' :: rest => readHeader 1 Table.openTable d rest
  | s => readEntry fuel d s

def readLines (fuel : Nat) : Nat → Document → List Char → Option Document
  | 0, _, _ => none
  | n + 1, d, s =>
    match skipWs s with
    | [] => some d
    | s =>
      match newline? s with
      | some rest => readLines fuel n d rest
      | none =>
        match readLine fuel d s with
        | none => none
        | some (d, rest) => readLines fuel n d rest

/-- without a byte order mark at the start -/
def dropMark : List Char → List Char
  | c :: rest => if c.toNat = 0xFEFF then rest else c :: rest
  | [] => []

/-- the root table of a document -/
def parse (s : List Char) : Option Table :=
  let s := dropMark s
  (readLines (s.length + 1) (s.length + 1) ⟨.root, []⟩ s).map Document.root

end SearchFilter.Toml
