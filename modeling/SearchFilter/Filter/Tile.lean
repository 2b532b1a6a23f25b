/-
Filters as rows of tiles.

A tile is one comparison with the groups that open right before it and the parentheses that close right
after it. `Tile.scan` reads the tiles a text starts with, `extract` demands that they cover the whole
lower-cased filter and that the schema knows every property. Reading is deterministic: no part of a tile
can be read in two ways.
-/
import SearchFilter.Filter.Comparison
import SearchFilter.Filter.Error
import SearchFilter.Record.Schema
import SearchFilter.Text.Classes

namespace SearchFilter

open SearchFilter.Text (isWord isBlank isDigit isLowerAscii)

/-! ## Parentheses -/

/-- Checks the outer parentheses, then that as many open as close. -/
def validate (filter : String) : Except FilterError Unit :=
  let s := filter.toList
  if s.head? ≠ some '(' ∨ s.getLast? ≠ some ')' then .error ⟨.missingParentheses, filter⟩
  else if s.count '(' ≠ s.count ')' then .error ⟨.unbalanced, filter⟩
  else .ok ()

/-! ## Reading tiles -/

/-- a tile as it stands in the text -/
structure Tile.Raw where
  markers : List Char
  property : List Char
  operator : Operator
  value : List Char
  closing : Nat
  deriving DecidableEq, Repr

namespace Tile

/-- the character after the parenthesis that opens a group -/
def isMarker (c : Char) : Bool := c == '&' || c == '|' || c == '!'

/-- the groups that open at the start of a text -/
def openings : List Char → List Char × List Char
  | '(' :: c :: rest =>
    if isMarker c then
      let (ms, tail) := openings rest
      ('(' :: c :: ms, tail)
    else ([], '(' :: c :: rest)
  | s => ([], s)

/-- a character of a property -/
def isPropertyChar (c : Char) : Bool := isWord c || c == ':'

/-- a character of a literal -/
def isValueChar (c : Char) : Bool := c == wildcard || isLowerAscii c || isDigit c || isBlank c

/-- the operator at the start of a text, the longest that fits -/
def operatorAt? : List Char → Option (Operator × List Char)
  | '>' :: '=' :: rest => some (.greaterOrEqual, rest)
  | '<' :: '=' :: rest => some (.lessOrEqual, rest)
  | '~' :: '=' :: rest => some (.approximate, rest)
  | '>' :: rest => some (.greater, rest)
  | '<' :: rest => some (.less, rest)
  | '=' :: rest => some (.equal, rest)
  | _ => none

/-- `property operator value )`, and the rest -/
def body? (s : List Char) : Option (List Char × Operator × List Char × List Char) :=
  let property := s.takeWhile isPropertyChar
  match operatorAt? (s.dropWhile isPropertyChar) with
  | none => none
  | some (operator, rest) =>
    let value := rest.takeWhile isValueChar
    match rest.dropWhile isValueChar with
    | ')' :: tail => if property ≠ [] ∧ value ≠ [] then some (property, operator, value, tail) else none
    | _ => none

/-- the tile at the start of a text, and the rest -/
def read? (s : List Char) : Option (Raw × List Char) :=
  let (markers, rest) := openings s
  match rest with
  | '(' :: inner =>
    match body? inner with
    | none => none
    | some (property, operator, value, tail) =>
      some (⟨markers, property, operator, value, (tail.takeWhile (· == ')')).length⟩,
        tail.dropWhile (· == ')'))
  | _ => none

/-- the tiles at the start of a text, at most `fuel` of them, and the rest -/
def scanFor : Nat → List Char → List Raw × List Char
  | 0, s => ([], s)
  | fuel + 1, s =>
    match read? s with
    | none => ([], s)
    | some (t, rest) =>
      let (ts, tail) := scanFor fuel rest
      (t :: ts, tail)

/-- all the tiles at the start of a text, and the rest -/
def scan (s : List Char) : List Raw × List Char := scanFor s.length s

end Tile

/-! ## Extraction -/

/-- a comparison with the parentheses around it -/
structure Tile where
  /-- run of `(&`, `(|` and `(!` right before the comparison -/
  markers : String
  /-- number of groups closed right after it -/
  closing : Nat
  comparison : Comparison
  deriving DecidableEq, Repr

/-- A tile with its property resolved. As a first guess a comparison is negated when its own run of
markers holds a `!`. -/
def Tile.ofRaw (schema : Schema) (t : Tile.Raw) : Except Fault Tile :=
  let property := String.ofList t.property
  match schema.resolve property with
  | none => .error (.unknownProperty property)
  | some field =>
    .ok ⟨String.ofList t.markers, t.closing,
      ⟨field, t.operator, String.ofList t.value, t.markers.contains '!'⟩⟩

/-- tiles with their properties resolved, or the first property that is unknown -/
def resolveTiles (schema : Schema) : List Tile.Raw → Except Fault (List Tile)
  | [] => .ok []
  | t :: ts =>
    match Tile.ofRaw schema t with
    | .error e => .error e
    | .ok x =>
      match resolveTiles schema ts with
      | .error e => .error e
      | .ok xs => .ok (x :: xs)

/-- the tiles of a filter, which cover its lower-cased text -/
def extract (schema : Schema) (filter : String) : Except FilterError (List Tile) :=
  let (raw, rest) := Tile.scan (Text.lower filter.toList)
  match resolveTiles schema raw with
  | .error e => .error ⟨e, filter⟩
  | .ok tiles => if rest ≠ [] ∨ tiles = [] then .error ⟨.malformed, filter⟩ else .ok tiles

end SearchFilter
