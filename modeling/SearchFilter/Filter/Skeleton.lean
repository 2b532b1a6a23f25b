/-
Group structure of a filter.

A skeleton is the tree of groups over numbered leaves. `Builder` reads tiles from left to right, keeping
the groups that are open and the finished root; `skeleton` is the tree it ends with. A leaf is negated
when an odd number of NOT groups stand above it.
-/
import SearchFilter.Filter.Tile

namespace SearchFilter

/-- logical operator of a group -/
inductive Connective where
  | and
  | or
  | not
  deriving DecidableEq, Repr

namespace Connective

def symbol : Connective → Char
  | and => '&'
  | or => '|'
  | not => '!'

/-- the operator written as this byte -/
def ofByte? (b : UInt8) : Option Connective :=
  if b = 38 then some and else if b = 124 then some or else if b = 33 then some not else none

/-- AND and OR need two operands, NOT needs one. -/
def admits : Connective → Nat → Bool
  | not, n => n > 0
  | _, n => n ≥ 2

end Connective

/-- groups over leaves, which are numbers of comparisons -/
inductive Node where
  | leaf (index : Nat)
  | group (connective : Connective) (children : List Node)
  deriving Repr

/-! ## Building -/

/-- a group still open, with the children it has so far -/
structure Frame where
  connective : Connective
  children : List Node

/-- open groups, the innermost first, and the finished root -/
structure Builder where
  opened : List Frame
  root : Option Node

namespace Builder

def start : Builder := ⟨[], none⟩

/-- every second element, from the second on -/
def everySecond {α : Type} : List α → List α
  | _ :: b :: rest => b :: everySecond rest
  | _ => []

/-- the bytes of a run of markers that name the operators: one after each parenthesis -/
def markerBytes (markers : String) : List UInt8 :=
  everySecond (markers.toList.flatMap String.utf8EncodeChar)

def openGroup (b : Builder) (marker : UInt8) : Except Fault Builder :=
  match Connective.ofByte? marker with
  | none => .error .unresolvable
  | some c =>
    if b.opened.length ≥ maxDepth then .error .tooDeep
    else .ok { b with opened := ⟨c, []⟩ :: b.opened }

/-- open groups one inside the other -/
def openGroups (b : Builder) : List UInt8 → Except Fault Builder
  | [] => .ok b
  | m :: ms => (b.openGroup m).bind fun b => b.openGroups ms

/-- hand a node to the innermost open group, or make it the root -/
def attach (b : Builder) (n : Node) : Except Fault Builder :=
  match b.opened with
  | f :: fs => .ok { b with opened := { f with children := f.children ++ [n] } :: fs }
  | [] =>
    match b.root with
    | none => .ok { b with root := some n }
    | some _ => .error .unresolvable

def closeGroup (b : Builder) : Except Fault Builder :=
  match b.opened with
  | [] => .error .unresolvable
  | f :: fs =>
    if f.connective.admits f.children.length then
      Builder.attach { b with opened := fs } (.group f.connective f.children)
    else .error .unresolvable

def closeGroups (b : Builder) : Nat → Except Fault Builder
  | 0 => .ok b
  | n + 1 => b.closeGroup.bind fun b => b.closeGroups n

/-- read the tile of comparison `index` -/
def step (b : Builder) (index : Nat) (t : Tile) : Except Fault Builder :=
  match b.root with
  | some _ => .error .unresolvable
  | none =>
    (b.openGroups (markerBytes t.markers)).bind fun b =>
    (b.attach (.leaf index)).bind fun b => b.closeGroups t.closing

/-- read tiles, the first of them being comparison `index` -/
def run (b : Builder) (index : Nat) : List Tile → Except Fault Builder
  | [] => .ok b
  | t :: ts => (b.step index t).bind fun b => b.run (index + 1) ts

/-- the root, once nothing is left open -/
def finish (b : Builder) : Except Fault Node :=
  match b.root, b.opened with
  | some n, [] => .ok n
  | _, _ => .error .unresolvable

end Builder

/-- the tree of groups over a row of tiles -/
def skeleton (filter : String) (tiles : List Tile) : Except FilterError Node :=
  ((Builder.start.run 0 tiles).bind Builder.finish).mapError fun e => ⟨e, filter⟩

/-! ## Negation -/

/-- set the negation of one comparison -/
def Tile.setNegated (negated : Bool) (t : Tile) : Tile :=
  { t with comparison := { t.comparison with negated := negated } }

mutual

/-- negation of every comparison below a node, under `negated` -/
def Node.assignNegation (negated : Bool) (tiles : List Tile) : Node → List Tile
  | .leaf i => tiles.modify i (Tile.setNegated negated)
  | .group c children => Node.assignNegations (negated ^^ (c == .not)) tiles children

/-- the same for a list of nodes, from left to right -/
def Node.assignNegations (negated : Bool) (tiles : List Tile) : List Node → List Tile
  | [] => tiles
  | n :: ns => Node.assignNegations negated (n.assignNegation negated tiles) ns

end

end SearchFilter
