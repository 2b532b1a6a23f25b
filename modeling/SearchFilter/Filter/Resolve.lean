/-
From skeleton and leaves to one predicate.

Fragments lie in a numbered pool, the leaf of comparison `i` in place `i`. A group takes its children's
fragments out of the pool and puts in one new fragment; a group of one child passes that child on. What
is left in the end must be a single fragment.
-/
import SearchFilter.Filter.Expr
import SearchFilter.Filter.Skeleton

namespace SearchFilter

/-- fragments by number; `none` marks one that was taken -/
abbrev Pool := List (Option Expr)

namespace Pool

def take? (p : Pool) (key : Nat) : Option (Expr × Pool) :=
  match p[key]? with
  | some (some e) => some (e, p.set key none)
  | _ => none

/-- take fragments out one after the other -/
def takeAll? (p : Pool) : List Nat → Option (List Expr × Pool)
  | [] => some ([], p)
  | k :: ks =>
    match p.take? k with
    | none => none
    | some (e, p) =>
      match takeAll? p ks with
      | none => none
      | some (es, p) => some (e :: es, p)

/-- the fragment left, if exactly one is -/
def single? (p : Pool) : Option Expr :=
  match p.filterMap id with
  | [e] => some e
  | _ => none

end Pool

/-- Whether a group joins its children by AND. NOT reads as the negation of a conjunction, and under an odd
number of negations AND and OR change places. -/
def Connective.isConjunction (c : Connective) (negatedInside : Bool) : Bool := (c != .or) ^^ negatedInside

def Expr.join (conjunction : Bool) (es : List Expr) : Expr := if conjunction then .and es else .or es

mutual

/-- number of the fragment of a node, and the pool after it was built -/
def Node.collapse (negated : Bool) (p : Pool) : Node → Except Fault (Nat × Pool)
  | .leaf i => .ok (i, p)
  | .group c children =>
    match Node.collapseAll (negated ^^ (c == .not)) p children with
    | .error e => .error e
    | .ok ([key], p) => .ok (key, p)
    | .ok (keys, p) =>
      match p.takeAll? keys with
      | none => .error .unresolvable
      | some (es, p) =>
        .ok (p.length, p ++ [some (Expr.join (c.isConjunction (negated ^^ (c == .not))) es)])

/-- numbers of the fragments of several nodes -/
def Node.collapseAll (negated : Bool) (p : Pool) : List Node → Except Fault (List Nat × Pool)
  | [] => .ok ([], p)
  | n :: ns =>
    match n.collapse negated p with
    | .error e => .error e
    | .ok (key, p) =>
      match Node.collapseAll negated p ns with
      | .error e => .error e
      | .ok (keys, p) => .ok (key :: keys, p)

end

/-- the predicate of a skeleton over its leaves -/
def resolve (filter : String) (skeleton : Node) (leaves : List Expr) : Except FilterError Expr :=
  match skeleton.collapse false (leaves.map some) with
  | .error e => .error ⟨e, filter⟩
  | .ok (_, p) =>
    match p.single? with
    | some e => .ok e
    | none => .error ⟨.unresolvable, filter⟩

end SearchFilter
