/-
Regular expressions as they are written.

A `Term` is the tree of a pattern. It keeps the places that a report may point at, as offsets in characters. Flags
are parts of the tree: they hold from their place to the end of the group that they stand in.
-/
import SearchFilter.Text.Ranges

namespace SearchFilter.Regex

open SearchFilter.Text (CharSet)

structure Span where
  start : Nat
  stop : Nat
  deriving DecidableEq, Repr

/-- one character; `byte` marks the form with two hexadecimal digits -/
structure Literal where
  span : Span
  char : Char
  byte : Bool
  deriving DecidableEq, Repr

/-- switches of a pattern -/
inductive Flag where
  | ignoreCase
  | multiLine
  | dotAll
  | swapGreed
  | unicode
  | crlf
  | ignoreSpace
  deriving DecidableEq, Repr

/-- one item of a list of flags: a flag, or the minus sign that turns off the ones after it -/
structure FlagItem where
  span : Span
  flag : Option Flag
  deriving DecidableEq, Repr

/-- conditions on the place between two characters -/
inductive Assertion where
  | lineStart
  | lineEnd
  | textStart
  | textEnd
  | wordBoundary
  | notWordBoundary
  | wordStart
  | wordEnd
  | wordStartHalf
  | wordEndHalf
  deriving DecidableEq, Repr

/-- classes with a one-letter name -/
inductive Shorthand where
  | digit
  | space
  | word
  deriving DecidableEq, Repr

/-- a class by a Unicode property: a name on its own, or a name and a value -/
structure PropertyQuery where
  name : String
  value : Option String
  deriving DecidableEq, Repr

/-- how two sets in brackets are combined -/
inductive SetOp where
  | intersection
  | difference
  | symmetricDifference
  deriving DecidableEq, Repr

/-- what stands in brackets -/
inductive ClassItem where
  | empty (span : Span)
  | literal (l : Literal)
  | range (span : Span) (lo hi : Literal)
  | ascii (span : Span) (set : CharSet) (negated : Bool)
  | shorthand (span : Span) (s : Shorthand) (negated : Bool)
  | property (span : Span) (q : PropertyQuery) (negated : Bool)
  | bracketed (span : Span) (negated : Bool) (set : ClassItem)
  | union (span : Span) (items : List ClassItem)
  | combined (span : Span) (op : SetOp) (lhs rhs : ClassItem)

/-- a regular expression -/
inductive Term where
  | empty (span : Span)
  | flags (span : Span) (items : List FlagItem)
  | literal (l : Literal)
  | dot (span : Span)
  | assertion (span : Span) (a : Assertion)
  | shorthand (span : Span) (s : Shorthand) (negated : Bool)
  | property (span : Span) (q : PropertyQuery) (negated : Bool)
  | bracketed (span : Span) (negated : Bool) (set : ClassItem)
  | repeated (span : Span) (least : Nat) (most : Option Nat) (body : Term)
  | group (span : Span) (items : List FlagItem) (captures : Bool) (body : Term)
  | alternation (span : Span) (branches : List Term)
  | concat (span : Span) (parts : List Term)

def ClassItem.span : ClassItem → Span
  | .empty s => s
  | .literal l => l.span
  | .range s _ _ => s
  | .ascii s _ _ => s
  | .shorthand s _ _ => s
  | .property s _ _ => s
  | .bracketed s _ _ => s
  | .union s _ => s
  | .combined s _ _ _ => s

def Term.span : Term → Span
  | .empty s => s
  | .flags s _ => s
  | .literal l => l.span
  | .dot s => s
  | .assertion s _ => s
  | .shorthand s _ _ => s
  | .property s _ _ => s
  | .bracketed s _ _ => s
  | .repeated s _ _ _ => s
  | .group s _ _ _ => s
  | .alternation s _ => s
  | .concat s _ => s

/-- whether a list of flags turns a flag on or off; nothing if it does not name it -/
def flagState (f : Flag) (items : List FlagItem) : Option Bool :=
  match items with
  | [] => none
  | i :: rest =>
    match i.flag with
    | none => if rest.any fun j => j.flag == some f then some false else none
    | some g => if g = f then some true else flagState f rest

/-! ## Nesting -/

/-- how deep groups, brackets, repetitions and rows may stand inside one another -/
def nestLimit : Nat := 250

mutual

/-- the first part, from the outside, of a set in brackets that stands deeper than the limit -/
def ClassItem.tooDeep (depth : Nat) : ClassItem → Option Span
  | .bracketed s _ set => if depth ≥ nestLimit then some s else ClassItem.tooDeep (depth + 1) set
  | .union s items => if depth ≥ nestLimit then some s else ClassItem.tooDeepIn (depth + 1) items
  | .combined s _ lhs rhs =>
    if depth ≥ nestLimit then some s
    else (ClassItem.tooDeep (depth + 1) lhs).or (ClassItem.tooDeep (depth + 1) rhs)
  | _ => none

def ClassItem.tooDeepIn (depth : Nat) : List ClassItem → Option Span
  | [] => none
  | i :: rest => (ClassItem.tooDeep depth i).or (ClassItem.tooDeepIn depth rest)

end

mutual

/-- the first part, from the outside, of an expression that stands deeper than the limit -/
def Term.tooDeep (depth : Nat) : Term → Option Span
  | .bracketed s _ set => if depth ≥ nestLimit then some s else ClassItem.tooDeep (depth + 1) set
  | .repeated s _ _ body => if depth ≥ nestLimit then some s else Term.tooDeep (depth + 1) body
  | .group s _ _ body => if depth ≥ nestLimit then some s else Term.tooDeep (depth + 1) body
  | .alternation s branches => if depth ≥ nestLimit then some s else Term.tooDeepIn (depth + 1) branches
  | .concat s parts => if depth ≥ nestLimit then some s else Term.tooDeepIn (depth + 1) parts
  | _ => none

def Term.tooDeepIn (depth : Nat) : List Term → Option Span
  | [] => none
  | t :: rest => (Term.tooDeep depth t).or (Term.tooDeepIn depth rest)

end

end SearchFilter.Regex
