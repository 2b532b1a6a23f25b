/-
Compiled regular expressions and matching.

`Pattern.advance` says what an expression does to a set of places in a text: from which places it can take
characters up to which places. It follows the expression part by part; a repetition goes on from the places it has
newly reached until there are none. A text matches when some place can be reached from some place.

Sets of places are lists in descending order, so that the places a repetition reaches one after the other are added
at the front.
-/
import SearchFilter.Regex.CharClass
import SearchFilter.Text.Classes

namespace SearchFilter.Regex

/-- conditions on a place of a text -/
inductive Look where
  | textStart
  | textEnd
  | lineStart
  | lineEnd
  /-- as `lineStart` and `lineEnd`, but a line also ends at a carriage return, alone or before a line feed -/
  | lineStartCrlf
  | lineEndCrlf
  /-- `before` and `after` say what is asked of the characters around: to be in a word or not, or nothing -/
  | word (unicode : Bool) (before after : Option Bool)
  | wordBoundary (unicode : Bool)
  | notWordBoundary (unicode : Bool)
  deriving DecidableEq, Repr

/-- a compiled expression -/
inductive Pattern where
  | empty
  | one (c : CharClass)
  | look (l : Look)
  | seq (a b : Pattern)
  | alt (a b : Pattern)
  | times (p : Pattern) (least : Nat) (most : Option Nat)
  | capture (p : Pattern)

/-! ## Places -/

def before? (text : Array Char) (i : Nat) : Option Char := if i = 0 then none else text[i - 1]?

def inWord (unicode : Bool) (c : Option Char) : Bool :=
  match c with
  | none => false
  | some c => if unicode then Text.isWord c else c.isAlphanum || c = '_'

/-- whether a condition holds at a place -/
def Look.holds (text : Array Char) (i : Nat) : Look → Bool
  | .textStart => i = 0
  | .textEnd => i = text.size
  | .lineStart => i = 0 || before? text i = some '\n'
  | .lineEnd => i = text.size || text[i]? = some '\n'
  | .lineStartCrlf =>
    i = 0 || before? text i = some '\n' || (before? text i = some '\r' && text[i]? != some '\n')
  | .lineEndCrlf =>
    i = text.size || text[i]? = some '\r' || (text[i]? = some '\n' && before? text i != some '\r')
  | .word unicode before after =>
    before.all (· == inWord unicode (before? text i)) && after.all (· == inWord unicode text[i]?)
  | .wordBoundary unicode => inWord unicode (before? text i) != inWord unicode text[i]?
  | .notWordBoundary unicode => inWord unicode (before? text i) == inWord unicode text[i]?

/-- the places of either set; both are in descending order -/
def joinPlaces : List Nat → List Nat → List Nat
  | [], ys => ys
  | x :: xs, ys =>
    let rec insert : List Nat → List Nat
      | [] => x :: xs
      | y :: ys =>
        if y < x then x :: joinPlaces xs (y :: ys)
        else if x < y then y :: insert ys
        else x :: joinPlaces xs ys
    insert ys

/-- the places of the first set that are not in the second; both are in descending order -/
def newPlaces : List Nat → List Nat → List Nat
  | [], _ => []
  | x :: xs, ys =>
    let ys := ys.dropWhile (x < ·)
    if ys.head? = some x then newPlaces xs ys else x :: newPlaces xs ys

/-- a step taken `n` times -/
def iterate (f : List Nat → List Nat) : Nat → List Nat → List Nat
  | 0, places => places
  | n + 1, places => if places.isEmpty then [] else iterate f n (f places)

/-- All places reached by up to `n` steps from `latest`, and the ones of `seen`. Only new places are stepped from. -/
def spread (f : List Nat → List Nat) : Nat → List Nat → List Nat → List Nat
  | 0, _, seen => seen
  | n + 1, latest, seen =>
    let latest := newPlaces (f latest) seen
    if latest.isEmpty then seen else spread f n latest (joinPlaces latest seen)

/-! ## Matching -/

namespace Pattern

/-- The places an expression can end at when it starts at one of the given places. In a text of `n` characters a
repetition goes through at most `n` others before it returns to a place, so more than `n + 1` rounds change nothing. -/
def advance (text : Array Char) : Pattern → List Nat → List Nat
  | empty, places => places
  | one c, places =>
    places.filterMap fun i => if (text[i]?).any fun x => c.has x.toNat then some (i + 1) else none
  | look l, places => places.filter fun i => l.holds text i
  | seq a b, places => advance text b (advance text a places)
  | alt a b, places => joinPlaces (advance text a places) (advance text b places)
  | times p least most, places =>
    let rounds := text.size + 1
    let start := iterate (advance text p) (min least rounds) places
    spread (advance text p) (min (most.elim rounds (· - least)) rounds) start start
  | capture p, places => advance text p places

def allPlaces (n : Nat) : List Nat := (List.range (n + 1)).reverse

/-- whether an expression matches somewhere in a text -/
def isMatch (p : Pattern) (text : String) : Bool :=
  let chars := text.toList.toArray
  !(p.advance chars (allPlaces chars.size)).isEmpty

/-! ## Size -/

/-- bytes that a character or a set takes in a compiled expression -/
def classSize : CharClass → Nat
  | .ranges [(lo, hi)] =>
    if lo = hi then 32 * (Char.ofNat lo).utf8Size else if hi ≤ 0x7F then 72 else 448
  | c => if c.isAscii then 64 + 8 * c.rangeCount else 424 + 24 * c.rangeCount

/-- an expression that takes no characters -/
def isZeroWidth : Pattern → Bool
  | empty => true
  | one _ => false
  | look _ => true
  | seq a b => isZeroWidth a && isZeroWidth b
  | alt a b => isZeroWidth a && isZeroWidth b
  | times p _ most => isZeroWidth p || most == some 0
  | capture p => isZeroWidth p

/-- An estimate of the bytes that a compiled expression takes. To repeat what takes no characters changes nothing. -/
def size : Pattern → Nat
  | empty => 32
  | one c => classSize c
  | look _ => 32
  | seq a b => size a + size b
  | alt a b => size a + size b + 40
  | times p least most =>
    if isZeroWidth p then size p + 40
    else
      match most with
      | none => max least 1 * size p + 40
      | some most => least * size p + (most - least) * (size p + 40) + 32
  | capture p => size p + 64

end Pattern
end SearchFilter.Regex
