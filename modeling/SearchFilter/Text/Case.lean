/-
Letter case of whole texts and of single characters.

`lower` is the full lower-case mapping of a text: a capital sigma at the end of a word becomes the
final small sigma, a capital I with dot becomes two characters, every other character is mapped on
its own. `upperHead` is the first character of an upper-case mapping, `fold` simple case folding,
under which two characters are equal ignoring case.
-/
import SearchFilter.Text.CaseData

namespace SearchFilter.Text

/-! ## Single characters -/

/-- a letter that has case -/
def isCased (c : Char) : Bool := casedRanges.has c.toNat

/-- a character that case rules look through -/
def isCaseIgnorable (c : Char) : Bool := ignorableRanges.has c.toNat

/-- lower-case form of a character outside any context -/
def lowerChar (c : Char) : List Char :=
  if c = 'İ' then ['i', '\u0307'] else [Char.ofNat (lowerRuns.image c.toNat)]

/-- first character of the upper-case form -/
def upperHead (c : Char) : Char := Char.ofNat (upperRuns.image c.toNat)

/-- representative of the characters equal to `c` under simple case folding -/
def fold (c : Char) : Char := Char.ofNat (foldRuns.image c.toNat)

/-- `a`-`z` for `A`-`Z`, every other character itself -/
def asciiLower (c : Char) : Char :=
  if 'A' ≤ c ∧ c ≤ 'Z' then Char.ofNat (c.toNat + 32) else c

/-! ## Whole texts -/

/-- the first character that case rules do not look through exists and has case -/
def casedAhead : List Char → Bool
  | [] => false
  | c :: rest => if isCaseIgnorable c then casedAhead rest else isCased c

/-- a capital sigma with these characters before it (nearest first) and after it -/
def lowerSigma (before after : List Char) : Char :=
  if casedAhead before && !casedAhead after then 'ς' else 'σ'

/-- lower-case form of the rest of a text, `before` being what precedes it, nearest first -/
def lowerFrom (before : List Char) : List Char → List Char
  | [] => []
  | c :: rest =>
    (if c = 'Σ' then [lowerSigma before rest] else lowerChar c) ++ lowerFrom (c :: before) rest

/-- lower-case form of a text -/
def lower (s : List Char) : List Char := lowerFrom [] s

def lowercase (s : String) : String := String.ofList (lower s.toList)

/-- equality that looks through the case of `a`-`z` only -/
def eqIgnoreAsciiCase (a b : String) : Bool := a.toList.map asciiLower == b.toList.map asciiLower

end SearchFilter.Text
