/-
Columns a text takes in a fixed-width layout.

On its own a wide character takes two columns, a mark or an invisible character none, any other
one. A variation selector changes how the character before it is drawn, and characters that combine
with what follows them add fewer or more columns. So a text is measured from its last character to
its first: `step` gives the columns that one more character in front adds, `width` is their sum.
-/
import SearchFilter.Text.Tail

namespace SearchFilter.Text

/-- columns of one character that is drawn on its own -/
def charWidth (n : Nat) : Nat :=
  if n ≤ 0xA0 then 1
  else if zeroWidthRanges.has n then 0
  else if n = 0x17D8 then 3
  else if wideRanges.has n then 2
  else 1

/-- variation selectors that change how wide the character before them is drawn -/
inductive Selector where
  | text
  | picture
  | fullWidth
  deriving DecidableEq, Repr

namespace Selector

/-- the selector a character is, if it is one -/
def ofCode? (n : Nat) : Option Selector :=
  if n = 0xFE0E then some text
  else if n = 0xFE0F then some picture
  else if n = 0xFE01 then some fullWidth
  else none

/-- columns of a character that the selector applies to -/
def width? (n : Nat) : Selector → Option Nat
  | text => if textVariantRanges.has n then some 1 else none
  | picture => if pictureVariantRanges.has n then some 2 else none
  | fullWidth => if n = 0x2018 || n = 0x2019 || n = 0x201C || n = 0x201D then some 2 else none

/-- what the character in front of the selector has to know of the text after it: letters merge
across every selector, joined pictures only with a picture -/
def leaves (s : Selector) (t : Tail) : Tail :=
  if t.isLetter || (s = picture && t.isJoined) then t else .plain

end Selector

/-- beginning of a text: a selector, if there is one, and what stands after it -/
structure Opening where
  selector : Option Selector
  tail : Tail
  deriving DecidableEq, Repr

namespace Opening

def plain : Opening := ⟨none, .plain⟩

/-- the character `n` in front of a text, when the selector at the beginning applies to it -/
def select? (n : Nat) (o : Opening) : Option (Int × Opening) :=
  match o.selector with
  | none => none
  | some .picture =>
    (Selector.picture.width? n).map fun w =>
      (if o.tail.isJoined then 0 else Int.ofNat w, ⟨none, .picture⟩)
  | some s => (s.width? n).map fun w => (Int.ofNat w, plain)

/-- what is left of the beginning when its selector applies to nothing -/
def unselected (o : Opening) : Tail :=
  if o.selector.isNone || o.tail.isLetter then o.tail else .plain

/-- columns that the character `n` adds in front of a text, and the beginning of the longer text -/
def step (n : Nat) (o : Opening) : Int × Opening :=
  match o.select? n with
  | some r => r
  | none =>
    if n ≤ 0xA0 then (1, plain)
    else
      match Selector.ofCode? n with
      | some s => (0, ⟨some s, s.leaves o.unselected⟩)
      | none =>
        match o.unselected.combine n with
        | some (w, t) => (w, ⟨none, t⟩)
        | none => (charWidth n, ⟨none, .start n⟩)

end Opening

/-- one more character in front of a measured text -/
def extend (c : Char) (r : Int × Opening) : Int × Opening :=
  let (added, o) := r.2.step c.toNat
  (r.1 + added, o)

/-- columns of a text on one line, and its beginning -/
def measure (s : List Char) : Int × Opening := s.foldr extend (0, .plain)

def width (s : List Char) : Nat := (measure s).1.toNat

/-- `s` followed by blanks up to `n` columns -/
def padTo (n : Nat) (s : String) : String :=
  s ++ String.ofList (List.replicate (n - width s.toList) ' ')

end SearchFilter.Text
