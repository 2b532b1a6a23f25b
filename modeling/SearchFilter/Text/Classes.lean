/-
Character classes of the filter language, texts between braces, and trimming.
-/
import SearchFilter.Text.WordData

namespace SearchFilter.Text

/-- Characters with the property White_Space. -/
def blankRanges : CharSet := [
  (0x9, 0xD), (0x20, 0x20), (0x85, 0x85), (0xA0, 0xA0), (0x1680, 0x1680), (0x2000, 0x200A),
  (0x2028, 0x2029), (0x202F, 0x202F), (0x205F, 0x205F), (0x3000, 0x3000)]

/-- white space -/
def isBlank (c : Char) : Bool := blankRanges.has c.toNat

/-- a character that may stand in a word -/
def isWord (c : Char) : Bool := wordRanges.has c.toNat

def isDigit (c : Char) : Bool := '0' ≤ c && c ≤ '9'

def isLowerAscii (c : Char) : Bool := 'a' ≤ c && c ≤ 'z'

/-! ## Braces -/

def braced (s : String) : String := String.ofList ('{' :: (s.toList ++ ['}']))

@[simp] theorem toList_braced (s : String) : (braced s).toList = '{' :: (s.toList ++ ['}']) := String.toList_ofList

/-! ## Trimming -/

def trimStart (s : List Char) : List Char := s.dropWhile isBlank

def trimEnd (s : List Char) : List Char := (s.reverse.dropWhile isBlank).reverse

/-- without the white space at both ends -/
def trim (s : List Char) : List Char := trimEnd (trimStart s)

end SearchFilter.Text
