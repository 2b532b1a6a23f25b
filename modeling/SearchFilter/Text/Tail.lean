/-
What the beginning of a text does to the character in front of it.

Some characters are drawn together with the ones after them: letters of several scripts merge, a
skin tone colours a picture, joined pictures show as one, regional indicators pair up to flags.
`Tail` keeps of a text what the character in front of it has to know, `Tail.start` gives it for a
text that begins with a character drawn on its own, and `Tail.combine` says which characters are
drawn together with what follows, how many columns they add and what the text then begins with.
-/
import SearchFilter.Text.DisplayData
import SearchFilter.Text.EmojiData

namespace SearchFilter.Text

/-- letters that merge with a letter before them when a joiner stands between -/
inductive Joinable where
  | lamed
  | bugineseYa
  | tifinagh
  | orkhonI
  deriving DecidableEq, Repr

/-- beginning of a text, as far as the character in front of it depends on it -/
inductive Tail where
  /-- nothing that combines -/
  | plain
  /-- an Arabic alef, possibly after marks -/
  | alef
  /-- a letter, possibly with a joiner before it -/
  | letter (l : Joinable) (joined : Bool)
  /-- the Buginese vowel sign i, a joiner and ya -/
  | bugineseIYa
  /-- a Khmer letter that can be written below another -/
  | khmerLetter
  /-- the Tifinagh joiner and a consonant -/
  | tifinaghJoiner
  /-- a Lisu tone letter that follows another -/
  | lisuTone
  /-- the Kirat Rai vowel sign e -/
  | kiratE
  /-- the Kirat Rai vowel sign ai -/
  | kiratAI
  /-- a picture -/
  | picture
  /-- a skin tone -/
  | tone
  /-- one regional indicator -/
  | region
  /-- two or more regional indicators -/
  | regions
  /-- a joiner and a picture -/
  | joined
  /-- a keycap, a joiner and a picture -/
  | joinedKeycap
  /-- one regional indicator, a joiner and a picture -/
  | joinedRegion
  /-- an even number of regional indicators, a joiner and a picture -/
  | joinedRegionsEven
  /-- an odd number of regional indicators above one, a joiner and a picture -/
  | joinedRegionsOdd
  /-- `n` tag letters, the closing tag, a joiner and a picture -/
  | tagLetters (n : Nat)
  /-- `n` tag digits before tag letters, the closing tag, a joiner and a picture -/
  | tagDigits (n : Nat)
  deriving DecidableEq, Repr

/-! ## Characters by their part in a combination -/

def joinerCode : Nat := 0x200D

/-- letters that show as an alef -/
def alefRanges : CharSet := [
  (0x622, 0x623), (0x625, 0x625), (0x627, 0x627), (0x671, 0x673), (0x675, 0x675), (0x773, 0x774),
  (0x870, 0x882)]

/-- letters that show as a lam -/
def lamRanges : CharSet := [
  (0x644, 0x644), (0x6B5, 0x6B8), (0x76A, 0x76A), (0x8A6, 0x8A6), (0x8C7, 0x8C7)]

/-- Khmer letters with a form below another letter -/
def khmerLetterRanges : CharSet := [
  (0x1780, 0x1782), (0x1784, 0x1787), (0x1789, 0x178C), (0x178E, 0x1793), (0x1795, 0x1798),
  (0x179B, 0x179D), (0x17A0, 0x17A0), (0x17A2, 0x17A2), (0x17A7, 0x17A7), (0x17AB, 0x17AC),
  (0x17AF, 0x17AF)]

/-- Tifinagh consonants -/
def tifinaghRanges : CharSet := [(0x2D31, 0x2D65), (0x2D6F, 0x2D6F)]

/-- marks that may stand inside a merged pair of letters -/
def ligatureMarkRanges : CharSet := [
  (0x34F, 0x34F), (0x17B4, 0x17B5), (0x180B, 0x180D), (0x180F, 0x180F), (0xFE00, 0xFE0F),
  (0xE0100, 0xE01EF)]

def isRegion (n : Nat) : Bool := 0x1F1E6 ≤ n && n ≤ 0x1F1FF

def isTone (n : Nat) : Bool := 0x1F3FB ≤ n && n ≤ 0x1F3FF

def isTagLetter (n : Nat) : Bool := 0xE0061 ≤ n && n ≤ 0xE007A

def isTagDigit (n : Nat) : Bool := 0xE0030 ≤ n && n ≤ 0xE0039

/-- a mark that does not keep the letters around it from joining -/
def isJoinTransparent (n : Nat) : Bool := zeroWidthRanges.has n && !joinBlockingRanges.has n

namespace Tail

/-- a letter or a group of letters that can still merge -/
def isLetter : Tail → Bool
  | alef | letter _ _ | bugineseIYa | khmerLetter | tifinaghJoiner | lisuTone => true
  | _ => false

/-- a joiner, possibly after a keycap, and a picture -/
def isJoined : Tail → Bool
  | joined | joinedKeycap => true
  | _ => false

/-- beginning of a text whose first character is drawn on its own -/
def start (n : Nat) : Tail :=
  if alefRanges.has n then alef
  else if n = 0x5DC then letter .lamed false
  else if n = 0x1A10 then letter .bugineseYa false
  else if n = 0x10C03 then letter .orkhonI false
  else if tifinaghRanges.has n then letter .tifinagh false
  else if khmerLetterRanges.has n then khmerLetter
  else if n = 0xA4FC || n = 0xA4FD then lisuTone
  else if n = 0x16D67 then kiratE
  else if n = 0x16D68 then kiratAI
  else if isRegion n then region
  else if isTone n then tone
  else if pictureRanges.has n then picture
  else plain

/-- a joinable letter and the letter in front of it -/
def combineLetter (n : Nat) : Joinable → Bool → Option (Int × Tail)
  | .lamed, true => if n = 0x5D0 then some (0, plain) else none
  | .bugineseYa, true => if n = 0x1A17 then some (0, bugineseIYa) else none
  | .orkhonI, true => if n = 0x10C32 then some (0, plain) else none
  | .tifinagh, j =>
    if n = 0x2D7F then some (1, tifinaghJoiner)
    else if j && tifinaghRanges.has n then some (0, plain)
    else none
  | _, false => none

/-- columns that the character `n` adds in front of a text, and the beginning of the longer text;
nothing if the character is drawn on its own -/
def combine (n : Nat) : Tail → Option (Int × Tail)
  | plain => none
  | alef =>
    if lamRanges.has n then some (0, plain)
    else if isJoinTransparent n then some (0, alef)
    else none
  | letter l j =>
    if n = joinerCode then some (0, letter l true)
    else if ligatureMarkRanges.has n then some (0, letter l j)
    else combineLetter n l j
  | bugineseIYa =>
    if n = joinerCode || ligatureMarkRanges.has n then some (0, bugineseIYa)
    else if n = 0x1A15 then some (0, plain)
    else none
  | khmerLetter =>
    if n = joinerCode || ligatureMarkRanges.has n then some (0, khmerLetter)
    else if n = 0x17D2 then some (-1, plain)
    else none
  | tifinaghJoiner =>
    if n = joinerCode || ligatureMarkRanges.has n then some (0, tifinaghJoiner)
    else if tifinaghRanges.has n then some (-1, plain)
    else none
  | lisuTone =>
    if n = joinerCode || ligatureMarkRanges.has n then some (0, lisuTone)
    else if 0xA4F8 ≤ n && n ≤ 0xA4FB then some (0, plain)
    else none
  | kiratE =>
    if n = 0x16D63 || n = 0x16D69 then some (0, plain)
    else if n = 0x16D67 then some (0, kiratAI)
    else if n = 0x16D68 then some (1, kiratE)
    else none
  | kiratAI => if n = 0x16D63 then some (0, plain) else none
  | picture => if n = joinerCode then some (0, joined) else none
  | tone =>
    if toneBaseRanges.has n then some (0, picture)
    else if n = joinerCode then some (0, joined)
    else none
  | region => if isRegion n then some (1, regions) else none
  | regions =>
    if isRegion n then some (1, regions)
    else if n = joinerCode then some (0, joined)
    else none
  | joined =>
    if n = 0x20E3 then some (0, joinedKeycap)
    else if isRegion n then some (1, joinedRegion)
    else if isTone n then some (0, tone)
    else if n = 0xE007F then some (0, tagLetters 0)
    else if pictureRanges.has n then some (0, picture)
    else none
  | joinedKeycap => none
  | joinedRegion => if isRegion n then some (-1, joinedRegionsEven) else none
  | joinedRegionsEven =>
    if isRegion n then some (3, joinedRegionsOdd)
    else if n = joinerCode then some (0, joined)
    else none
  | joinedRegionsOdd =>
    if isRegion n then some (-1, joinedRegionsEven)
    else if n = joinerCode then some (0, joined)
    else none
  | tagLetters k =>
    if isTagLetter n && k < 6 then some (0, tagLetters (k + 1))
    else if isTagDigit n && k < 5 then some (0, tagDigits 1)
    else if n = 0x1F3F4 && 3 ≤ k then some (0, picture)
    else none
  | tagDigits k =>
    if isTagDigit n && k < 3 then some (0, tagDigits (k + 1))
    else if n = 0x1F3F4 && k = 3 then some (0, picture)
    else none

end Tail
end SearchFilter.Text
