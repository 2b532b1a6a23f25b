/-
Four-character phonetic codes.

The code of a text is its first character in upper case and up to three digits for the characters that
follow, filled up with `0`. Letters of one sound share a digit, and a letter or a digit that repeats the
one before it is not coded again. French tells more sounds apart.
-/
import SearchFilter.Strategy.Basic
import SearchFilter.Strategy.Locale

namespace SearchFilter.Phonetic

def codeLength : Nat := 4

/-- digit of the sound of an upper-case letter -/
def digit (locale : Locale) (c : Char) : Option Char :=
  let french := locale = .french
  if c ∈ ['B', 'P'] then some '1'
  else if c ∈ ['F', 'V'] then some (if french then '9' else '1')
  else if c ∈ ['C', 'K', 'Q'] then some '2'
  else if c ∈ ['G', 'J'] then some (if french then '7' else '2')
  else if c ∈ ['S', 'X', 'Z'] then some (if french then '8' else '2')
  else if c ∈ ['D', 'T'] then some '3'
  else if c ∈ ['L'] then some '4'
  else if c ∈ ['M', 'N'] then some '5'
  else if c ∈ ['R'] then some '6'
  else none

/-- letter and digit of the character before -/
structure Previous where
  letter : Option Char
  digit : Option Char

/-- the digits of the characters that follow, at most `room` of them -/
def digitsAfter (locale : Locale) : Nat → Previous → List Char → List Char
  | _, _, [] => []
  | 0, _, _ :: _ => []
  | room + 1, previous, c :: rest =>
    let d := digit locale c
    let next : Previous := ⟨some c, d⟩
    match d with
    | some x =>
      if some c ≠ previous.letter ∧ d ≠ previous.digit then x :: digitsAfter locale room next rest
      else digitsAfter locale (room + 1) next rest
    | none => digitsAfter locale (room + 1) next rest

def pad (s : List Char) : List Char := s ++ List.replicate (codeLength - s.length) '0'

/-- code of a text, as characters -/
def code (locale : Locale) (s : List Char) : List Char :=
  match s.map Text.upperHead with
  | [] => pad []
  | first :: rest => pad (first :: digitsAfter locale (codeLength - 1) ⟨none, none⟩ rest)

def encode (locale : Locale) (s : String) : String := String.ofList (code locale s.toList)

def strategy (locale : Locale) : ApproximateStrategy where
  descriptor := .ofSlots "ldap_predicate::strategy::approximate::DefaultApproximate::encode" 1
  encode := encode locale

end SearchFilter.Phonetic
