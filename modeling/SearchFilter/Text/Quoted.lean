/-
Texts for diagnostics. A text is quoted: it stands between double quotes, with escapes for quotes,
backslashes and every character that would not show. A structure is written with its fields.
-/
import SearchFilter.Text.Classes
import SearchFilter.Text.DisplayData

namespace SearchFilter.Text

def hexDigits (n : Nat) : List Char := Nat.toDigits 16 n

/-- a character that has a glyph of its own -/
def isPrintable (c : Char) : Bool :=
  !(extendingRanges.has c.toNat) && !(unprintableRanges.has c.toNat)

/-- one character between quotes -/
def quoteChar (c : Char) : List Char :=
  if c = '\x00' then ['\\', '0']
  else if c = '\t' then ['\\', 't']
  else if c = '\r' then ['\\', 'r']
  else if c = '\n' then ['\\', 'n']
  else if c = '\\' then ['\\', '\\']
  else if c = '"' then ['\\', '"']
  else if isPrintable c then [c]
  else ['\\', 'u', '{'] ++ hexDigits c.toNat ++ ['}']

/-- a text between quotes -/
def quoted (s : String) : String := String.ofList ('"' :: s.toList.flatMap quoteChar ++ ['"'])

/-- a list of texts, each between quotes -/
def quotedList (xs : List String) : String := "[" ++ ", ".intercalate (xs.map quoted) ++ "]"

/-- a structure with the texts of its fields -/
def fieldsText (name : String) (fields : List (String × String)) : String :=
  name ++ " " ++ braced (" " ++ ", ".intercalate (fields.map fun (field, value) => field ++ ": " ++ value) ++ " ")

end SearchFilter.Text
