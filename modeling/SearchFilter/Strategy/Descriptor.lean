/-
How a strategy is called in another language.

A descriptor names a function and gives the text of a call with numbered slots. `render` puts operands
into the slots in one pass from the left; the operands themselves are never looked at again, and a slot
without an operand stays as it is.
-/
import SearchFilter.Number.Decimal

namespace SearchFilter

/-- a function and the text of a call to it -/
structure Descriptor where
  function : String
  pattern : String
  deriving DecidableEq, Repr

namespace Descriptor

open SearchFilter.Text (isDigit)

def slot (i : Nat) : String := Text.braced (toString i)

/-- a call of `function` with `slots` slots -/
def ofSlots (function : String) (slots : Nat) : Descriptor :=
  ⟨function, function ++ "(" ++ ", ".intercalate ((List.range slots).map slot) ++ ")"⟩

/-- an opening brace that is not followed by a slot, and the digits after it -/
def unfilled : Option (List Char) → List Char
  | none => []
  | some ds => '{' :: ds

/-- Fills the slots of the rest of a pattern. `pending` holds the digits since an opening brace that may
still turn out to begin a slot. -/
def fill (operands : List String) : Option (List Char) → List Char → List Char
  | pending, [] => unfilled pending
  | pending, '{' :: rest => unfilled pending ++ fill operands (some []) rest
  | none, c :: rest => c :: fill operands none rest
  | some ds, c :: rest =>
    if isDigit c then fill operands (some (ds ++ [c])) rest
    else if c = '}' ∧ ds ≠ [] then
      (match operands[Number.natOfDigits 0 ds]? with
        | some operand => operand.toList
        | none => '{' :: ds ++ ['}']) ++ fill operands none rest
    else '{' :: ds ++ c :: fill operands none rest

/-- the call with these operands -/
def render (d : Descriptor) (operands : List String) : String :=
  String.ofList (fill operands none d.pattern.toList)

end Descriptor
end SearchFilter
