/-
Atomic comparisons: a property, an operator and a literal.
-/

namespace SearchFilter

inductive Operator where
  | equal
  | approximate
  | less
  | lessOrEqual
  | greater
  | greaterOrEqual
  deriving DecidableEq, Repr

namespace Operator

def symbol : Operator → String
  | equal => "="
  | approximate => "~="
  | less => "<"
  | lessOrEqual => "<="
  | greater => ">"
  | greaterOrEqual => ">="

def all : List Operator := [equal, approximate, less, lessOrEqual, greater, greaterOrEqual]

def ofSymbol? (s : String) : Option Operator := all.find? fun o => o.symbol = s

/-- what is said of a text that is no operator -/
def unknownMessage (s : String) : String := "unknown comparison operator '" ++ s ++ "'"

end Operator

/-- the literal that stands for any value, and the sign of a wildcard inside a literal -/
def wildcard : Char := '*'

/-- a leaf test of a filter -/
structure Comparison where
  /-- canonical field name -/
  property : String
  operator : Operator
  /-- literal in lower case -/
  value : String
  negated : Bool
  deriving DecidableEq, Repr

namespace Comparison

/-- `(p=*)`: the field is there -/
def isPresence (c : Comparison) : Bool := c.operator = .equal && c.value.toList = [wildcard]

def hasWildcard (c : Comparison) : Bool := c.value.toList.contains wildcard

end Comparison
end SearchFilter
