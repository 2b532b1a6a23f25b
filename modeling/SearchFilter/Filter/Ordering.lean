/-
Ordering comparisons of decimal operands.
-/
import SearchFilter.Filter.Comparison
import SearchFilter.Filter.Error
import SearchFilter.Number.Decimal

namespace SearchFilter

/-- an ordering between two numbers -/
inductive NumericOp where
  | less
  | lessOrEqual
  | greater
  | greaterOrEqual
  deriving DecidableEq, Repr

namespace NumericOp

/-- the ordering an operator asks for, if it is one -/
def ofOperator? : Operator → Option NumericOp
  | .less => some less
  | .lessOrEqual => some lessOrEqual
  | .greater => some greater
  | .greaterOrEqual => some greaterOrEqual
  | _ => none

/-- the complement: `<=` becomes `>`, `<` becomes `>=` -/
def invert : NumericOp → NumericOp
  | less => greaterOrEqual
  | lessOrEqual => greater
  | greater => lessOrEqual
  | greaterOrEqual => less

def symbol : NumericOp → String
  | less => "<"
  | lessOrEqual => "<="
  | greater => ">"
  | greaterOrEqual => ">="

def name : NumericOp → String
  | less => "Less"
  | lessOrEqual => "LessOrEqual"
  | greater => "Greater"
  | greaterOrEqual => "GreaterOrEqual"

def holds (op : NumericOp) (a b : Number.Binary) : Bool :=
  match op with
  | less => a.lt b
  | lessOrEqual => a.le b
  | greater => b.lt a
  | greaterOrEqual => b.le a

end NumericOp

/-- The number an operand denotes: null is zero, and a text must be a finite number between white space. -/
def toDecimal (field : String) : Option String → Except EvalError Number.Binary
  | none => .ok .zero
  | some raw =>
    match Number.double.read (Text.trim raw.toList) with
    | some x => if x.isFinite then .ok x else .error (.conversion field raw)
    | none => .error (.conversion field raw)

end SearchFilter
