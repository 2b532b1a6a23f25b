/-
What can go wrong with a filter, and with evaluating it on a record.

A `FilterError` is a `Fault` together with the filter as it was given. An `EvalError` names the field or
the pattern it is about. The wording of each is one function here.
-/
import SearchFilter.Duration

namespace SearchFilter

/-- the deepest nesting of groups a filter may use -/
def maxDepth : Nat := 64

/-- what is wrong with a filter -/
inductive Fault where
  | missingParentheses
  | unbalanced
  | malformed
  | unknownProperty (property : String)
  | unresolvable
  | tooDeep
  deriving DecidableEq, Repr

/-- a fault and the filter it was found in -/
structure FilterError where
  fault : Fault
  filter : String
  deriving DecidableEq, Repr

def FilterError.message (e : FilterError) : String :=
  match e.fault with
  | .missingParentheses => "Filter must start with '(' and end with ')': " ++ e.filter
  | .unbalanced => "Filter must have the same number of '(' and ')': " ++ e.filter
  | .malformed => "Filter format is not correct: [" ++ e.filter ++ "]"
  | .unknownProperty p => "Unknown property '" ++ p ++ "' in filter [" ++ e.filter ++ "]"
  | .unresolvable => "Filter groups cannot be resolved to a single predicate: [" ++ e.filter ++ "]"
  | .tooDeep => "Filter nesting exceeds " ++ toString maxDepth ++ " groups: [" ++ e.filter ++ "]"

/-- The bytes a compiled pattern may take. -/
def patternSizeLimit : Nat := 1048576

/-- what is wrong when a predicate meets a record -/
inductive EvalError where
  | conversion (field value : String)
  | matchTimeout (pattern : String) (budget : Duration)
  | oversizedPattern (pattern : String)
  deriving DecidableEq, Repr

def EvalError.message : EvalError → String
  | .conversion field value => "Cannot convert '" ++ value ++ "' of '" ++ field ++ "' to a decimal number"
  | .matchTimeout pattern budget =>
    "Matching '" ++ pattern ++ "' exceeded its " ++ budget.text ++ " budget"
  | .oversizedPattern pattern =>
    "Invalid like pattern '" ++ pattern ++ "': Compiled regex exceeds size limit of " ++
      toString patternSizeLimit ++ " bytes."

/-- A timeout may be read as "no match" by a caller that wants to. -/
def EvalError.isTimeout : EvalError → Bool
  | .matchTimeout _ _ => true
  | _ => false

end SearchFilter
