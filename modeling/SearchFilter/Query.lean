/-
Filtering sequences of records.

`Predicate.filtered` yields the records a predicate holds of; an error stands in the place of the record that
caused it, and filtering goes on after it. `Predicate.select` is for callers that want all matches or none: it
stops at the first error, unless the error is a timeout and timeouts are to be skipped.
-/
import SearchFilter.Filter.Compile

namespace SearchFilter

/-- what is done with a record whose match runs out of time -/
inductive TimeoutPolicy where
  | fail
  | skip
  deriving DecidableEq, Repr

variable {α : Type}

/-! ## One item after the other -/

/-- the next item that passes a test or fails it with an error, and what is left of the source -/
def next? (test : α → Except EvalError Bool) : List α → Option (Except EvalError α × List α)
  | [] => none
  | a :: rest =>
    match test a with
    | .ok true => some (.ok a, rest)
    | .ok false => next? test rest
    | .error e => some (.error e, rest)

theorem next?_length {test : α → Except EvalError Bool} {source rest : List α} {item : Except EvalError α}
    (h : next? test source = some (item, rest)) : rest.length < source.length := by
  induction source with
  | nil => simp [next?] at h
  | cons a source ih =>
    rw [next?] at h
    split at h
    · simp_all
    · exact Nat.lt_succ_of_lt (ih h)
    · simp_all

def yielded (test : α → Except EvalError Bool) (source : List α) : List (Except EvalError α) :=
  match _h : next? test source with
  | none => []
  | some (item, rest) => item :: yielded test rest
termination_by source.length
decreasing_by exact next?_length _h

/-! ## All or none -/

/-- what selecting gives: the records, and the timeouts skipped on the way, by number of the record -/
structure Selection (α : Type) where
  records : List α
  skipped : List (Nat × EvalError)

/-- the items that pass a test, the first having number `n`, or the first error with its number -/
def selected (test : α → Except EvalError Bool) (policy : TimeoutPolicy) (n : Nat) :
    List α → Except (Nat × EvalError) (Selection α)
  | [] => .ok ⟨[], []⟩
  | a :: rest =>
    match test a with
    | .ok true => (selected test policy (n + 1) rest).map fun s => { s with records := a :: s.records }
    | .ok false => selected test policy (n + 1) rest
    | .error e =>
      if e.isTimeout && policy == .skip then
        (selected test policy (n + 1) rest).map fun s => { s with skipped := (n, e) :: s.skipped }
      else .error (n, e)

namespace Predicate

/-- the records a predicate holds of, with errors in their places -/
def filtered (p : Predicate) (view : α → Record) : List α → List (Except EvalError α) :=
  yielded fun a => p.evaluate (view a)

/-- the records a predicate holds of, the first having number `n`, or the first error with its record -/
def select (p : Predicate) (policy : TimeoutPolicy) (view : α → Record) (n : Nat) :
    List α → Except (Nat × EvalError) (Selection α) :=
  selected (fun a => p.evaluate (view a)) policy n

end Predicate
end SearchFilter
