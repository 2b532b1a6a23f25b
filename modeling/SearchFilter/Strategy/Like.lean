/-
Wildcard matching.

In a pattern `%` stands for any run of characters, `_` for one character, and anything else for itself ignoring case.
Patterns are matched through a library of regular expressions that is given the text of an expression (`regexText`). Which
expressions are too large, and which subjects they match, is for the library to say (`Engine`).

A `Matcher` answers calls: empty texts never match, texts equal in lower case always do, and a match that took as long as
its budget is a timeout. It has a cache of the expressions already built.
-/
import SearchFilter.Strategy.Basic
import SearchFilter.Text.Case
import SearchFilter.Text.Classes

namespace SearchFilter.Like

/-! ## The pattern as a regular expression -/

/-- characters that a regular expression reads as operators -/
def operators : List Char := '{' :: '}' :: "\\.+*?()|[]^$#&-~".toList

/-- expression of a pattern character -/
def exprChar (c : Char) : List Char :=
  if c = '_' then ['.']
  else if c = '%' then ['.', '*']
  else if c ∈ operators then ['\\', c]
  else [c]

/-- the anchored expression, ignoring case and with `.` for every character, that a pattern stands for -/
def regexText (pattern : String) : String :=
  "(?is)\\A" ++ String.ofList (pattern.toList.flatMap exprChar) ++ "\\s*\\z"

/-! ## Libraries -/

/-- A library that reads regular expressions. `build` is what it makes of the text of an expression, if that is not too
large, and `accepts` which subjects such an expression matches. -/
structure Engine (Regex : Type) where
  build : String → Option Regex
  accepts : Regex → List Char → Bool

/-! ## Calls -/

/-- the time one match may take unless said otherwise -/
def defaultBudget : Duration := .second

/-- Answer of one call, `elapsed` being the time its match takes and `accept` the pattern's matcher. -/
def answer (budget elapsed : Duration) (accept : List Char → Bool) (subject pattern : String) :
    Except EvalError Bool :=
  if elapsed.nanoseconds ≥ budget.nanoseconds then .error (.matchTimeout pattern budget)
  else .ok (accept subject.toList)

/-- patterns the cache holds before it is emptied -/
def cacheCapacity : Nat := 256

/-- a matcher with its budget and what it has built, by pattern -/
structure Matcher (Regex : Type) where
  engine : Engine Regex
  budget : Duration
  cache : List (String × Regex)

/-- a call: what is asked, and the time its match takes -/
structure Call where
  subject : String
  pattern : String
  elapsed : Duration

namespace Matcher

variable {Regex : Type}

def ofEngine (engine : Engine Regex) (budget : Duration) : Matcher Regex := ⟨engine, budget, []⟩

/-- the expression of a pattern, built again only when the cache does not hold it -/
def compiled (m : Matcher Regex) (pattern : String) : Except EvalError (Regex × Matcher Regex) :=
  match m.cache.lookup pattern with
  | some regex => .ok (regex, m)
  | none =>
    match m.engine.build (regexText pattern) with
    | none => .error (.oversizedPattern pattern)
    | some regex =>
      let kept := if m.cache.length ≥ cacheCapacity then [] else m.cache
      .ok (regex, { m with cache := (pattern, regex) :: kept })

def step (m : Matcher Regex) (c : Call) : Except EvalError Bool × Matcher Regex :=
  if c.subject.isEmpty ∨ c.pattern.isEmpty then (.ok false, m)
  else if Text.lowercase c.subject = Text.lowercase c.pattern then (.ok true, m)
  else
    match m.compiled c.pattern with
    | .error e => (.error e, m)
    | .ok (regex, m) => (answer m.budget c.elapsed (m.engine.accepts regex) c.subject c.pattern, m)

/-- calls one after the other: their answers, and the matcher after the last -/
def run (m : Matcher Regex) : List Call → List (Except EvalError Bool) × Matcher Regex
  | [] => ([], m)
  | c :: cs =>
    let (r, m) := m.step c
    let (rs, m) := m.run cs
    (r :: rs, m)

end Matcher

/-! ## The strategy -/

/-- the function that is called, with a subject and a pattern -/
def descriptor : Descriptor := .ofSlots "ldap_predicate::strategy::like::DefaultLike::is_like" 2

/-- Matching over a library as a strategy, `elapsed` being the time each match takes. Every call is answered as the first
one of a new matcher, for a cache changes no answer. -/
def strategy {Regex : Type} (engine : Engine Regex) (budget elapsed : Duration) : LikeStrategy where
  descriptor := descriptor
  isLike subject pattern := ((Matcher.ofEngine engine budget).step ⟨subject, pattern, elapsed⟩).1

end SearchFilter.Like
