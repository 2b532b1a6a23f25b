/-
What can be wrong with a pattern, and how it is reported.

A report quotes the pattern, marks the place with `^` below it, and names the fault. A pattern of several lines is
quoted with line numbers, and a place that goes over a line's end is given in words.
-/
import SearchFilter.Regex.Term

namespace SearchFilter.Regex

/-- what is wrong with a pattern -/
inductive Fault where
  | classEscapeInvalid
  | classRangeInvalid
  | classRangeLiteral
  | classUnclosed
  | decimalEmpty
  | decimalInvalid
  | hexEmpty
  | hexInvalid
  | hexDigitInvalid
  | escapeUnfinished
  | escapeUnknown
  | flagDanglingNegation
  | flagDuplicate
  | flagRepeatedNegation
  | flagUnfinished
  | flagUnknown
  | groupNameDuplicate
  | groupNameEmpty
  | groupNameInvalid
  | groupNameUnclosed
  | groupUnclosed
  | groupUnopened
  | nestLimitExceeded
  | countInvalid
  | countEmpty
  | countUnclosed
  | repetitionMissing
  | boundaryUnclosed
  | boundaryUnknown
  | boundaryUnfinished
  | propertyInvalid
  | backreference
  | lookAround
  | unicodeOff
  | invalidUtf8
  | propertyUnknown
  | propertyValueUnknown
  deriving DecidableEq, Repr

def Fault.message : Fault → String
  | .classEscapeInvalid => "invalid escape sequence found in character class"
  | .classRangeInvalid => "invalid character class range, the start must be <= the end"
  | .classRangeLiteral => "invalid range boundary, must be a literal"
  | .classUnclosed => "unclosed character class"
  | .decimalEmpty => "decimal literal empty"
  | .decimalInvalid => "decimal literal invalid"
  | .hexEmpty => "hexadecimal literal empty"
  | .hexInvalid => "hexadecimal literal is not a Unicode scalar value"
  | .hexDigitInvalid => "invalid hexadecimal digit"
  | .escapeUnfinished => "incomplete escape sequence, reached end of pattern prematurely"
  | .escapeUnknown => "unrecognized escape sequence"
  | .flagDanglingNegation => "dangling flag negation operator"
  | .flagDuplicate => "duplicate flag"
  | .flagRepeatedNegation => "flag negation operator repeated"
  | .flagUnfinished => "expected flag but got end of regex"
  | .flagUnknown => "unrecognized flag"
  | .groupNameDuplicate => "duplicate capture group name"
  | .groupNameEmpty => "empty capture group name"
  | .groupNameInvalid => "invalid capture group character"
  | .groupNameUnclosed => "unclosed capture group name"
  | .groupUnclosed => "unclosed group"
  | .groupUnopened => "unopened group"
  | .nestLimitExceeded =>
    "exceed the maximum number of nested parentheses/brackets (" ++ toString nestLimit ++ ")"
  | .countInvalid => "invalid repetition count range, the start must be <= the end"
  | .countEmpty => "repetition quantifier expects a valid decimal"
  | .countUnclosed => "unclosed counted repetition"
  | .repetitionMissing => "repetition operator missing expression"
  | .boundaryUnclosed =>
    "special word boundary assertion is either unclosed or contains an invalid character"
  | .boundaryUnknown =>
    "unrecognized special word boundary assertion, valid choices are: start, end, start-half or end-half"
  | .boundaryUnfinished =>
    "found either the beginning of a special word boundary or a bounded repetition on a \\b with an opening " ++
      "brace, but no closing brace"
  | .propertyInvalid => "invalid Unicode character class"
  | .backreference => "backreferences are not supported"
  | .lookAround => "look-around, including look-ahead and look-behind, is not supported"
  | .unicodeOff => "Unicode not allowed here"
  | .invalidUtf8 => "pattern can match invalid UTF-8"
  | .propertyUnknown => "Unicode property not found"
  | .propertyValueUnknown => "Unicode property value not found"

/-- a fault, where it is, and another place that has to do with it -/
structure Failure where
  fault : Fault
  span : Span
  other : Option Span := none
  deriving DecidableEq, Repr

def fail {α : Type} (fault : Fault) (span : Span) : Except Failure α := .error { fault, span }

/-- a failure at a place that has to do with another place -/
def failTwice {α : Type} (fault : Fault) (span other : Span) : Except Failure α :=
  .error { fault, span, other := some other }

/-! ## Reports -/

/-- a place by line and column, both from one -/
structure Place where
  line : Nat
  column : Nat
  deriving DecidableEq, Repr

def placeOf (pattern : List Char) (offset : Nat) : Place :=
  (pattern.take offset).foldl (fun p c => if c = '\n' then ⟨p.line + 1, 1⟩ else ⟨p.line, p.column + 1⟩) ⟨1, 1⟩

/-- the first and last place of a stretch -/
structure Stretch where
  start : Place
  stop : Place
  deriving DecidableEq, Repr

def Stretch.ofSpan (pattern : List Char) (s : Span) : Stretch := ⟨placeOf pattern s.start, placeOf pattern s.stop⟩

/-- lines of a text; a line's end at the end of the text starts no further line -/
def linesOf (text : List Char) : List (List Char) :=
  let parts := text.splitOn '\n'
  let parts := if parts.getLast? = some [] then parts.dropLast else parts
  parts.map fun l => if l.getLast? = some '\r' then l.dropLast else l

/-- marks below a line for the stretches on it, from column `pos` on -/
def marks (pos : Nat) : List Stretch → List Char
  | [] => []
  | s :: rest =>
    let gap := s.start.column - 1 - pos
    let width := max 1 (s.stop.column - s.start.column)
    List.replicate gap ' ' ++ List.replicate width '^' ++ marks (pos + gap + width) rest

/-- one line of the pattern, quoted with its number if there is a width for numbers, and the marks below it -/
def quotedLine (numberWidth : Nat) (stretches : List Stretch) (index : Nat) (line : List Char) : List Char :=
  let number := (toString (index + 1)).toList
  let lead :=
    if numberWidth = 0 then List.replicate 4 ' '
    else List.replicate (numberWidth - number.length) ' ' ++ number ++ [':', ' ']
  let here := stretches.filter fun s => s.start.line = index + 1
  let below :=
    if here.isEmpty then [] else List.replicate (if numberWidth = 0 then 4 else numberWidth + 2) ' ' ++ marks 0 here ++ ['\n']
  lead ++ line ++ ['\n'] ++ below

/-- stretches in order -/
def Stretch.before (a b : Stretch) : Bool :=
  a.start.line < b.start.line || (a.start.line = b.start.line && a.start.column ≤ b.start.column)

/-- the report of a failure -/
def Failure.report (pattern : String) (f : Failure) : String :=
  let text := pattern.toList
  let lines := linesOf text
  let count := lines.length + (if text.getLast? = some '\n' then 1 else 0)
  let numberWidth := if count ≤ 1 then 0 else (toString count).length
  let first := Stretch.ofSpan text f.span
  let stretches :=
    match f.other.map (Stretch.ofSpan text) with
    | none => [first]
    | some second => if second.before first then [second, first] else [first, second]
  let (single, several) := stretches.partition fun s => s.start.line = s.stop.line
  let quoted := String.ofList ((lines.mapIdx (quotedLine numberWidth single)).flatten)
  if text.contains '\n' then
    let rule := String.ofList (List.replicate 79 '~') ++ "\n"
    let notes := several.map fun s =>
      "on line " ++ toString s.start.line ++ " (column " ++ toString s.start.column ++ ") through line " ++
        toString s.stop.line ++ " (column " ++ toString (s.stop.column - 1) ++ ")"
    "regex parse error:\n" ++ rule ++ quoted ++ rule ++
      (if notes.isEmpty then "" else "\n".intercalate notes ++ "\n") ++ "error: " ++ f.fault.message
  else "regex parse error:\n" ++ quoted ++ "error: " ++ f.fault.message

end SearchFilter.Regex
