/-
From terms to compiled expressions.

Flags are followed from left to right. With Unicode off, a pattern may only ask for ASCII characters, because a text
is not taken apart into bytes.
-/
import SearchFilter.Regex.Pattern
import SearchFilter.Regex.Reader

namespace SearchFilter.Regex

open SearchFilter.Text (CharSet Named)

/-- flags that are on at a place of a pattern -/
structure Flags where
  ignoreCase : Bool
  multiLine : Bool
  dotAll : Bool
  unicode : Bool
  crlf : Bool
  deriving DecidableEq, Repr

namespace Flags

def initial : Flags := ⟨false, false, false, true, false⟩

/-- the flags after a list of them -/
def set (items : List FlagItem) (f : Flags) : Flags where
  ignoreCase := (flagState .ignoreCase items).getD f.ignoreCase
  multiLine := (flagState .multiLine items).getD f.multiLine
  dotAll := (flagState .dotAll items).getD f.dotAll
  unicode := (flagState .unicode items).getD f.unicode
  crlf := (flagState .crlf items).getD f.crlf

end Flags

/-! ## Classes -/

/-- a class with case ignored if the flag is on -/
def foldClass (f : Flags) (c : CharClass) : CharClass :=
  if !f.ignoreCase then c
  else if f.unicode then .folded c
  else .intersection (.ranges [(0, 0x7F)]) (.folded (.intersection (.ranges [(0, 0x7F)]) c))

/-- A class with case ignored and negated as asked. With Unicode off the negation would hold bytes that are no
characters. -/
def foldAndNegate (f : Flags) (span : Span) (negated : Bool) (c : CharClass) : Except Failure CharClass :=
  let c := foldClass f c
  if !negated then .ok c else if f.unicode then .ok (.negation c) else fail .invalidUtf8 span

/-- decimal digits, white space or word characters, of all scripts or of ASCII -/
def Shorthand.charClass (unicode : Bool) : Shorthand → CharClass
  | .digit => if unicode then .named (.categories [.nd]) else .ranges [(0x30, 0x39)]
  | .space => .ranges (if unicode then Text.blankRanges else [(0x9, 0xD), (0x20, 0x20)])
  | .word => .ranges (if unicode then Text.wordRanges else [(0x30, 0x39), (0x41, 0x5A), (0x5F, 0x5F), (0x61, 0x7A)])

def shorthandClass (f : Flags) (span : Span) (s : Shorthand) (negated : Bool) : Except Failure CharClass :=
  let c := s.charClass f.unicode
  if !negated then .ok c else if f.unicode then .ok (.negation c) else fail .invalidUtf8 span

def propertyClass (f : Flags) (span : Span) (q : PropertyQuery) (negated : Bool) : Except Failure CharClass :=
  if !f.unicode then fail .unicodeOff span
  else
    match (match q.value with
      | none => Named.ofName q.name
      | some v => Named.ofValue q.name v) with
    | .ok set => foldAndNegate f span negated (.named set)
    | .error .unknownProperty => fail .propertyUnknown span
    | .error .unknownValue => fail .propertyValueUnknown span

/-- the code point of a character; with Unicode off a byte beyond ASCII is none -/
def literalCode (f : Flags) (l : Literal) : Except Failure Nat :=
  if !f.unicode && l.byte && l.char.toNat > 0x7F then fail .invalidUtf8 l.span else .ok l.char.toNat

/-- the code point of a character in brackets, where with Unicode off only ASCII can stand -/
def boundCode (f : Flags) (l : Literal) : Except Failure Nat := do
  let n ← literalCode f l
  if !f.unicode && n > 0x7F then fail .unicodeOff l.span else return n

mutual

/-- the set of an item in brackets -/
def ClassItem.compile (f : Flags) : ClassItem → Except Failure CharClass
  | .empty _ => .ok (.ranges [])
  | .literal l => (boundCode f l).map .single
  | .range _ lo hi => do
    let lo ← boundCode f lo
    let hi ← boundCode f hi
    return .ranges [(lo, hi)]
  | .ascii span set negated => foldAndNegate f span negated (.ranges set)
  | .shorthand span s negated => shorthandClass f span s negated
  | .property span q negated => propertyClass f span q negated
  | .bracketed span negated set => do foldAndNegate f span negated (← ClassItem.compile f set)
  | .union _ items => ClassItem.compileAll f items
  | .combined _ op lhs rhs => do
    let a := foldClass f (← ClassItem.compile f lhs)
    let b := foldClass f (← ClassItem.compile f rhs)
    return match op with
      | .intersection => .intersection a b
      | .difference => .difference a b
      | .symmetricDifference => .symmetricDifference a b

def ClassItem.compileAll (f : Flags) : List ClassItem → Except Failure CharClass
  | [] => .ok (.ranges [])
  | i :: rest => do
    let a ← ClassItem.compile f i
    let b ← ClassItem.compileAll f rest
    return .union a b

end

/-! ## Expressions -/

/-- a character that is not the end of a line, or any character -/
def dotClass (f : Flags) : CharClass :=
  if f.dotAll then .negation (.ranges [])
  else if f.crlf then .negation (.ranges [(0xA, 0xA), (0xD, 0xD)])
  else .negation (.single 0xA)

def Assertion.look (f : Flags) : Assertion → Look
  | .lineStart => if f.multiLine then (if f.crlf then .lineStartCrlf else .lineStart) else .textStart
  | .lineEnd => if f.multiLine then (if f.crlf then .lineEndCrlf else .lineEnd) else .textEnd
  | .textStart => .textStart
  | .textEnd => .textEnd
  | .wordBoundary => .wordBoundary f.unicode
  | .notWordBoundary => .notWordBoundary f.unicode
  | .wordStart => .word f.unicode (some false) (some true)
  | .wordEnd => .word f.unicode (some true) (some false)
  | .wordStartHalf => .word f.unicode (some false) none
  | .wordEndHalf => .word f.unicode none (some false)

mutual

/-- the compiled expression of a term, and the flags after it -/
def Term.compile (f : Flags) : Term → Except Failure (Pattern × Flags)
  | .empty _ => .ok (.empty, f)
  | .flags _ items => .ok (.empty, f.set items)
  | .literal l => do
    let n ← literalCode f l
    let varies := f.ignoreCase && (f.unicode || n ≤ 0x7F) && (CharClass.caseVariants n).any (· != n)
    return (.one (if varies then foldClass f (.single n) else .single n), f)
  | .dot span => if f.unicode then .ok (.one (dotClass f), f) else fail .invalidUtf8 span
  | .assertion _ a => .ok (.look (a.look f), f)
  | .shorthand span s negated => do return (.one (← shorthandClass f span s negated), f)
  | .property span q negated => do return (.one (← propertyClass f span q negated), f)
  | .bracketed span negated set => do
    return (.one (← foldAndNegate f span negated (← ClassItem.compile f set)), f)
  | .repeated _ least most body => do
    let (p, f) ← Term.compile f body
    return (.times p least most, f)
  | .group _ items captures body => do
    let (p, _) ← Term.compile (f.set items) body
    return (if captures then .capture p else p, f)
  | .alternation _ branches => Term.compileBranches f branches
  | .concat _ parts => Term.compileParts f parts

/-- branches, of which one is taken -/
def Term.compileBranches (f : Flags) : List Term → Except Failure (Pattern × Flags)
  | [] => .ok (.empty, f)
  | [t] => Term.compile f t
  | t :: rest => do
    let (p, f) ← Term.compile f t
    let (q, f) ← Term.compileBranches f rest
    return (.alt p q, f)

def Term.compileParts (f : Flags) : List Term → Except Failure (Pattern × Flags)
  | [] => .ok (.empty, f)
  | [t] => Term.compile f t
  | t :: rest => do
    let (p, f) ← Term.compile f t
    let (q, f) ← Term.compileParts f rest
    return (.seq p q, f)

end

/-! ## Whole patterns -/

/-- largest size of a compiled expression in bytes -/
def sizeLimit : Nat := 10485760

/-- why a text cannot be used as a pattern -/
inductive PatternError where
  | invalid (report : String)
  | tooBig
  deriving DecidableEq, Repr

def PatternError.message : PatternError → String
  | .invalid report => report
  | .tooBig => "Compiled regex exceeds size limit of " ++ toString sizeLimit ++ " bytes."

/-- the compiled expression of a text -/
def Pattern.ofText (text : String) : Except PatternError Pattern :=
  match (Term.read text).bind fun t => t.compile .initial with
  | .error failure => .error (.invalid (failure.report text))
  | .ok (p, _) => if p.size > sizeLimit then .error .tooBig else .ok p

end SearchFilter.Regex
