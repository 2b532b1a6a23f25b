/-
Reading the smallest parts of a pattern: single characters, escapes and numbers.
-/
import SearchFilter.Json.Read
import SearchFilter.Regex.Cursor

namespace SearchFilter.Regex

/-- a part of a pattern with no parts of its own -/
inductive Atom where
  | literal (l : Literal)
  | dot (span : Span)
  | assertion (span : Span) (a : Assertion)
  | shorthand (span : Span) (s : Shorthand) (negated : Bool)
  | property (span : Span) (q : PropertyQuery) (negated : Bool)

def Atom.span : Atom → Span
  | .literal l => l.span
  | .dot s => s
  | .assertion s _ => s
  | .shorthand s _ _ => s
  | .property s _ _ => s

def Atom.toTerm : Atom → Term
  | .literal l => .literal l
  | .dot s => .dot s
  | .assertion s a => .assertion s a
  | .shorthand s k n => .shorthand s k n
  | .property s q n => .property s q n

/-- an atom in brackets; assertions cannot stand there -/
def Atom.toItem : Atom → Except Failure ClassItem
  | .literal l => .ok (.literal l)
  | .shorthand s k n => .ok (.shorthand s k n)
  | .property s q n => .ok (.property s q n)
  | a => fail .classEscapeInvalid a.span

/-- an atom as the end of a range in brackets -/
def Atom.toBound : Atom → Except Failure Literal
  | .literal l => .ok l
  | a => fail .classRangeLiteral a.span

/-! ## Numbers -/

/-- largest count of a repetition -/
def maxCount : Nat := 4294967295

/-- A number in decimal digits, and what follows. Blanks around it are passed over. -/
def readDecimal (c : Cursor) : Except Failure Nat × Cursor :=
  let c := c.skipBlanks
  let start := c.pos
  let (digits, c) := c.collect Text.isDigit
  let span := c.since start
  let n := digits.foldl (fun n d => 10 * n + (d.toNat - '0'.toNat)) 0
  let (_, c) := c.collect Text.isBlank
  if digits.isEmpty then (fail .decimalEmpty span, c)
  else if n > maxCount then (fail .decimalInvalid span, c)
  else (.ok n, c)

def isHexDigit (c : Char) : Bool := (Json.hexValue c).isSome

/-- the character of a number in hexadecimal digits -/
def hexChar? (digits : List Char) : Option Char :=
  match Json.hexNumber digits with
  | some n => if n < 0xD800 || (0xDFFF < n && n < 0x110000) then some (Char.ofNat n) else none
  | none => none

def readHexDigits : Nat → Cursor → Except Failure (List Char × Cursor)
  | 0, c => .ok ([], c)
  | n + 1, c =>
    match c.next? with
    | none => fail .escapeUnfinished c.here
    | some x =>
      if isHexDigit x then do
        let (xs, c) ← readHexDigits n c.bumpSpace
        return (x :: xs, c)
      else fail .hexDigitInvalid c.charSpan

/-- A character by its number, in braces or of a fixed number of digits; `c` is at the letter after the backslash. -/
def readHex (start : Nat) (letter : Char) (c : Cursor) : Except Failure (Atom × Cursor) :=
  let c := c.bumpSpace
  match c.next? with
  | none => fail .escapeUnfinished c.here
  | some '{' =>
    let brace := c.pos
    let (digits, c) := c.bumpSpace.collect isHexDigit
    match c.next? with
    | none => fail .escapeUnfinished (c.since brace)
    | some x =>
      if x != '}' then fail .hexDigitInvalid c.charSpan
      else
        let stop := c.pos
        let c := c.bumpSpace
        if digits.isEmpty then fail .hexEmpty (c.since brace)
        else
          match hexChar? digits with
          | none => fail .hexInvalid ⟨brace + 1, stop⟩
          | some ch => .ok (.literal ⟨c.since start, ch, false⟩, c)
  | some _ => do
    let first := c.pos
    let (digits, c) ← readHexDigits (if letter = 'x' then 2 else if letter = 'u' then 4 else 8) c
    match hexChar? digits with
    | none => fail .hexInvalid (c.since first)
    | some ch => return (.literal ⟨c.since start, ch, letter = 'x'⟩, c)

/-! ## Escapes -/

/-- the text before and after the first place of a separator -/
def cutAt? (sep : List Char) : List Char → Option (List Char × List Char)
  | [] => none
  | x :: rest =>
    if sep.isPrefixOf (x :: rest) then some ([], (x :: rest).drop sep.length)
    else (cutAt? sep rest).map fun (a, b) => (x :: a, b)

/-- The query of a text in braces, and whether it asks for the characters without the value. -/
def propertyQuery (text : List Char) : PropertyQuery × Bool :=
  match cutAt? ['!', '='] text with
  | some (n, v) => (⟨String.ofList n, some (String.ofList v)⟩, true)
  | none =>
    match (cutAt? [':'] text).or (cutAt? ['='] text) with
    | some (n, v) => (⟨String.ofList n, some (String.ofList v)⟩, false)
    | none => (⟨String.ofList text, none⟩, false)

/-- A class by a property, in braces or by one letter; `c` is at the letter after the backslash. -/
def readProperty (start : Nat) (negated : Bool) (c : Cursor) : Except Failure (Atom × Cursor) :=
  let c := c.bumpSpace
  match c.next? with
  | none => fail .escapeUnfinished c.here
  | some '{' =>
    let (text, c) := c.bumpSpace.collect (· != '}')
    if c.atEnd then fail .escapeUnfinished c.here
    else
      let c := c.bump
      let (query, without) := propertyQuery text
      .ok (.property (c.since start) query (negated != without), c)
  | some x =>
    if x = '\\' then fail .propertyInvalid c.charSpan
    else
      let c := c.bumpSpace
      .ok (.property (c.since start) ⟨String.singleton x, none⟩ negated, c)

/-- class of a letter after a backslash, and whether it is negated -/
def shorthand? : Char → Option (Shorthand × Bool)
  | 'd' => some (.digit, false)
  | 'D' => some (.digit, true)
  | 's' => some (.space, false)
  | 'S' => some (.space, true)
  | 'w' => some (.word, false)
  | 'W' => some (.word, true)
  | _ => none

/-- a character that stands for itself after a backslash: all of ASCII but letters, digits and angle brackets -/
def isEscapable (c : Char) : Bool := c.toNat ≤ 0x7F && !c.isAlphanum && c != '<' && c != '>'

/-- control characters by their letters -/
def control? : Char → Option Char
  | 'a' => some '\x07'
  | 'f' => some '\x0c'
  | 't' => some '\t'
  | 'n' => some '\n'
  | 'r' => some '\r'
  | 'v' => some '\x0b'
  | _ => none

def assertion? : Char → Option Assertion
  | 'A' => some .textStart
  | 'z' => some .textEnd
  | 'b' => some .wordBoundary
  | 'B' => some .notWordBoundary
  | '<' => some .wordStart
  | '>' => some .wordEnd
  | _ => none

def boundary? (name : String) : Option Assertion :=
  if name = "start" then some .wordStart
  else if name = "end" then some .wordEnd
  else if name = "start-half" then some .wordStartHalf
  else if name = "end-half" then some .wordEndHalf
  else none

/-- The name in braces after a word boundary. What cannot be a name is left to be read as a count. -/
def readBoundary (start : Nat) (c : Cursor) : Except Failure (Option (Assertion × Cursor)) :=
  let isNameChar (x : Char) : Bool := x.isAlpha || x = '-'
  let inner := c.bumpSpace
  match inner.next? with
  | none => fail .boundaryUnfinished (inner.since start)
  | some x =>
    if !isNameChar x then .ok none
    else
      let (name, after) := inner.collect isNameChar
      if after.next? != some '}' then fail .boundaryUnclosed (after.since c.pos)
      else
        match boundary? (String.ofList name) with
        | none => fail .boundaryUnknown ⟨inner.pos, after.pos⟩
        | some a => .ok (some (a, after.bump))

/-- what a backslash and the characters after it stand for; `c` is at the backslash -/
def readEscape (c : Cursor) : Except Failure (Atom × Cursor) :=
  let start := c.pos
  let c := c.bump
  match c.next? with
  | none => fail .escapeUnfinished (c.since start)
  | some x =>
    if Text.isDigit x then fail .backreference ⟨start, c.pos + 1⟩
    else if x = 'x' || x = 'u' || x = 'U' then readHex start x c
    else if x = 'p' || x = 'P' then readProperty start (x = 'P') c
    else
      let c := c.bump
      let span := c.since start
      match shorthand? x, control? x, assertion? x with
      | some (s, negated), _, _ => .ok (.shorthand span s negated, c)
      | _, some ch, _ => .ok (.literal ⟨span, ch, false⟩, c)
      | _, _, some a =>
        if x = 'b' && c.next? = some '{' then do
          match ← readBoundary start c with
          | some (a, c) => return (.assertion (c.since start) a, c)
          | none => return (.assertion span a, c)
        else .ok (.assertion span a, c)
      | none, none, none =>
        if isEscapable x then .ok (.literal ⟨span, x, false⟩, c) else fail .escapeUnknown span

/-- the next character or escape, outside brackets and groups -/
def readAtom (c : Cursor) : Except Failure (Atom × Cursor) :=
  match c.next? with
  | some '\\' => readEscape c
  | some '.' => .ok (.dot c.charSpan, c.bump)
  | some '^' => .ok (.assertion c.charSpan .lineStart, c.bump)
  | some '$' => .ok (.assertion c.charSpan .lineEnd, c.bump)
  | some x => .ok (.literal ⟨c.charSpan, x, false⟩, c.bump)
  | none => fail .escapeUnfinished c.here

end SearchFilter.Regex
