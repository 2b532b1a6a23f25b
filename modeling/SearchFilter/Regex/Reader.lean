/-
Reading a pattern into a term.

The groups that are still open are kept on a stack, each with what was read before it, so one loop over the pattern
reads it all. A pattern that cannot be read fails at its first fault from the left; nesting is looked at last.
-/
import SearchFilter.Regex.Brackets
import SearchFilter.Text.Property

namespace SearchFilter.Regex

/-- what has been read of a group: the branches that are done and the parts of the one being read, latest first -/
structure Level where
  /-- where the first branch starts -/
  first : Nat
  branches : List Term
  /-- where the branch being read starts -/
  start : Nat
  parts : List Term

namespace Level

def fresh (start : Nat) : Level := ⟨start, [], start, []⟩

def push (l : Level) (t : Term) : Level := { l with parts := t :: l.parts }

/-- the branch being read, as it ends at `stop` -/
def branch (l : Level) (stop : Nat) : Term :=
  match l.parts with
  | [] => .empty ⟨l.start, stop⟩
  | [t] => t
  | parts => .concat ⟨l.start, stop⟩ parts.reverse

/-- on to the next branch, past a bar at `stop` -/
def alternate (l : Level) (stop : Nat) : Level :=
  { l with branches := l.branch stop :: l.branches, start := stop + 1, parts := [] }

/-- all branches, as the group ends at `stop` -/
def close (l : Level) (stop : Nat) : Term :=
  if l.branches.isEmpty then l.branch stop
  else .alternation ⟨l.first, stop⟩ (l.branch stop :: l.branches).reverse

end Level

structure Frame where
  /-- its opening parenthesis -/
  span : Span
  items : List FlagItem
  captures : Bool
  /-- whether white space was ignored before it -/
  ignoreSpace : Bool
  /-- what was read around it -/
  outer : Level

/-- a pattern that is being read -/
structure Reader where
  cursor : Cursor
  level : Level
  frames : List Frame
  /-- names of groups -/
  names : List (String × Span)

namespace Reader

/-! ## Groups -/

def flag? : Char → Option Flag
  | 'i' => some .ignoreCase
  | 'm' => some .multiLine
  | 's' => some .dotAll
  | 'U' => some .swapGreed
  | 'u' => some .unicode
  | 'R' => some .crlf
  | 'x' => some .ignoreSpace
  | _ => none

/-- Flags up to a colon or a closing parenthesis; `items` are the ones read so far, latest first. -/
def readFlags (items : List FlagItem) : Nat → Cursor → Except Failure (List FlagItem × Cursor)
  | 0, c => fail .flagUnfinished c.here
  | fuel + 1, c =>
    match c.next? with
    | none => fail .flagUnfinished c.here
    | some x =>
      if x = ':' || x = ')' then
        match items with
        | ⟨span, none⟩ :: _ => fail .flagDanglingNegation span
        | _ => .ok (items.reverse, c)
      else do
        let flag ← if x = '-' then pure none
          else match flag? x with
            | some f => pure (some f)
            | none => fail .flagUnknown c.charSpan
        match items.find? (·.flag == flag) with
        | some i =>
          failTwice (if flag.isNone then .flagRepeatedNegation else .flagDuplicate) c.charSpan i.span
        | none => readFlags (⟨c.charSpan, flag⟩ :: items) fuel c.bump

/-- a character that may stand in the name of a group, at its start or later -/
def isNameChar (first : Bool) (c : Char) : Bool :=
  c = '_' || Text.isAlphabetic c ||
    (!first && (c = '.' || c = '[' || c = ']' || Text.isNumeric c))

/-- the name of a group up to its angle bracket, and what follows -/
def readName (c : Cursor) : Except Failure ((String × Span) × Cursor) :=
  let name := c.rest.takeWhile (· != '>')
  match name.mapIdx (fun i x => (i, x)) |>.find? fun (i, x) => !isNameChar (i = 0) x with
  | some (i, _) => fail .groupNameInvalid (c.drop i).charSpan
  | none =>
    let stop := c.drop name.length
    if stop.atEnd then fail .groupNameUnclosed stop.here
    else if name.isEmpty then fail .groupNameEmpty c.here
    else .ok ((String.ofList name, stop.since c.pos), stop.bump)

/-- starts of groups that look around without taking characters -/
def lookArounds : List (List Char) := [['?', '='], ['?', '!'], ['?', '<', '='], ['?', '<', '!']]

/-- into a group that has been opened, with the cursor after its opening -/
def enter (r : Reader) (span : Span) (items : List FlagItem) (captures : Bool) (c : Cursor) : Reader :=
  let ignoreSpace := (flagState .ignoreSpace items).getD c.ignoreSpace
  { r with
    cursor := { c with ignoreSpace }
    level := Level.fresh c.pos
    frames := ⟨span, items, captures, c.ignoreSpace, r.level⟩ :: r.frames }

def openNamed (r : Reader) (span : Span) (c : Cursor) : Except Failure Reader := do
  let ((name, place), c) ← readName c
  match r.names.lookup name with
  | some original => failTwice .groupNameDuplicate place original
  | none => return { r.enter span [] true c with names := (name, place) :: r.names }

/-- a group with flags, or flags for the rest of the group around them; the cursor is after the question mark -/
def openFlags (r : Reader) (span : Span) (c : Cursor) : Except Failure Reader := do
  if c.atEnd then fail .groupUnclosed span
  else
    let (items, stop) ← readFlags [] (c.rest.length + 1) c
    let after := stop.bump
    if stop.next? = some ':' then return r.enter span items false after
    else if items.isEmpty then fail .repetitionMissing ⟨c.pos - 1, c.pos - 1⟩
    else
      let ignoreSpace := (flagState .ignoreSpace items).getD after.ignoreSpace
      return { r with
        cursor := { after with ignoreSpace }
        level := r.level.push (.flags (after.since span.start) items) }

def openGroup (r : Reader) : Except Failure Reader :=
  let span := r.cursor.charSpan
  let c := r.cursor.bumpSpace
  match lookArounds.findSome? c.skip? with
  | some c => fail .lookAround (c.since span.start)
  | none =>
    match (c.skip? ['?', 'P', '<']).or (c.skip? ['?', '<']) with
    | some c => r.openNamed span c
    | none =>
      match c.skip? ['?'] with
      | some c => r.openFlags span c
      | none => .ok (r.enter span [] true c)

def closeGroup (r : Reader) : Except Failure Reader :=
  match r.frames with
  | [] => fail .groupUnopened r.cursor.charSpan
  | f :: rest =>
    let c := r.cursor.bump
    let group := Term.group (c.since f.span.start) f.items f.captures (r.level.close r.cursor.pos)
    .ok { r with cursor := { c with ignoreSpace := f.ignoreSpace }, level := f.outer.push group, frames := rest }

/-! ## Repetitions -/

/-- the part that an operator repeats, and the level without it -/
def operand (r : Reader) : Except Failure (Term × Level) :=
  match r.level.parts with
  | [] => fail .repetitionMissing r.cursor.here
  | .flags _ _ :: _ => fail .repetitionMissing r.cursor.here
  | t :: rest => .ok (t, { r.level with parts := rest })

/-- the operand repeated; a question mark after the operator changes only which match is preferred -/
def repeatOperand (r : Reader) (t : Term) (level : Level) (least : Nat) (most : Option Nat) (c : Cursor) : Reader :=
  let c := if c.next? = some '?' then c.bump else c
  { r with cursor := c, level := level.push (.repeated (c.since t.span.start) least most t) }

def simpleRepetition (r : Reader) (least : Nat) (most : Option Nat) : Except Failure Reader := do
  let (t, level) ← r.operand
  return r.repeatOperand t level least most r.cursor.bump

/-- a number in braces that is missing -/
def asCount (n : Except Failure Nat) : Except Failure Nat :=
  n.mapError fun f => if f.fault = .decimalEmpty then { f with fault := .countEmpty } else f

/-- the counts in braces, up to the closing brace -/
def readCounts (start : Nat) (c : Cursor) : Except Failure (Nat × Option Nat × Cursor) := do
  let unclosed (c : Cursor) : Except Failure (Nat × Option Nat × Cursor) := fail .countUnclosed (c.since start)
  if c.atEnd then unclosed c
  else
    let (least, c) := readDecimal c
    let least := asCount least
    if c.atEnd then unclosed c
    else if c.next? = some ',' then
      let c := c.bumpSpace
      if c.atEnd then unclosed c
      else if c.next? = some '}' then return (← least, none, c)
      else
        let least ← least
        let (most, c) := readDecimal c
        return (least, some (← asCount most), c)
    else
      let n ← least
      return (n, some n, c)

def countedRepetition (r : Reader) : Except Failure Reader := do
  let start := r.cursor.pos
  let (t, level) ← r.operand
  let (least, most, c) ← readCounts start r.cursor.bumpSpace
  if c.next? != some '}' then fail .countUnclosed (c.since start)
  else
    let c := c.bumpSpace
    let r := r.repeatOperand t level least most c
    if most.any (· < least) then fail .countInvalid (r.cursor.since start) else return r

/-! ## The whole pattern -/

/-- one step of the loop; the pattern goes on -/
def step (r : Reader) (x : Char) : Except Failure Reader :=
  match x with
  | '(' => r.openGroup
  | ')' => r.closeGroup
  | '|' => .ok { r with cursor := r.cursor.bump, level := r.level.alternate r.cursor.pos }
  | '[' => (readClass r.cursor).map fun (t, c) => { r with cursor := c, level := r.level.push t }
  | '?' => r.simpleRepetition 0 (some 1)
  | '*' => r.simpleRepetition 0 none
  | '+' => r.simpleRepetition 1 none
  | '{' => r.countedRepetition
  | _ => (readAtom r.cursor).map fun (a, c) => { r with cursor := c, level := r.level.push a.toTerm }

/-- the term, when the pattern ends -/
def finish (r : Reader) : Except Failure Term :=
  match r.frames with
  | f :: _ => fail .groupUnclosed f.span
  | [] => .ok (r.level.close r.cursor.pos)

def run : Nat → Reader → Except Failure Term
  | 0, r => r.finish
  | fuel + 1, r =>
    let r := { r with cursor := r.cursor.skipSpace }
    match r.cursor.next? with
    | none => r.finish
    | some x => (r.step x).bind (run fuel)

end Reader

/-- the term of a pattern -/
def Term.read (pattern : String) : Except Failure Term := do
  let text := pattern.toList
  let t ← Reader.run (text.length + 1) ⟨⟨0, text, false⟩, Level.fresh 0, [], []⟩
  match t.tooDeep 0 with
  | some span => fail .nestLimitExceeded span
  | none => return t

end SearchFilter.Regex
