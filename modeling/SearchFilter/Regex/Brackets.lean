/-
Reading classes in brackets.

Sets may stand inside one another and be combined by `&&`, `--` and `~~`, from left to right. The sets that are still
open are kept on a stack, so one loop over the pattern reads them all.
-/
import SearchFilter.Regex.Atom

namespace SearchFilter.Regex

open SearchFilter.Text (CharSet)

/-- classes of ASCII characters by name -/
def asciiClasses : List (String × CharSet) := [
  ("alnum", [(0x30, 0x39), (0x41, 0x5A), (0x61, 0x7A)]),
  ("alpha", [(0x41, 0x5A), (0x61, 0x7A)]),
  ("ascii", [(0x0, 0x7F)]),
  ("blank", [(0x9, 0x9), (0x20, 0x20)]),
  ("cntrl", [(0x0, 0x1F), (0x7F, 0x7F)]),
  ("digit", [(0x30, 0x39)]),
  ("graph", [(0x21, 0x7E)]),
  ("lower", [(0x61, 0x7A)]),
  ("print", [(0x20, 0x7E)]),
  ("punct", [(0x21, 0x2F), (0x3A, 0x40), (0x5B, 0x60), (0x7B, 0x7E)]),
  ("space", [(0x9, 0xD), (0x20, 0x20)]),
  ("upper", [(0x41, 0x5A)]),
  ("word", [(0x30, 0x39), (0x41, 0x5A), (0x5F, 0x5F), (0x61, 0x7A)]),
  ("xdigit", [(0x30, 0x39), (0x41, 0x46), (0x61, 0x66)])]

/-- items one after the other, the latest first -/
structure Row where
  span : Span
  items : List ClassItem

def Row.fresh (c : Cursor) : Row := ⟨c.here, []⟩

def Row.push (r : Row) (i : ClassItem) : Row :=
  ⟨⟨if r.items.isEmpty then i.span.start else r.span.start, i.span.stop⟩, i :: r.items⟩

def Row.close (r : Row) : ClassItem :=
  match r.items with
  | [] => .empty r.span
  | [i] => i
  | items => .union r.span items.reverse

/-- what waits for the end of the set that is being read -/
inductive Waiting where
  /-- an open set inside the row around it; `span` is its opening -/
  | opened (outer : Row) (span : Span) (negated : Bool)
  /-- the left side of an operator -/
  | operator (op : SetOp) (lhs : ClassItem)

/-- a class that is being read -/
structure Brackets where
  cursor : Cursor
  row : Row
  stack : List Waiting

namespace Brackets

/-- the failure of a class that is not closed: it points at the innermost open set -/
def unclosed {α : Type} (b : Brackets) : Except Failure α :=
  let rec find : List Waiting → Span
    | [] => b.cursor.here
    | .opened _ span _ :: _ => span
    | .operator _ _ :: rest => find rest
  fail .classUnclosed (find b.stack)

/-- the hyphens at the start of a set, which stand for themselves -/
def leadingHyphens (start : Nat) : Nat → Row → Cursor → Except Failure (Row × Cursor)
  | 0, r, c => .ok (r, c)
  | fuel + 1, r, c =>
    if c.next? = some '-' then
      let r := r.push (.literal ⟨c.charSpan, '-', false⟩)
      let c := c.bumpSpace
      if c.atEnd then fail .classUnclosed ⟨start, start⟩ else leadingHyphens start fuel r c
    else .ok (r, c)

/-- into a set; the cursor is at its opening bracket. A closing bracket at the very start stands for itself. -/
def openSet (b : Brackets) : Except Failure Brackets := do
  let start := b.cursor.pos
  let c := b.cursor.bumpSpace
  if c.atEnd then fail .classUnclosed (c.since start)
  else
    let negated := c.next? = some '^'
    let c := if negated then c.bumpSpace else c
    if c.atEnd then fail .classUnclosed (c.since start)
    else
      let (r, c) ← leadingHyphens start c.rest.length (Row.fresh c) c
      if r.items.isEmpty && c.next? = some ']' then
        let r := r.push (.literal ⟨c.charSpan, ']', false⟩)
        let c := c.bumpSpace
        if c.atEnd then fail .classUnclosed (c.since start)
        else return ⟨c, r, .opened b.row (c.since start) negated :: b.stack⟩
      else return ⟨c, r, .opened b.row (c.since start) negated :: b.stack⟩

/-- the right side of the operator that waits for it, if there is one -/
def applyOperator (rhs : ClassItem) : List Waiting → ClassItem × List Waiting
  | .operator op lhs :: rest => (.combined ⟨lhs.span.start, rhs.span.stop⟩ op lhs rhs, rest)
  | stack => (rhs, stack)

def operator (op : SetOp) (b : Brackets) : Brackets :=
  let c := b.cursor.drop 2
  let (lhs, stack) := applyOperator b.row.close b.stack
  ⟨c, Row.fresh c, .operator op lhs :: stack⟩

/-- out of a set: on with the set around it, or done -/
def closeSet (b : Brackets) : Brackets ⊕ (Term × Cursor) :=
  let (set, stack) := applyOperator b.row.close b.stack
  let c := b.cursor.bump
  match stack with
  | .opened outer span negated :: rest =>
    let span : Span := ⟨span.start, c.pos⟩
    if rest.isEmpty then .inr (.bracketed span negated set, c)
    else .inl ⟨c, outer.push (.bracketed span negated set), rest⟩
  | stack => .inl ⟨c, ⟨set.span, [set]⟩, stack⟩

/-- a named class of ASCII characters such as `[:alpha:]`, if one follows -/
def asciiClass? (c : Cursor) : Option (ClassItem × Cursor) := do
  let inner ← c.skip? ['[', ':']
  let negated := inner.next? = some '^'
  let inner := if negated then inner.bump else inner
  let name := inner.rest.takeWhile (· != ':')
  let after ← (inner.drop name.length).skip? [':', ']']
  let set ← asciiClasses.lookup (String.ofList name)
  return (.ascii (after.since c.pos) set negated, after)

/-- one character or escape in brackets -/
def readBound (c : Cursor) : Except Failure (Atom × Cursor) :=
  match c.next? with
  | some '\\' => readEscape c
  | some x => .ok (.literal ⟨c.charSpan, x, false⟩, c.bump)
  | none => fail .classUnclosed c.here

def readRange (b : Brackets) : Except Failure Brackets := do
  let (lo, c) ← readBound b.cursor
  let c := c.skipSpace
  let b := { b with cursor := c }
  if c.atEnd then b.unclosed
  else if c.next? != some '-' || c.peekSpace? = some ']' || c.peekSpace? = some '-' then
    return { b with row := b.row.push (← lo.toItem) }
  else
    let c := c.bumpSpace
    if c.atEnd then b.unclosed
    else
      let (hi, c) ← readBound c
      let span : Span := ⟨lo.span.start, hi.span.stop⟩
      let first ← lo.toBound
      let last ← hi.toBound
      if last.char < first.char then fail .classRangeInvalid span
      else return { b with cursor := c, row := b.row.push (.range span first last) }

def step (b : Brackets) : Except Failure (Brackets ⊕ (Term × Cursor)) :=
  let b := { b with cursor := b.cursor.skipSpace }
  match b.cursor.next? with
  | none => b.unclosed
  | some '[' =>
    match (if b.stack.isEmpty then none else asciiClass? b.cursor) with
    | some (item, c) => .ok (.inl { b with cursor := c, row := b.row.push item })
    | none => b.openSet.map .inl
  | some ']' => .ok b.closeSet
  | some x =>
    if b.cursor.peek? = some x && x = '&' then .ok (.inl (b.operator .intersection))
    else if b.cursor.peek? = some x && x = '-' then .ok (.inl (b.operator .difference))
    else if b.cursor.peek? = some x && x = '~' then .ok (.inl (b.operator .symmetricDifference))
    else b.readRange.map .inl

def run : Nat → Brackets → Except Failure (Term × Cursor)
  | 0, b => b.unclosed
  | fuel + 1, b => do
    match ← b.step with
    | .inl b => run fuel b
    | .inr done => return done

end Brackets

/-- a class in brackets; the cursor is at the opening bracket -/
def readClass (c : Cursor) : Except Failure (Term × Cursor) :=
  Brackets.run (c.rest.length + 1) ⟨c, Row.fresh c, []⟩

end SearchFilter.Regex
