/-
A place in a pattern that is being read.

In a pattern that ignores white space, blanks and comments from `#` to the end of the line are passed over wherever
`skipSpace` is called.
-/
import SearchFilter.Regex.Fault
import SearchFilter.Text.Classes

namespace SearchFilter.Regex

/-- a place in a pattern: its offset, what follows, and whether white space is ignored from here on -/
structure Cursor where
  pos : Nat
  rest : List Char
  ignoreSpace : Bool

namespace Cursor

def next? (c : Cursor) : Option Char := c.rest.head?

def atEnd (c : Cursor) : Bool := c.rest.isEmpty

def drop (n : Nat) (c : Cursor) : Cursor :=
  { c with pos := c.pos + min n c.rest.length, rest := c.rest.drop n }

/-- past the next character -/
def bump (c : Cursor) : Cursor := c.drop 1

/-- number of characters that blanks and comments take, from inside a comment or not -/
def spaceLength : Bool → List Char → Nat
  | _, [] => 0
  | true, x :: rest => 1 + spaceLength (x != '\n') rest
  | false, x :: rest =>
    if Text.isBlank x then 1 + spaceLength false rest
    else if x = '#' then 1 + spaceLength true rest
    else 0

def skipSpace (c : Cursor) : Cursor := if c.ignoreSpace then c.drop (spaceLength false c.rest) else c

/-- past the next character and what may be ignored after it -/
def bumpSpace (c : Cursor) : Cursor := c.bump.skipSpace

/-- the empty stretch at a place -/
def here (c : Cursor) : Span := ⟨c.pos, c.pos⟩

/-- the stretch of the next character -/
def charSpan (c : Cursor) : Span := ⟨c.pos, c.pos + 1⟩

/-- from an earlier offset up to here -/
def since (start : Nat) (c : Cursor) : Span := ⟨start, c.pos⟩

/-- past a text, if it follows -/
def skip? (text : List Char) (c : Cursor) : Option Cursor :=
  if text.isPrefixOf c.rest then some (c.drop text.length) else none

/-- the character after the next one -/
def peek? (c : Cursor) : Option Char := c.rest.tail.head?

/-- The character after the next one, past white space. The first word of a comment is not passed over. -/
def peekSpace? (c : Cursor) : Option Char :=
  if !c.ignoreSpace then c.peek?
  else
    let rec find : Bool → List Char → Option Char
      | _, [] => none
      | inComment, x :: rest =>
        if Text.isBlank x then find inComment rest
        else if !inComment && x = '#' then find true rest
        else some x
    (find false c.rest.tail).or c.peek?

/-- the characters of a kind that follow, what may be ignored between them left out -/
def collect (kind : Char → Bool) (c : Cursor) : List Char × Cursor :=
  let rec go : Nat → Cursor → List Char × Cursor
    | 0, c => ([], c)
    | fuel + 1, c =>
      match c.next? with
      | none => ([], c)
      | some x =>
        if kind x then
          let (xs, c) := go fuel c.bumpSpace
          (x :: xs, c)
        else ([], c)
  go c.rest.length c

def skipBlanks (c : Cursor) : Cursor := c.drop (c.rest.takeWhile Text.isBlank).length

end Cursor

end SearchFilter.Regex
