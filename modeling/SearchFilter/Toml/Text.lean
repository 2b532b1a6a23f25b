/-
Lexical parts of TOML: blanks, comments, line ends, strings and keys.

Each reader takes a text and returns what it read with the rest, or nothing. Line ends are a line feed or a
carriage return and a line feed, and both read as a line feed inside a string.
-/
import SearchFilter.Json.Read

namespace SearchFilter.Toml

open SearchFilter.Json (hexNumber)

/-! ## Blanks, line ends and comments -/

def isWs (c : Char) : Bool := c == ' ' || c == '\t'

def skipWs (s : List Char) : List Char := s.dropWhile isWs

/-- a control character other than the tab -/
def isControl (c : Char) : Bool := (c.toNat < 32 && c != '\t') || c.toNat == 127

/-- what follows a line end -/
def newline? : List Char → Option (List Char)
  | '\n' :: rest => some rest
  | '\r' :: '\n' :: rest => some rest
  | _ => none

def skipComment : List Char → List Char
  | '#' :: rest => rest.dropWhile fun c => !isControl c
  | s => s

/-- Blanks and a comment up to the end of the line, and what follows the line end. -/
def lineEnd? (s : List Char) : Option (List Char) :=
  match skipComment (skipWs s) with
  | [] => some []
  | s => newline? s

/-- blanks and line ends -/
def skipWsNewlines : Nat → List Char → List Char
  | 0, s => s
  | fuel + 1, s =>
    match newline? (skipWs s) with
    | some rest => skipWsNewlines fuel rest
    | none => skipWs s

/-- blanks, line ends and comments, as they may stand between the items of an array -/
def skipFiller : Nat → List Char → List Char
  | 0, s => s
  | fuel + 1, s =>
    let t := skipComment (skipWs s)
    match newline? t with
    | some rest => skipFiller fuel rest
    | none => t

/-! ## Strings -/

/-- a character by number; halves of surrogate pairs are none -/
def charOfCode? (n : Nat) : Option Char :=
  if n < 0xD800 ∨ (0xE000 ≤ n ∧ n < 0x110000) then some (Char.ofNat n) else none

/-- the character after a backslash, and the rest -/
def escape? : List Char → Option (Char × List Char)
  | 'b' :: rest => some ('\x08', rest)
  | 't' :: rest => some ('\t', rest)
  | 'n' :: rest => some ('\n', rest)
  | 'f' :: rest => some ('\x0c', rest)
  | 'r' :: rest => some ('\r', rest)
  | '"' :: rest => some ('"', rest)
  | '\\' :: rest => some ('\\', rest)
  | 'u' :: rest => digits 4 rest
  | 'U' :: rest => digits 8 rest
  | _ => none
where
  digits (n : Nat) (s : List Char) : Option (Char × List Char) :=
    if s.length < n then none
    else ((hexNumber (s.take n)).bind charOfCode?).map fun c => (c, s.drop n)

def basicString : Nat → List Char → Option (List Char × List Char)
  | 0, _ => none
  | _ + 1, [] => none
  | _ + 1, '"' :: rest => some ([], rest)
  | fuel + 1, '\\' :: rest =>
    match escape? rest with
    | none => none
    | some (c, rest) => (basicString fuel rest).map fun (s, r) => (c :: s, r)
  | fuel + 1, c :: rest =>
    if isControl c then none else (basicString fuel rest).map fun (s, r) => (c :: s, r)

def literalString (s : List Char) : Option (List Char × List Char) :=
  let inside := s.takeWhile fun c => c != '\'' && !isControl c
  match s.dropWhile fun c => c != '\'' && !isControl c with
  | '\'' :: rest => some (inside, rest)
  | _ => none

/-- The end of a string of several lines: three quotes, with up to two more that belong to the string. -/
def closing? (quote : Char) (s : List Char) : Option (List Char × List Char) :=
  let n := (s.takeWhile (· == quote)).length
  if n < 3 then none
  else
    let n := min n 5
    some (List.replicate (n - 3) quote, s.drop n)

/-- what follows a backslash at the end of a line: the line end, and all blanks and line ends after it -/
def continued? (fuel : Nat) (s : List Char) : Option (List Char) :=
  (newline? (skipWs s)).map (skipWsNewlines fuel)

def multilineBasic : Nat → List Char → Option (List Char × List Char)
  | 0, _ => none
  | fuel + 1, s =>
    match closing? '"' s with
    | some found => some found
    | none =>
      match newline? s with
      | some rest => (multilineBasic fuel rest).map fun (s, r) => ('\n' :: s, r)
      | none =>
        match s with
        | [] => none
        | '\\' :: rest =>
          match continued? (rest.length + 1) rest with
          | some rest => multilineBasic fuel rest
          | none =>
            match escape? rest with
            | none => none
            | some (c, rest) => (multilineBasic fuel rest).map fun (s, r) => (c :: s, r)
        | c :: rest =>
          if isControl c then none else (multilineBasic fuel rest).map fun (s, r) => (c :: s, r)

def multilineLiteral : Nat → List Char → Option (List Char × List Char)
  | 0, _ => none
  | fuel + 1, s =>
    match closing? '\'' s with
    | some found => some found
    | none =>
      match newline? s with
      | some rest => (multilineLiteral fuel rest).map fun (s, r) => ('\n' :: s, r)
      | none =>
        match s with
        | [] => none
        | c :: rest =>
          if isControl c then none else (multilineLiteral fuel rest).map fun (s, r) => (c :: s, r)

/-- without a line end at the start -/
def dropNewline (s : List Char) : List Char := (newline? s).getD s

/-- the string at the start of a text -/
def string? : List Char → Option (List Char × List Char)
  | '"' :: '"' :: '"' :: rest => multilineBasic (rest.length + 1) (dropNewline rest)
  | '\'' :: '\'' :: '\'' :: rest => multilineLiteral (rest.length + 1) (dropNewline rest)
  | '"' :: rest => basicString (rest.length + 1) rest
  | '\'' :: rest => literalString rest
  | _ => none

/-! ## Keys -/

/-- a character of a key without quotes -/
def isBareKey (c : Char) : Bool :=
  ('a' ≤ c && c ≤ 'z') || ('A' ≤ c && c ≤ 'Z') || ('0' ≤ c && c ≤ '9') || c == '_' || c == '-'

def simpleKey? : List Char → Option (String × List Char)
  | '"' :: rest => (basicString (rest.length + 1) rest).map fun (s, r) => (String.ofList s, r)
  | '\'' :: rest => (literalString rest).map fun (s, r) => (String.ofList s, r)
  | s =>
    let k := s.takeWhile isBareKey
    if k.isEmpty then none else some (String.ofList k, s.dropWhile isBareKey)

def maxNesting : Nat := 79

/-- parts of a key with dots between them -/
def keyParts : Nat → List Char → Option (List String × List Char)
  | 0, _ => none
  | fuel + 1, s =>
    match simpleKey? s with
    | none => none
    | some (k, rest) =>
      match skipWs rest with
      | '.' :: more => (keyParts fuel (skipWs more)).map fun (ks, r) => (k :: ks, r)
      | _ => some ([k], rest)

/-- a key: the parts before its last dot, its last part, and the rest -/
def key? (s : List Char) : Option (List String × String × List Char) :=
  match keyParts maxNesting s with
  | none => none
  | some (ks, rest) => (ks.getLast?).map fun k => (ks.dropLast, k, rest)

end SearchFilter.Toml
