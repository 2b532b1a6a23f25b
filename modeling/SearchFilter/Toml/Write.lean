/-
TOML text of strings and lists of strings.

A string is written in double quotes where nothing in it needs an escape, else in single quotes where that is
possible, else over several lines, and with escapes as a last resort. A list of two or more stands with one
item on each line.
-/
import SearchFilter.Toml.Text
import SearchFilter.Text.Quoted

namespace SearchFilter.Toml

def longestRun (c : Char) (s : List Char) : Nat :=
  (s.foldl (fun (best, run) x => if x = c then (max best (run + 1), run + 1) else (best, 0)) (0, 0)).1

/-- what decides how a string is written -/
structure Metrics where
  singles : Nat
  doubles : Nat
  /-- holds a control character other than tab and line feed -/
  controls : Bool
  backslash : Bool
  newline : Bool

def Metrics.of (s : List Char) : Metrics where
  singles := longestRun '\'' s
  doubles := longestRun '"' s
  controls := s.any fun c => isControl c && c != '\n'
  backslash := s.contains '\\'
  newline := s.contains '\n'

/-- four hexadecimal digits in upper case -/
def hex4 (n : Nat) : List Char :=
  let ds := (Text.hexDigits n).map Char.toUpper
  List.replicate (4 - ds.length) '0' ++ ds

/-- Characters of a string in double quotes. Over several lines, line feeds stand as they are and so do up to two
quotes in a row; `run` counts them. -/
def escaped (multiline : Bool) : Nat → List Char → List Char
  | _, [] => []
  | run, '"' :: rest =>
    if run < (if multiline then 2 else 0) then '"' :: escaped multiline (run + 1) rest
    else '\\' :: '"' :: escaped multiline 0 rest
  | _, c :: rest =>
    (if c = '\x08' then ['\\', 'b']
      else if c = '\t' then ['\\', 't']
      else if c = '\n' then (if multiline then ['\n'] else ['\\', 'n'])
      else if c = '\x0c' then ['\\', 'f']
      else if c = '\r' then ['\\', 'r']
      else if c = '\\' then ['\\', '\\']
      else if isControl c then ['\\', 'u'] ++ hex4 c.toNat
      else [c]) ++ escaped multiline 0 rest

def stringText (text : String) : String :=
  let s := text.toList
  let m := Metrics.of s
  let lead := if m.newline then "\n" else ""
  if !m.controls && !m.backslash && m.doubles == 0 && !m.newline then
    "\"" ++ String.ofList (escaped false 0 s) ++ "\""
  else if !m.controls && m.singles == 0 && !m.newline then "'" ++ text ++ "'"
  else if !m.controls && !m.backslash && m.doubles ≤ 2 then
    "\"\"\"" ++ lead ++ String.ofList (escaped true 0 s) ++ "\"\"\""
  else if !m.controls && m.singles ≤ 2 then "'''" ++ lead ++ text ++ "'''"
  else if m.newline then "\"\"\"" ++ lead ++ String.ofList (escaped true 0 s) ++ "\"\"\""
  else "\"" ++ String.ofList (escaped false 0 s) ++ "\""

def listText : List String → String
  | [] => "[]"
  | [x] => "[" ++ stringText x ++ "]"
  | xs => "[\n" ++ String.join (xs.map fun x => "    " ++ stringText x ++ ",\n") ++ "]"

end SearchFilter.Toml
