/-
Log lines and which of them are shown.

A filter is a list of directives, each a threshold for the targets that start with a name; the longest name that
fits decides. It is read from a text such as `warn,store::cache=debug`, optionally followed by `/` and a regular
expression that a message must match.
-/
import SearchFilter.Regex.Compile

namespace SearchFilter.Command

/-- importance of a log line, the gravest first -/
inductive LogLevel where
  | error
  | warn
  | info
  | debug
  | trace
  deriving DecidableEq, Repr

def LogLevel.rank : LogLevel → Nat
  | .error => 1
  | .warn => 2
  | .info => 3
  | .debug => 4
  | .trace => 5

/-- name of a level, five characters wide -/
def LogLevel.label : LogLevel → String
  | .error => "ERROR"
  | .warn => "WARN "
  | .info => "INFO "
  | .debug => "DEBUG"
  | .trace => "TRACE"

structure LogLine where
  level : LogLevel
  target : String
  message : String

/-- the lines of a message after the first are indented -/
def indented (s : String) : String :=
  String.ofList (s.toList.flatMap fun c => if c = '\n' then "\n    ".toList else [c])

def LogLine.text (l : LogLine) : String :=
  "[" ++ l.level.label ++ " " ++ l.target ++ "] " ++ indented l.message ++ "\n"

/-! ## Filters -/

/-- threshold for the targets that start with a name -/
structure Directive where
  target : Option String
  threshold : Nat

/-- directives, the latest of each target, and what messages must match -/
structure LogFilter where
  directives : List Directive
  pattern : Option Regex.Pattern
  warnings : List String

def thresholds : List (String × Nat) :=
  [("off", 0), ("error", 1), ("warn", 2), ("info", 3), ("debug", 4), ("trace", 5)]

def threshold? (s : String) : Option Nat :=
  (thresholds.find? fun t => Text.eqIgnoreAsciiCase t.1 s).map Prod.snd

/-- pieces of a text between separators -/
def pieces (sep : Char) (s : String) : List String := (s.toList.splitOn sep).map String.ofList

def trimmed (s : String) : String := String.ofList (Text.trim s.toList)

/-- what is said of a part of a filter that makes no sense -/
def ignored (part : String) : String := "warning: invalid logging spec '" ++ part ++ "', ignoring it\n"

/-- one directive; what cannot be read is reported -/
def directive (s : String) : Except String Directive :=
  match pieces '=' s with
  | [name] =>
    match threshold? name with
    | some n => .ok ⟨none, n⟩
    | none => .ok ⟨some name, 5⟩
  | [name, level] =>
    let level := trimmed level
    if level.isEmpty then .ok ⟨some name, 5⟩
    else
      match threshold? level with
      | some n => .ok ⟨some name, n⟩
      | none => .error (ignored level)
  | _ => .error (ignored s)

/-- a directive in the place of an earlier one for the same target, or after the others -/
def addDirective (d : Directive) : List Directive → List Directive
  | [] => [d]
  | x :: xs => if x.target = d.target then d :: xs else x :: addDirective d xs

/-- what messages must match, added to a filter; what is no pattern is reported -/
def LogFilter.addPattern (text : String) (f : LogFilter) : LogFilter :=
  match Regex.Pattern.ofText text with
  | .ok p => { f with pattern := some p }
  | .error e => { f with warnings := f.warnings ++ ["warning: invalid regex filter - " ++ e.message ++ ", ignoring it\n"] }

/-- a filter as it is written -/
def LogFilter.parse (s : String) : LogFilter :=
  let read (f : LogFilter) (part : String) : LogFilter :=
    let part := trimmed part
    if part.isEmpty then f
    else
      match directive part with
      | .ok d => { f with directives := addDirective d f.directives }
      | .error w => { f with warnings := f.warnings ++ [w] }
  match pieces '/' s with
  | [mods] => (pieces ',' mods).foldl read ⟨[], none, []⟩
  | [mods, text] => ((pieces ',' mods).foldl read ⟨[], none, []⟩).addPattern text
  | _ => ⟨[], none, ["warning: invalid logging spec '" ++ s ++ "' (too many '/'s), ignoring it\n"]⟩

/-- threshold for a target: that of the longest name it starts with; errors only where there are no directives -/
def LogFilter.thresholdFor (f : LogFilter) (target : String) : Nat :=
  if f.directives.isEmpty then 1
  else
    let fitting := f.directives.filter fun d => (d.target.getD "").toList.isPrefixOf target.toList
    let best := fitting.foldl (fun (acc : Option Directive) d =>
      match acc with
      | none => some d
      | some b => if (b.target.getD "").utf8ByteSize ≤ (d.target.getD "").utf8ByteSize then some d else some b) none
    (best.map Directive.threshold).getD 0

def LogFilter.shows (f : LogFilter) (l : LogLine) : Bool :=
  l.level.rank ≤ f.thresholdFor l.target &&
    f.pattern.all fun p => p.isMatch l.message

/-- the filter of a run: the environment's, or by how often more output was asked for -/
def LogFilter.forRun (env : String → Option String) (verbose : Nat) : LogFilter :=
  match env "RUST_LOG" with
  | some s => .parse s
  | none => .parse (if verbose = 0 then "warn" else if verbose = 1 then "debug" else "trace")

end SearchFilter.Command
