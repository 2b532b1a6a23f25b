/-
Runs of the command line.

`run` is the whole program as a function: from arguments, environment, files and standard input to an exit code and
what is printed. A failed run prints a report: what failed, and the causes below it.
-/
import SearchFilter.Command.Args
import SearchFilter.Command.Log
import SearchFilter.Command.Table
import SearchFilter.Config
import SearchFilter.Record.Json

namespace SearchFilter.Command

open SearchFilter.Json (Members)

/-- what a run can see -/
structure Environment where
  args : List String
  /-- environment variables -/
  lookup : String → Option String
  files : String → FileContent
  stdin : FileContent

/-- what a run leaves behind -/
structure Output where
  exit : Nat
  stdout : String
  stderr : String
  deriving DecidableEq, Repr

/-! ## Reports -/

/-- What failed, and why. When `quotes` is set the last message goes on with the words of a parser, which are left
out, and the report ends there. -/
structure Report where
  message : String
  causes : List String
  /-- causes are numbered, as there are several -/
  numbered : Bool
  quotes : Bool

def causeText (numbered : Bool) (n : Nat) (s : String) : String :=
  let lead := if numbered then (if n < 10 then "    " else "   ") ++ toString n ++ ": " else "    "
  let next := if numbered then "\n       " else "\n    "
  lead ++ next.intercalate (pieces '\n' s)

def Report.text (r : Report) : String :=
  let body := "Error: " ++ r.message ++
    (if r.causes.isEmpty then ""
      else "\n\nCaused by:\n" ++ "\n".intercalate (r.causes.mapIdx fun n s => causeText r.numbered n s))
  if r.quotes then body else body ++ "\n"

def Report.of (message : String) (causes : List String) : Report :=
  ⟨message, causes, causes.length > 1, false⟩

def InputError.report : InputError → Report
  | .json line => ⟨(InputError.json line).message, [], false, true⟩
  | e => .of e.message []

def configReport : Config.Error → Report
  | .read path reason => .of "Failed to load config" [(Config.Error.read path reason).message, reason]
  | .parse path => ⟨"Failed to load config", [(Config.Error.parse path).message], true, true⟩

/-- the messages below an evaluation error -/
def evalCauses (e : EvalError) : List String :=
  match e with
  | .oversizedPattern _ =>
    [e.message, "Compiled regex exceeds size limit of " ++ toString patternSizeLimit ++ " bytes."]
  | _ => [e.message]

/-! ## Colours -/

/-- Colours are used only when they are asked for. -/
def colours (env : String → Option String) : Bool :=
  match env "CLICOLOR_FORCE" with
  | some v => v != "0"
  | none => false

def painted (on : Bool) (code : String) (s : String) : String :=
  if on then "\x1b[" ++ code ++ "m" ++ s ++ "\x1b[0m" else s

def green (on : Bool) (s : String) : String := painted on "32" s

def cyan (on : Bool) (s : String) : String := painted on "36" s

/-! ## Actions -/

/-- what an action leaves behind: log lines, standard output, a closing line, and a report if it failed -/
structure Result where
  log : List LogLine
  stdout : String
  closing : String
  failure : Option Report

def Result.failed (log : List LogLine) (r : Report) : Result := ⟨log, "", "", some r⟩

/-- log lines of a compilation: what was extracted, and what it was compiled into -/
def compileLog (o : Options) (schema : Schema) (filter : String) : List LogLine :=
  match (validate filter).bind fun _ => extract schema filter with
  | .error _ => []
  | .ok tiles =>
    ⟨.debug, "ldap_predicate::filter::extract",
      "extracted " ++ toString tiles.length ++ " comparison(s) from filter " ++ filter⟩ ::
    (match compileExpr o schema filter with
      | .error _ => []
      | .ok e =>
        [⟨.trace, "ldap_predicate::filter::compiler", "compiled " ++ filter ++ " into " ++ e.render o⟩])

def invalidFilter (filter : String) (e : FilterError) : Report :=
  .of ("Invalid filter expression: " ++ filter) [e.message]

/-- records in a table with one column for each name of the schema -/
def recordTable (schema : Schema) (records : List Members) : String :=
  let columns := schema.names
  Table.text ⟨columns, records.map fun r => columns.map fun c => (r.record c).getD ""⟩

def inputText (env : Environment) : Option String → Except Report String
  | some path => (env.files path).read.mapError fun e => .of ("Failed to read input file '" ++ path ++ "'") [e]
  | none => env.stdin.read.mapError fun e => .of "Failed to read records from stdin" [e]

/-- records as they are printed, one on each line or in a table -/
def printed (format : OutputFormat) (schema : Schema) (records : List Members) : String :=
  match format with
  | .json => String.join (records.map fun r => r.text ++ "\n")
  | .table => recordTable schema records ++ "\n"

def skippedLine (n : Nat) (e : EvalError) : LogLine :=
  ⟨.warn, "ldap_predicate", "record " ++ toString n ++ " skipped: " ++ e.message⟩

/-- Filter records: all matches are printed, or none if a record fails. -/
def filterRecords (env : Environment) (o : Options) (filter : String) (file : Option String)
    (fields : List String) (format : OutputFormat) (policy : TimeoutPolicy) : Result :=
  match inputText env file with
  | .error r => .failed [] r
  | .ok content =>
    match parseRecords content with
    | .error e => .failed [] (InputError.report e)
    | .ok records =>
      let schema := schemaFor records fields
      let log := compileLog o schema filter
      match Predicate.compile o schema filter with
      | .error e => .failed log (invalidFilter filter e)
      | .ok p =>
        let log := log ++ [⟨.debug, "ldap_predicate", "predicate: " ++ p.render⟩]
        match p.select policy Json.Members.record 0 records with
        | .error (n, e) => .failed log (.of ("Failed to evaluate record " ++ toString n) (evalCauses e))
        | .ok s =>
          let on := colours env.lookup
          { log := log ++ s.skipped.map fun (n, e) => skippedLine n e
            stdout := printed format schema s.records
            closing := green on (toString s.records.length) ++ " of " ++ toString records.length ++
              " record" ++ (if records.length = 1 then "" else "s") ++ " matched\n"
            failure := none }

/-- Check a filter and show what it compiles to. -/
def checkFilter (env : Environment) (o : Options) (filter : String) (fields : List String) : Result :=
  let schema := Schema.ofNames fields
  let log := compileLog o schema filter
  match compileExpr o schema filter with
  | .error e => .failed log (invalidFilter filter e)
  | .ok e =>
    ⟨log, green (colours env.lookup) "valid" ++ " " ++ filter ++ "\n" ++ e.render o ++ "\n", "", none⟩

/-- Show the code of each word. -/
def codes (env : Environment) (o : Options) (words : List String) : Result :=
  let line (w : String) := w ++ "\t" ++ cyan (colours env.lookup) (o.approximate.encode w) ++ "\n"
  ⟨[], String.join (words.map line), "", none⟩

/-- what an action does under a configuration -/
def act (env : Environment) (config : Config) (o : Options) : Action → Result
  | .filter filter file fields format policy => filterRecords env o filter file fields format policy
  | .check filter fields => checkFilter env o filter fields
  | .approx words => codes env o words
  | .config => ⟨[], config.text, "", none⟩

/-- the configuration with what the command line says -/
def overrideConfig (config : Config) (args : Args) : Config :=
  { config with
    caseInsensitiveStore := config.caseInsensitiveStore || args.caseInsensitiveStore
    locale := args.locale.orElse fun _ => config.locale }

/-- a run from its arguments on -/
def perform {Regex : Type} (engine : Like.Engine Regex) (env : Environment) (args : Args) : Result :=
  match Config.load env.files args.config with
  | .error e => .failed [] (configReport e)
  | .ok config =>
    let config := overrideConfig config args
    if config.likeTimeoutMs = 0 then .failed [] (.of "like_timeout_ms must be greater than zero" [])
    else
      let o := config.toOptions engine env.lookup
      let replaced : LogLine :=
        ⟨.debug, "ldap_predicate::options", "process-wide filter options replaced: " ++ o.debugText⟩
      let r := act env config o args.action
      { r with log := replaced :: r.log }

/-- what a result leaves behind, under a log filter -/
def Result.output (f : LogFilter) (r : Result) : Output where
  exit := if r.failure.isSome then 1 else 0
  stdout := r.stdout
  stderr := String.join f.warnings ++ String.join ((r.log.filter f.shows).map LogLine.text) ++ r.closing ++
    (match r.failure with
      | some report => report.text
      | none => "")

/-- the whole program, over a library for wildcard matching -/
def run {Regex : Type} (engine : Like.Engine Regex) (env : Environment) : Output :=
  match parse env.lookup env.args with
  | .error u => ⟨u.exit, "", ""⟩
  | .ok args => (perform engine env args).output (.forRun env.lookup args.verbose)

end SearchFilter.Command
