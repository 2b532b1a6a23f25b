/-
Command-line arguments.

Arguments are read from left to right at one of two levels, before and after the subcommand. A level knows its
options and its positional arguments; the options of the outer level may be given at either, and the inner one
wins. A value that was announced but not yet given is pending, and it is settled before the next thing is read.
-/
import SearchFilter.Query

namespace SearchFilter.Command

/-! ## What can be given -/

/-- how matching records are printed -/
inductive OutputFormat where
  | json
  | table
  deriving DecidableEq, Repr

/-- what the program is asked to do -/
inductive Action where
  | filter (filter : String) (file : Option String) (fields : List String) (format : OutputFormat)
      (onTimeout : TimeoutPolicy)
  | check (filter : String) (fields : List String)
  | approx (words : List String)
  | config
  deriving DecidableEq, Repr

/-- a complete command line -/
structure Args where
  config : Option String
  verbose : Nat
  caseInsensitiveStore : Bool
  locale : Option String
  action : Action
  deriving DecidableEq, Repr

/-- why a command line does not ask for an action -/
inductive Usage where
  | missingRequired
  | unknownArgument
  | invalidValue
  | invalidSubcommand
  | conflict
  | tooManyValues
  | missingSubcommand
  | help
  | version
  | helpOnMissing
  deriving DecidableEq, Repr

/-- Only a call for help or for the version succeeds. -/
def Usage.exit : Usage → Nat
  | .help => 0
  | .version => 0
  | _ => 2

/-- names of arguments -/
inductive Name where
  | config
  | verbose
  | store
  | locale
  | help
  | version
  | filter
  | file
  | fields
  | format
  | onTimeout
  | words
  deriving DecidableEq, Repr

/-- how often an argument is given and what it holds -/
inductive Kind where
  | flag
  | count
  | value
  | list
  | help
  | version
  deriving DecidableEq, Repr

/-- an option with its spellings -/
structure Opt where
  name : Name
  short : Option Char
  long : String
  kind : Kind

/-- a level of arguments: options, positional arguments (with whether they repeat), and subcommands -/
structure Level where
  options : List Opt
  positionals : List (Name × Bool)
  subcommands : List String
  required : List Name

def sharedOptions : List Opt := [
  ⟨.config, some 'c', "config", .value⟩,
  ⟨.verbose, some 'v', "verbose", .count⟩,
  ⟨.store, none, "case-insensitive-store", .flag⟩,
  ⟨.locale, none, "locale", .value⟩,
  ⟨.help, some 'h', "help", .help⟩]

def fieldsOption : Opt := ⟨.fields, none, "fields", .list⟩

def outer : Level where
  options := sharedOptions ++ [⟨.version, some 'V', "version", .version⟩]
  positionals := []
  subcommands := ["filter", "check", "approx", "config", "help"]
  required := []

/-- the level of a subcommand -/
def inner (name : String) : Level :=
  if name = "filter" then
    { options := sharedOptions ++
        [fieldsOption, ⟨.format, some 'F', "format", .value⟩, ⟨.onTimeout, none, "on-timeout", .value⟩]
      positionals := [(.filter, false), (.file, false)], subcommands := [], required := [.filter] }
  else if name = "check" then
    { options := sharedOptions ++ [fieldsOption]
      positionals := [(.filter, false)], subcommands := [], required := [.filter, .fields] }
  else if name = "approx" then
    { options := sharedOptions, positionals := [(.words, true)], subcommands := [], required := [.words] }
  else { options := sharedOptions, positionals := [], subcommands := [], required := [] }

/-! ## Reading one level -/

/-- the values given so far, by argument -/
abbrev Found := List (Name × List String)

/-- values that an argument does not take -/
def valid (name : Name) (value : String) : Bool :=
  match name with
  | .format => value == "json" || value == "table"
  | .onTimeout => value == "fail" || value == "skip"
  | .config => !value.isEmpty
  | .file => !value.isEmpty
  | _ => true

def splitCommas (s : String) : List String := (s.toList.splitOn ',').map String.ofList

def countLimit : Nat := 255

/-- Takes in an argument with its values. One that holds a single value or is a flag can be given only once. -/
def take (found : Found) (name : Name) (kind : Kind) (values : List String) : Except Usage Found :=
  match kind with
  | .help => .error .help
  | .version => .error .version
  | .count => .ok ((name, "" :: (found.lookup name).getD []) :: found.filter (·.1 ≠ name))
  | .flag => if (found.lookup name).isSome then .error .conflict else .ok ((name, []) :: found)
  | .value =>
    if values = [] then .error .invalidValue
    else if (found.lookup name).isSome then .error .conflict
    else if values.all (valid name) then .ok ((name, values) :: found)
    else .error .invalidValue
  | .list =>
    if values = [] then .error .invalidValue
    else
      let old := (found.lookup name).getD []
      .ok ((name, old ++ values) :: found.filter (·.1 ≠ name))

/-- where reading stands -/
structure State where
  found : Found
  /-- an argument whose values are still being collected -/
  pending : Option (Name × Kind × List String)
  /-- the next argument is the value of the pending option -/
  awaiting : Bool
  /-- everything is positional from here on -/
  trailing : Bool
  /-- positional arguments already complete -/
  position : Nat

def State.start : State := ⟨[], none, false, false, 0⟩

/-- values as they are taken in: an option that lists is split at commas -/
def delimited (name : Name) (values : List String) : List String :=
  if name = .fields then values.flatMap splitCommas else values

/-- settle what is pending -/
def State.settle (s : State) : Except Usage State :=
  match s.pending with
  | none => .ok s
  | some (name, kind, values) =>
    (take s.found name kind (delimited name values)).map fun found => { s with found := found, pending := none }

/-- an argument complete with its values -/
def State.give (s : State) (o : Opt) (values : List String) : Except Usage State :=
  s.settle.bind fun s =>
  (take s.found o.name o.kind (delimited o.name values)).map fun found =>
    { s with found := found, awaiting := false }

/-- an option that waits for its value -/
def State.await (s : State) (o : Opt) : Except Usage State :=
  s.settle.map fun s => { s with pending := some (o.name, o.kind, []), awaiting := true }

def Opt.takesValue (o : Opt) : Bool := o.kind == .value || o.kind == .list

/-- `--name` or `--name=value` -/
def readLong (level : Level) (s : State) (body : List Char) : Except Usage State :=
  let name := body.takeWhile (· != '=')
  let attached :=
    match body.dropWhile (· != '=') with
    | [] => none
    | _ :: value => some (String.ofList value)
  match level.options.find? fun o => o.long.toList == name with
  | none => .error .unknownArgument
  | some o =>
    match o.takesValue, attached with
    | true, some v => s.give o [v]
    | true, none => s.await o
    | false, some _ => .error .tooManyValues
    | false, none => s.give o []

/-- one-letter options in a row; the first that takes a value takes the rest -/
def readShorts (level : Level) (s : State) : List Char → Except Usage State
  | [] => .ok s
  | c :: rest =>
    match level.options.find? fun o => o.short == some c with
    | none => .error .unknownArgument
    | some o =>
      if o.takesValue then
        match rest with
        | [] => s.await o
        | '=' :: value => s.give o [String.ofList value]
        | value => s.give o [String.ofList value]
      else (s.give o []).bind fun s => readShorts level s rest

/-- a positional argument -/
def readPositional (level : Level) (s : State) (arg : String) : Except Usage State :=
  match level.positionals[s.position]? with
  | none =>
    if level.subcommands.isEmpty || (s.trailing && level.subcommands.contains arg) then .error .unknownArgument
    else .error .invalidSubcommand
  | some (name, true) =>
    match s.pending with
    | some (other, kind, values) =>
      if other = name then .ok { s with pending := some (name, kind, values ++ [arg]) }
      else s.settle.map fun s => { s with pending := some (name, .list, [arg]) }
    | none => .ok { s with pending := some (name, .list, [arg]) }
  | some (name, false) =>
    s.settle.map fun s => { s with pending := some (name, .value, [arg]), position := s.position + 1 }

def readArg (level : Level) (s : State) (arg : String) : Except Usage State :=
  match s.trailing, arg.toList with
  | true, _ => readPositional level s arg
  | false, ['-', '-'] => .ok { s with trailing := true, awaiting := false }
  | false, '-' :: '-' :: body => readLong level s body
  | false, '-' :: c :: rest => readShorts level s (c :: rest)
  | false, _ =>
    match s.awaiting, s.pending with
    | true, some (name, kind, values) =>
      .ok { s with pending := some (name, kind, values ++ [arg]), awaiting := false }
    | _, _ => readPositional level s arg

/-- Reads arguments up to the end or to a subcommand: the state, and the subcommand with what follows it. -/
def readLevel (level : Level) : State → List String → Except Usage (State × Option (String × List String))
  | s, [] => .ok (s, none)
  | s, arg :: rest =>
    if !s.trailing && !s.awaiting && level.subcommands.contains arg then .ok (s, some (arg, rest))
    else (readArg level s arg).bind fun s => readLevel level s rest

/-! ## Whole command lines -/

/-- help on a chain of subcommands; only the outer level has any -/
def helpOn : List String → Usage
  | [] => .help
  | [name] => if outer.subcommands.contains name then .help else .invalidSubcommand
  | _ => .invalidSubcommand

def configVariable : String := "LDAP_PREDICATE_CONFIG"

/-- a configuration file from the environment, at a level where none was given -/
def addEnvironment (env : String → Option String) (found : Found) : Except Usage Found :=
  match found.lookup .config, env configVariable with
  | none, some path => if path.isEmpty then .error .invalidValue else .ok found
  | _, _ => .ok found

def Found.one (found : Found) (name : Name) : Option String := (found.lookup name).bind List.head?

def Found.all (found : Found) (name : Name) : List String := (found.lookup name).getD []

/-- the action of a subcommand with these arguments -/
def actionOf (name : String) (found : Found) : Action :=
  let filter := (found.one .filter).getD ""
  if name = "filter" then
    .filter filter (found.one .file) (found.all .fields)
      (if found.one .format = some "table" then .table else .json)
      (if found.one .onTimeout = some "skip" then .skip else .fail)
  else if name = "check" then .check filter (found.all .fields)
  else if name = "approx" then .approx (found.all .words)
  else .config

/-- arguments of both levels together; what is given at the inner level wins -/
def merge (env : String → Option String) (top sub : Found) (action : Action) : Args where
  config := (sub.one .config).orElse fun _ => (top.one .config).orElse fun _ => env configVariable
  verbose :=
    let n := (sub.all .verbose).length
    min countLimit (if n > 0 then n else (top.all .verbose).length)
  caseInsensitiveStore := (sub.lookup .store).isSome || (top.lookup .store).isSome
  locale := (sub.one .locale).orElse fun _ => top.one .locale
  action := action

/-- an inner level read to its end, with everything it requires -/
def readInner (env : String → Option String) (name : String) (args : List String) : Except Usage Found :=
  (readLevel (inner name) .start args).bind fun (s, _) =>
  s.settle.bind fun s =>
  (addEnvironment env s.found).bind fun found =>
  if (inner name).required.all fun r => (found.lookup r).isSome then .ok found else .error .missingRequired

/-- a command line, without the program's name -/
def parse (env : String → Option String) (args : List String) : Except Usage Args :=
  (readLevel outer .start args).bind fun (s, sub) =>
  match sub with
  | some ("help", rest) => .error (helpOn rest)
  | some (name, rest) =>
    (readInner env name rest).bind fun found =>
    s.settle.bind fun s =>
    (addEnvironment env s.found).map fun top => merge env top found (actionOf name found)
  | none =>
    s.settle.bind fun s =>
    if s.found.isEmpty && (env configVariable).isNone then .error .helpOnMissing else .error .missingSubcommand

end SearchFilter.Command
