/-
Configuration files.

A configuration is the file form of the options: what the default strategies are to be given. Keys it does not
know are skipped, a known key with a value of another type refuses the file.
-/
import SearchFilter.File
import SearchFilter.Options
import SearchFilter.Toml.Read
import SearchFilter.Toml.Write

namespace SearchFilter

/-- settings of a configuration file -/
structure Config where
  caseInsensitiveStore : Bool
  /-- tag of the phonetic coder's locale; the locale of the environment when there is none -/
  locale : Option String
  likeTimeoutMs : Nat
  namespaces : List String
  deriving DecidableEq, Repr

namespace Config

def default : Config := ⟨false, none, 1000, []⟩

/-- the locale of the phonetic coder -/
def localeIn (c : Config) (env : String → Option String) : Locale :=
  match c.locale with
  | some tag => .ofTag tag
  | none => .ofEnvironment env

/-- the options a configuration asks for -/
def toOptions {Regex : Type} (c : Config) (engine : Like.Engine Regex) (env : String → Option String) : Options :=
  let o := (Options.default engine (.ofEnvironment env)).withLike
    (Like.strategy engine (.ofMilliseconds c.likeTimeoutMs) ⟨0⟩)
  let o := (o.withApproximate (Phonetic.strategy (c.localeIn env))).addNamespaces c.namespaces
  if c.caseInsensitiveStore then o.onCaseInsensitiveStore else o

/-! ## Reading -/

def strings? : List Toml.Value → Option (List String)
  | [] => some []
  | .string s :: rest => (strings? rest).map (s :: ·)
  | _ :: _ => none

/-- a setting under a key, in a configuration read so far -/
def setting (c : Config) (key : String) (item : Toml.Item) : Option Config :=
  if key = "case_insensitive_store" then
    match item with
    | .value (.bool b) => some { c with caseInsensitiveStore := b }
    | _ => none
  else if key = "locale" then
    match item with
    | .value (.string s) => some { c with locale := some s }
    | _ => none
  else if key = "like_timeout_ms" then
    match item with
    | .value (.scalar (.integer n)) => if 0 ≤ n then some { c with likeTimeoutMs := n.toNat } else none
    | _ => none
  else if key = "namespaces" then
    match item with
    | .value (.array items) => (strings? items).map fun xs => { c with namespaces := xs }
    | _ => none
  else some c

def parse (s : String) : Option Config :=
  (Toml.parse s.toList).bind fun t => t.entries.foldlM (fun c (key, item) => c.setting key item) default

/-! ## Writing -/

def text (c : Config) : String :=
  "case_insensitive_store = " ++ toString c.caseInsensitiveStore ++ "\n" ++
  (match c.locale with
    | some tag => "locale = " ++ Toml.stringText tag ++ "\n"
    | none => "") ++
  "like_timeout_ms = " ++ toString c.likeTimeoutMs ++ "\n" ++
  "namespaces = " ++ Toml.listText c.namespaces ++ "\n"

/-! ## Files -/

/-- why a configuration could not be loaded -/
inductive Error where
  | read (path reason : String)
  | parse (path : String)
  deriving DecidableEq, Repr

/-- the wording, as far as it does not quote the parser -/
def Error.message : Error → String
  | .read path reason => "Failed to read config file '" ++ path ++ "': " ++ reason
  | .parse path => "Failed to parse config file '" ++ path ++ "':"

/-- the configuration at a path, or the default when there is no path -/
def load (files : String → FileContent) : Option String → Except Error Config
  | none => .ok default
  | some path =>
    match (files path).read with
    | .error reason => .error (.read path reason)
    | .ok s =>
      match parse s with
      | some c => .ok c
      | none => .error (.parse path)

end Config
end SearchFilter
