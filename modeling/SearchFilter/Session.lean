/-
Process-wide options over time.

A session holds the current options, snapshots of them, compilers bound to a snapshot, and predicates. Each step
either replaces the current options as a whole, by builder calls or from a configuration, or reads them; a predicate
keeps the options it was compiled with, so no later step changes what it answers.
-/
import SearchFilter.Config
import SearchFilter.Filter.Compile

namespace SearchFilter

/-- one call of the options builder -/
inductive Change where
  | like (s : LikeStrategy)
  | approximate (s : ApproximateStrategy)
  | caseInsensitiveStore
  | namespaces (xs : List String)

def Options.change (o : Options) : Change → Options
  | .like s => o.withLike s
  | .approximate s => o.withApproximate s
  | .caseInsensitiveStore => o.onCaseInsensitiveStore
  | .namespaces xs => o.addNamespaces xs

/-- builder calls one after the other -/
def Options.changes (o : Options) (cs : List Change) : Options := cs.foldl Options.change o

/-- The state of a process. The library and the locale stay as they are. -/
structure Session (Regex : Type) where
  engine : Like.Engine Regex
  locale : Locale
  current : Options
  snapshots : List (String × Options)
  compilers : List (String × Options)
  predicates : List (String × Predicate)

namespace Session

variable {Regex : Type}

def start (engine : Like.Engine Regex) (locale : Locale) : Session Regex :=
  ⟨engine, locale, .default engine locale, [], [], []⟩

/-- what may be asked of a session -/
inductive Step where
  | current
  | debug
  | configure (cs : List Change)
  | replace (cs : List Change)
  /-- replace the options by those a configuration asks for -/
  | load (c : Config) (env : String → Option String)
  | reset
  | snapshot (id : String)
  | inspect (id : String)
  | restore (id : String)
  | compiler (id : String)
  | compile (id filter : String) (schema : Schema) (compiler : Option String)
  | eval (id : String) (r : Record)
  | render (id : String)
  | encode (word : String)
  | like (subject pattern : String)

inductive Reply where
  | options (o : Options)
  | text (s : String)
  | done
  | compiled (p : Predicate)
  | refused (e : FilterError)
  | outcome (r : Except EvalError Bool)
  | rendered (p : Predicate) (now : String)
  | unknown

/-- replace the current options -/
def install (s : Session Regex) (o : Options) : Session Regex × Reply := ({ s with current := o }, .options o)

/-- a name bound, hiding an earlier one -/
def bind {α : Type} (table : List (String × α)) (id : String) (a : α) : List (String × α) := (id, a) :: table

/-- the options a compile step uses: those of a compiler, or the current ones -/
def optionsFor (s : Session Regex) : Option String → Option Options
  | none => some s.current
  | some id => s.compilers.lookup id

def step (s : Session Regex) : Step → Session Regex × Reply
  | .current => (s, .options s.current)
  | .debug => (s, .text s.current.debugText)
  | .configure cs => s.install (s.current.changes cs)
  | .replace cs => s.install ((Options.default s.engine s.locale).changes cs)
  | .load c env => s.install (c.toOptions s.engine env)
  | .reset => s.install (.default s.engine s.locale)
  | .snapshot id => ({ s with snapshots := bind s.snapshots id s.current }, .done)
  | .inspect id => (s, ((s.snapshots.lookup id).map .options).getD .unknown)
  | .restore id =>
    match s.snapshots.lookup id with
    | some o => s.install o
    | none => (s, .unknown)
  | .compiler id => ({ s with compilers := bind s.compilers id s.current }, .options s.current)
  | .compile id filter schema compiler =>
    match s.optionsFor compiler with
    | none => (s, .unknown)
    | some o =>
      match Predicate.compile o schema filter with
      | .ok p => ({ s with predicates := bind s.predicates id p }, .compiled p)
      | .error e => (s, .refused e)
  | .eval id r => (s, ((s.predicates.lookup id).map fun p => .outcome (p.evaluate r)).getD .unknown)
  | .render id =>
    (s, ((s.predicates.lookup id).map fun p => .rendered p (p.expr.render s.current)).getD .unknown)
  | .encode word => (s, .text (s.current.approximate.encode word))
  | .like subject pattern => (s, .outcome (s.current.like.isLike subject pattern))

/-- steps one after the other: the state after the last, and the replies in order -/
def run (s : Session Regex) : List Step → Session Regex × List Reply
  | [] => (s, [])
  | x :: xs =>
    let (s, r) := s.step x
    let (s, rs) := s.run xs
    (s, r :: rs)

end Session
end SearchFilter
