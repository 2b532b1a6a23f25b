/-
Options of a compilation: the two strategies, whether the store compares text ignoring case, and the
namespaces a provider needs. Builders return a new value; a namespace is never listed twice.
-/
import SearchFilter.Strategy.Like
import SearchFilter.Strategy.Phonetic
import SearchFilter.Text.Quoted

namespace SearchFilter

/-- strategies and flags of a compilation -/
structure Options where
  like : LikeStrategy
  approximate : ApproximateStrategy
  caseInsensitiveStore : Bool
  namespaces : List String

namespace Options

/-- the namespace every options value starts with -/
def defaultNamespace : String := "ldap_predicate::strategy"

/-- `xs` after `old`, without what is already there -/
def addNew (old : List String) : List String → List String
  | [] => old
  | x :: xs => addNew (if x ∈ old then old else old ++ [x]) xs

/-- the options of a fresh process with this locale, whose matching goes through a library -/
def default {Regex : Type} (engine : Like.Engine Regex) (locale : Locale) : Options where
  like := Like.strategy engine Like.defaultBudget ⟨0⟩
  approximate := Phonetic.strategy locale
  caseInsensitiveStore := false
  namespaces := addNew [] [defaultNamespace]

def withLike (o : Options) (s : LikeStrategy) : Options := { o with like := s }

def withApproximate (o : Options) (s : ApproximateStrategy) : Options := { o with approximate := s }

/-- The store ignores case by itself: equality is emitted without lowering the field. -/
def onCaseInsensitiveStore (o : Options) : Options := { o with caseInsensitiveStore := true }

def addNamespaces (o : Options) (xs : List String) : Options :=
  { o with namespaces := addNew o.namespaces xs }

def debugText (o : Options) : String :=
  Text.fieldsText "Options" [("like", Text.quoted o.like.descriptor.function),
    ("approximate", Text.quoted o.approximate.descriptor.function),
    ("case_insensitive_store", toString o.caseInsensitiveStore), ("namespaces", Text.quotedList o.namespaces)]

end Options
end SearchFilter
