/-
The locale of the phonetic coder, read from a tag or from the environment.
-/
import SearchFilter.Text.Case

namespace SearchFilter

/-- locales the coder tells apart -/
inductive Locale where
  | standard
  | french
  deriving DecidableEq, Repr

namespace Locale

/-- Reads a tag such as `fr-FR`, `fr_FR.UTF-8` or `en_US`. What follows a `.` or `@` does not count. -/
def ofTag (tag : String) : Locale :=
  let base := tag.toList.takeWhile fun c => !(c == '.' || c == '@')
  let dashed := base.map fun c => if c = '_' then '-' else c
  if Text.lower dashed = "fr-fr".toList then .french else .standard

/-- environment variables that carry a locale, the strongest first -/
def variableNames : List String := ["LC_ALL", "LC_MESSAGES", "LANG"]

/-- the locale of an environment: the first of the variables that is set and not empty -/
def ofEnvironment (env : String → Option String) : Locale :=
  match variableNames.findSome? fun name => (env name).filter fun v => !v.isEmpty with
  | some tag => ofTag tag
  | none => .standard

end Locale
end SearchFilter
