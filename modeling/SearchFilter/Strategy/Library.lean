/-
The regular expressions of this library, as the one that wildcard patterns are matched through.
-/
import SearchFilter.Regex.Compile
import SearchFilter.Strategy.Like

namespace SearchFilter.Like

open SearchFilter.Regex

/-- the expression of a text, if it has one -/
def expression? (text : String) : Option Pattern :=
  (((Term.read text).bind fun t => t.compile .initial).map Prod.fst).toOption

def library : Engine Pattern where
  build text := (expression? text).filter fun p => p.size ≤ patternSizeLimit
  accepts p subject := p.isMatch (String.ofList subject)

end SearchFilter.Like
