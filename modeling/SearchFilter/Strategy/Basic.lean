/-
The two strategies a predicate calls: wildcard matching of a text against a pattern, and the coding
under which two texts count as approximately equal.
-/
import SearchFilter.Filter.Error
import SearchFilter.Strategy.Descriptor

namespace SearchFilter

/-- matching of a subject against a pattern in which `%` stands for any run and `_` for one character -/
structure LikeStrategy where
  descriptor : Descriptor
  isLike : String → String → Except EvalError Bool

/-- coding of a text; texts with one code are approximately equal -/
structure ApproximateStrategy where
  descriptor : Descriptor
  encode : String → String

end SearchFilter
