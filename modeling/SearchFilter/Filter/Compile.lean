/-
From filter text to a predicate: check the parentheses, read the tiles, build the skeleton, push negation
to the leaves, join the leaves. A `Predicate` keeps the options it was compiled with.
-/
import SearchFilter.Filter.Resolve

namespace SearchFilter

/-- the predicate a filter stands for -/
def compileExpr (o : Options) (schema : Schema) (filter : String) : Except FilterError Expr :=
  (validate filter).bind fun _ =>
  (extract schema filter).bind fun tiles =>
  (skeleton filter tiles).bind fun node =>
  resolve filter node ((node.assignNegation false tiles).map fun t => t.comparison.toExpr o)

/-- a compiled filter with the options it was compiled with -/
structure Predicate where
  filter : String
  expr : Expr
  options : Options

namespace Predicate

def compile (o : Options) (schema : Schema) (filter : String) : Except FilterError Predicate :=
  (compileExpr o schema filter).map fun e => ⟨filter, e, o⟩

def evaluate (p : Predicate) (r : Record) : Except EvalError Bool := p.expr.evaluate p.options r

def render (p : Predicate) : String := p.expr.render p.options

def debugText (p : Predicate) : String :=
  Text.fieldsText "Predicate" [("filter", Text.quoted p.filter), ("expr", p.expr.debugText)]

end Predicate
end SearchFilter
