/-
Predicates over one record.

An `Expr` has no negation node: negation lives in its leaves. `evaluate` reads children from left to
right and stops at the first that decides or fails. `render` spells the predicate out for a provider,
calling the strategies through their descriptors.
-/
import SearchFilter.Filter.Ordering
import SearchFilter.Options
import SearchFilter.Record.Schema

namespace SearchFilter

/-- predicate over one record -/
inductive Expr where
  /-- the field is not null -/
  | present (field : String)
  /-- the field is null -/
  | absent (field : String)
  /-- equality, of the field in lower case if `foldCase` -/
  | equals (field value : String) (foldCase negated : Bool)
  | like (field pattern : String) (negated : Bool)
  /-- equality of codes -/
  | approximate (field value : String) (negated : Bool)
  | compare (field : String) (op : NumericOp) (value : String)
  | and (children : List Expr)
  | or (children : List Expr)
  deriving Repr

/-- the leaf of one comparison -/
def Comparison.toExpr (o : Options) (c : Comparison) : Expr :=
  if c.isPresence then
    if c.negated then .absent c.property else .present c.property
  else
    match NumericOp.ofOperator? c.operator with
    | some op => .compare c.property (if c.negated then op.invert else op) c.value
    | none =>
      if c.operator = .approximate then .approximate c.property c.value c.negated
      else if c.hasWildcard then
        .like c.property (String.ofList (c.value.toList.map fun x => if x = wildcard then '%' else x)) c.negated
      else .equals c.property c.value (!o.caseInsensitiveStore) c.negated

namespace Expr

/-! ## Evaluation -/

def fieldEquals (value : String) (foldCase : Bool) : Option String → Bool
  | none => false
  | some actual => (if foldCase then Text.lowercase actual else actual) == value

mutual

/-- truth of a predicate on a record -/
def evaluate (o : Options) (r : Record) : Expr → Except EvalError Bool
  | .present field => .ok (r field).isSome
  | .absent field => .ok (r field).isNone
  | .equals field value foldCase negated => .ok (fieldEquals value foldCase (r field) != negated)
  | .like field pattern negated =>
    match r field with
    | some actual => (o.like.isLike actual pattern).map (· != negated)
    | none => .ok (false != negated)
  | .approximate field value negated =>
    .ok ((o.approximate.encode ((r field).getD "") == o.approximate.encode value) != negated)
  | .compare field op value =>
    (toDecimal field (r field)).bind fun a => (toDecimal field (some value)).map fun b => op.holds a b
  | .and children => evaluateAll o r children
  | .or children => evaluateAny o r children

/-- conjunction, from left to right -/
def evaluateAll (o : Options) (r : Record) : List Expr → Except EvalError Bool
  | [] => .ok true
  | e :: es => (evaluate o r e).bind fun b => if b then evaluateAll o r es else .ok false

/-- disjunction, from left to right -/
def evaluateAny (o : Options) (r : Record) : List Expr → Except EvalError Bool
  | [] => .ok false
  | e :: es => (evaluate o r e).bind fun b => if b then .ok true else evaluateAny o r es

end

/-! ## Rendering -/

/-- the field of the record, which is called `m` -/
def fieldText (field : String) : String := "m." ++ field

def literalText (value : String) : String := "\"" ++ value ++ "\""

def equalitySign (negated : Bool) : String := if negated then "!=" else "=="

mutual

/-- text of a predicate for a provider -/
def render (o : Options) : Expr → String
  | .present field => fieldText field ++ " != null"
  | .absent field => fieldText field ++ " == null"
  | .equals field value foldCase negated =>
    fieldText field ++ (if foldCase then ".to_lowercase()" else "") ++ " " ++ equalitySign negated ++ " " ++
      literalText value
  | .like field pattern negated =>
    (if negated then "!" else "") ++ o.like.descriptor.render [fieldText field, literalText pattern]
  | .approximate field value negated =>
    o.approximate.descriptor.render [fieldText field] ++ " " ++ equalitySign negated ++ " " ++
      o.approximate.descriptor.render [literalText value]
  | .compare field op value =>
    "decimal(" ++ fieldText field ++ ") " ++ op.symbol ++ " decimal(" ++ literalText value ++ ")"
  | .and children => "(" ++ " && ".intercalate (renderAll o children) ++ ")"
  | .or children => "(" ++ " || ".intercalate (renderAll o children) ++ ")"

def renderAll (o : Options) : List Expr → List String
  | [] => []
  | e :: es => render o e :: renderAll o es

end

/-! ## Diagnostics -/

mutual

def debugText : Expr → String
  | .present field => Text.fieldsText "Present" [("field", Text.quoted field)]
  | .absent field => Text.fieldsText "Absent" [("field", Text.quoted field)]
  | .equals field value foldCase negated =>
    Text.fieldsText "Equals" [("field", Text.quoted field), ("value", Text.quoted value),
      ("fold_case", toString foldCase), ("negated", toString negated)]
  | .like field pattern negated =>
    Text.fieldsText "Like" [("field", Text.quoted field), ("pattern", Text.quoted pattern),
      ("negated", toString negated)]
  | .approximate field value negated =>
    Text.fieldsText "Approximate" [("field", Text.quoted field), ("value", Text.quoted value),
      ("negated", toString negated)]
  | .compare field op value =>
    Text.fieldsText "Compare" [("field", Text.quoted field), ("op", op.name), ("value", Text.quoted value)]
  | .and children => "And([" ++ ", ".intercalate (debugTexts children) ++ "])"
  | .or children => "Or([" ++ ", ".intercalate (debugTexts children) ++ "])"

def debugTexts : List Expr → List String
  | [] => []
  | e :: es => debugText e :: debugTexts es

end

end Expr
end SearchFilter
