/-
Compilation preserves meaning, failures included.

A skeleton is read directly by `Node.truth`: a comparison as it stands, a group from left to right up to the first child
that decides or fails, a NOT as the complement of a conjunction. A compiled predicate has no NOT; its negations are folded
into the leaves and the connectives.
- `together_complement`: De Morgan on results, with failures and the point where reading stops kept.
- `Comparison.evaluate_toExpr`: each kind of leaf carries its negation faithfully. An inverted ordering is the complement
  because operands are finite (`NumericOp.holds_invert`).
- `Node.evaluate_build`: the induction over the skeleton, under any parity of negations.
- `evaluate_compiled`: the predicate a filter compiles to evaluates as its skeleton reads, on every record.
-/
import Mathlib
import SearchFilter.Proofs.Grammar
import SearchFilter.Strategy.Library

namespace SearchFilter

/-! ## Results in a row -/

/-- all results are true; the first that is not decides -/
def conjunction : List (Except EvalError Bool) → Except EvalError Bool
  | [] => .ok true
  | x :: xs => x.bind fun b => if b then conjunction xs else .ok false

/-- some result is true; the first that is not false decides -/
def disjunction : List (Except EvalError Bool) → Except EvalError Bool
  | [] => .ok false
  | x :: xs => x.bind fun b => if b then .ok true else disjunction xs

/-- the complement of a result if `negated`; a failure stays as it is -/
def complement (negated : Bool) (x : Except EvalError Bool) : Except EvalError Bool := x.map (· != negated)

@[simp] theorem complement_false (x : Except EvalError Bool) : complement false x = x := by
  rcases x with f | (_ | _) <;> rfl

theorem complement_complement (a b : Bool) (x : Except EvalError Bool) :
    complement a (complement b x) = complement (a ^^ b) x := by
  rcases x with f | x
  · rfl
  · cases a <;> cases b <;> cases x <;> rfl

@[simp]
theorem conjunction_singleton (x : Except EvalError Bool) : conjunction [x] = x := by
  rcases x with f | (_ | _) <;> rfl

@[simp]
theorem disjunction_singleton (x : Except EvalError Bool) : disjunction [x] = x := by
  rcases x with f | (_ | _) <;> rfl

/-- stopping at the first true of the complements is stopping at the first false -/
theorem disjunction_complement (xs : List (Except EvalError Bool)) :
    disjunction (xs.map (complement true)) = complement true (conjunction xs) := by
  induction xs with
  | nil => rfl
  | cons x xs ih =>
    rw [List.map_cons]
    rcases x with f | (_ | _)
    · rfl
    · rfl
    · exact ih

theorem conjunction_complement (xs : List (Except EvalError Bool)) :
    conjunction (xs.map (complement true)) = complement true (disjunction xs) := by
  induction xs with
  | nil => rfl
  | cons x xs ih =>
    rw [List.map_cons]
    rcases x with f | (_ | _)
    · rfl
    · exact ih
    · rfl

/-- children of a group taken together, as a conjunction or as a disjunction -/
def together (conjunctive : Bool) (xs : List (Except EvalError Bool)) : Except EvalError Bool :=
  if conjunctive then conjunction xs else disjunction xs

/-- **De Morgan.** Complementing a group is complementing its children and changing its connective, failures and the
point where reading stops included. -/
theorem together_complement (conjunctive negated : Bool) (xs : List (Except EvalError Bool)) :
    together (conjunctive ^^ negated) (xs.map (complement negated)) = complement negated (together conjunctive xs) := by
  cases negated with
  | false =>
    have hid : complement false = id := funext complement_false
    rw [hid, List.map_id, Bool.xor_false, id]
  | true =>
    cases conjunctive with
    | false => exact conjunction_complement xs
    | true => exact disjunction_complement xs

/-! ## Reading a comparison -/

namespace Comparison

/-- literal of a wildcard comparison, as a pattern -/
def pattern (c : Comparison) : String :=
  String.ofList (c.value.toList.map fun x => if x = wildcard then '%' else x)

/-- both operands as numbers, the field's first -/
def ordered (r : Record) (c : Comparison) (holds : Number.Binary → Number.Binary → Bool) : Except EvalError Bool :=
  (toDecimal c.property (r c.property)).bind fun a => (toDecimal c.property (some c.value)).map (holds a)

/-- what a comparison says of a record, its negation left aside -/
def truth (foldCase : Bool) (o : Options) (r : Record) (c : Comparison) : Except EvalError Bool :=
  match c.operator with
  | .equal =>
    if c.isPresence then .ok (r c.property).isSome
    else if c.hasWildcard then
      match r c.property with
      | some actual => o.like.isLike actual c.pattern
      | none => .ok false
    else .ok (Expr.fieldEquals c.value foldCase (r c.property))
  | .approximate => .ok (o.approximate.encode ((r c.property).getD "") == o.approximate.encode c.value)
  | .less => c.ordered r fun a b => a.lt b
  | .lessOrEqual => c.ordered r fun a b => a.le b
  | .greater => c.ordered r fun a b => b.lt a
  | .greaterOrEqual => c.ordered r fun a b => b.le a

end Comparison

theorem toDecimal_finite {property : String} {x : Option String} {a : Number.Binary} (h : toDecimal property x = .ok a) :
    a.isFinite = true := by
  cases x with
  | none =>
    obtain rfl := Except.ok.inj h
    rfl
  | some raw =>
    simp only [toDecimal] at h
    split at h
    · split_ifs at h with hfinite
      exact Except.ok.inj h ▸ hfinite
    · simp at h

/-- on finite numbers the inverted ordering is the complement -/
theorem NumericOp.holds_invert (op : NumericOp) {a b : Number.Binary} (ha : a.isFinite = true) (hb : b.isFinite = true) :
    op.invert.holds a b = !op.holds a b := by
  cases a with
  | nan => simp [Number.Binary.isFinite] at ha
  | infinite s => simp [Number.Binary.isFinite] at ha
  | finite s m e =>
    cases b with
    | nan => simp [Number.Binary.isFinite] at hb
    | infinite s => simp [Number.Binary.isFinite] at hb
    | finite s' m' e' => cases op <;> simp [NumericOp.invert, NumericOp.holds, Number.Binary.lt]

namespace Comparison

variable {foldCase : Bool} {o p : Options} {r : Record}

theorem ordered_invert (c : Comparison) (op : NumericOp) :
    c.ordered r op.invert.holds = complement true (c.ordered r op.holds) := by
  rw [ordered, ordered]
  cases ha : toDecimal c.property (r c.property) with
  | error f => rfl
  | ok a =>
    cases hb : toDecimal c.property (some c.value) with
    | error f => rfl
    | ok b =>
      have hinvert := op.holds_invert (toDecimal_finite ha) (toDecimal_finite hb)
      exact congrArg Except.ok (hinvert.trans (Bool.bne_true _).symm)

/-- an ordering leaf, inverted under a negation -/
theorem evaluate_compare (c : Comparison) (op : NumericOp) :
    (Expr.compare c.property (if c.negated then op.invert else op) c.value).evaluate p r =
      complement c.negated (c.ordered r op.holds) := by
  rw [Expr.evaluate]
  cases c.negated with
  | false => exact (complement_false _).symm
  | true => exact c.ordered_invert op

/-- **Leaves.** The leaf of a comparison says what the comparison says, complemented if it is negated. -/
theorem evaluate_toExpr (c : Comparison) :
    (c.toExpr o).evaluate p r = complement c.negated (c.truth (!o.caseInsensitiveStore) p r) := by
  rcases c with ⟨property, operator, value, negated⟩
  cases operator with
  | less => exact evaluate_compare ⟨property, .less, value, negated⟩ .less
  | lessOrEqual => exact evaluate_compare ⟨property, .lessOrEqual, value, negated⟩ .lessOrEqual
  | greater => exact evaluate_compare ⟨property, .greater, value, negated⟩ .greater
  | greaterOrEqual => exact evaluate_compare ⟨property, .greaterOrEqual, value, negated⟩ .greaterOrEqual
  | approximate => rfl
  | equal =>
    by_cases hpresence : isPresence ⟨property, .equal, value, negated⟩
    · -- the negated presence test is an absence test
      simp only [toExpr, truth, hpresence, if_true]
      cases negated <;> cases hr : r property <;> simp [Expr.evaluate, hr, complement, Except.map]
    · by_cases hwildcard : hasWildcard ⟨property, .equal, value, negated⟩
      · simp only [toExpr, truth, hpresence, hwildcard, NumericOp.ofOperator?]
        cases hr : r property <;> simp [Expr.evaluate, hr, complement, Except.map, pattern]
      · simp only [toExpr, truth, hpresence, hwildcard, NumericOp.ofOperator?]
        simp [Expr.evaluate, complement, Except.map]

end Comparison

/-! ## Reading a skeleton -/

namespace Node

mutual

/-- what a skeleton says when leaf `i` says `leaf i` -/
def truth (leaf : ℕ → Except EvalError Bool) : Node → Except EvalError Bool
  | .leaf i => leaf i
  | .group .and ns => conjunction (truths leaf ns)
  | .group .or ns => disjunction (truths leaf ns)
  | .group .not ns => complement true (conjunction (truths leaf ns))

def truths (leaf : ℕ → Except EvalError Bool) : List Node → List (Except EvalError Bool)
  | [] => []
  | n :: ns => n.truth leaf :: truths leaf ns

end

@[simp]
theorem truths_eq (leaf : ℕ → Except EvalError Bool) (ns : List Node) : truths leaf ns = ns.map (truth leaf) := by
  induction ns with
  | nil => rfl
  | cons n ns ih => simp [truths, ih]

@[simp]
theorem truth_group (leaf : ℕ → Except EvalError Bool) (c : Connective) (ns : List Node) :
    (group c ns).truth leaf = complement (c == .not) (together (c != .or) (ns.map (truth leaf))) := by
  rw [← truths_eq]
  cases c with
  | and => exact (complement_false _).symm
  | or => exact (complement_false _).symm
  | not => rfl

end Node

/-! ## Predicates against skeletons -/

namespace Expr

variable {o : Options} {r : Record}

@[simp]
theorem evaluateAll_eq (es : List Expr) : evaluateAll o r es = conjunction (es.map (evaluate o r)) := by
  induction es with
  | nil => rw [evaluateAll]; rfl
  | cons e es ih => rw [evaluateAll, ih]; rfl

@[simp]
theorem evaluateAny_eq (es : List Expr) : evaluateAny o r es = disjunction (es.map (evaluate o r)) := by
  induction es with
  | nil => rw [evaluateAny]; rfl
  | cons e es ih => rw [evaluateAny, ih]; rfl

@[simp]
theorem evaluate_and (es : List Expr) : (and es).evaluate o r = conjunction (es.map (evaluate o r)) := by simp [evaluate]

@[simp]
theorem evaluate_or (es : List Expr) : (or es).evaluate o r = disjunction (es.map (evaluate o r)) := by simp [evaluate]

@[simp]
theorem evaluate_join (conjunctive : Bool) (es : List Expr) :
    (join conjunctive es).evaluate o r = together conjunctive (es.map (evaluate o r)) := by
  cases conjunctive with
  | false => simp [join, together]
  | true => simp [join, together]

@[simp]
theorem evaluate_combine (conjunctive : Bool) (es : List Expr) :
    (combine conjunctive es).evaluate o r = together conjunctive (es.map (evaluate o r)) := by
  rcases es with - | ⟨e, - | ⟨e', es⟩⟩
  · exact evaluate_join conjunctive []
  · -- a single child stands for itself
    cases conjunctive with
    | false => simp [combine, together]
    | true => simp [combine, together]
  · exact evaluate_join conjunctive (e :: e' :: es)

end Expr

/-- **Negation folded away.** A node built under any parity of negations evaluates as the node reads, complemented if the
parity is odd, provided its leaves do. -/
theorem Node.evaluate_build {o : Options} {r : Record} {f : Bool → ℕ → Expr} {leaf : ℕ → Except EvalError Bool} (n : Node)
    (negated : Bool) (hleaf : ∀ i ∈ n.leaves, ∀ b, (f b i).evaluate o r = complement b (leaf i)) :
    (n.build f negated).evaluate o r = complement negated (n.truth leaf) := by
  induction n generalizing negated with
  | leaf i => exact hleaf i (by simp) negated
  | group c ns ih =>
    set inside := negated ^^ (c == .not) with hinside
    have hns : (ns.map (build f inside)).map (Expr.evaluate o r) = (ns.map (truth leaf)).map (complement inside) := by
      rw [List.map_map, List.map_map]
      exact List.map_congr_left fun n hn => ih n hn inside fun i hi => hleaf i (mem_leaves_group.2 ⟨n, hn, hi⟩)
    calc ((group c ns).build f negated).evaluate o r
        = together (c.isConjunction inside) ((ns.map (build f inside)).map (Expr.evaluate o r)) := by
          simp [hinside]
      _ = together ((c != .or) ^^ inside) ((ns.map (truth leaf)).map (complement inside)) := by
          rw [hns, Connective.isConjunction]
      _ = complement inside (together (c != .or) (ns.map (truth leaf))) := together_complement _ _ _
      _ = complement negated ((group c ns).truth leaf) := by rw [truth_group, complement_complement, hinside]

/-- what the comparison of tile `i` says of a record -/
def leafTruth (foldCase : Bool) (o : Options) (r : Record) (tiles : List Tile) (i : ℕ) : Except EvalError Bool :=
  match tiles[i]? with
  | some t => t.comparison.truth foldCase o r
  | none => .ok true

theorem evaluate_leafOf {o p : Options} {r : Record} {tiles : List Tile} {i : ℕ} (hi : i < tiles.length) (b : Bool) :
    (leafOf o tiles b i).evaluate p r = complement b (leafTruth (!o.caseInsensitiveStore) p r tiles i) := by
  rw [leafOf, leafTruth, List.getElem?_eq_getElem hi]
  exact Comparison.evaluate_toExpr (Tile.setNegated b tiles[i]).comparison

/-- **Meaning preserved.** When a filter compiles, its tiles have a skeleton over exactly their numbers in order, and on
every record the predicate evaluates, truth value or failure, as that skeleton reads. The options it is evaluated with may
be others than those it was compiled with: only the folding of case is settled by compiling. -/
theorem evaluate_compiled {o : Options} {schema : Schema} {filter : String} {e : Expr}
    (h : compileExpr o schema filter = .ok e) : ∃ tiles n, extract schema filter = .ok tiles ∧
      skeleton filter tiles = .ok n ∧ n.leaves = List.range tiles.length ∧
      ∀ p r, e.evaluate p r = n.truth (leafTruth (!o.caseInsensitiveStore) p r tiles) := by
  obtain ⟨tiles, n, hextract, hskeleton⟩ := skeleton_of_compileExpr h
  obtain ⟨d, hd, -, htext, rfl, htiled⟩ := exists_derivation hextract hskeleton
  refine ⟨tiles, _, hextract, hskeleton, htiled.leaves_eq, fun p r => ?_⟩
  rw [compileExpr_of_skeleton (Sentence.validate_eq hd htext) hextract hskeleton htiled.leaves_eq] at h
  obtain rfl := Except.ok.inj h
  rw [Node.evaluate_build _ false fun i hi => evaluate_leafOf (List.mem_range.1 (htiled.leaves_eq ▸ hi)),
    complement_false]

theorem evaluate_compiled_nested :
    compileExpr (.default Like.library .standard) (.ofNames ["Sn", "Age"]) "(!(&(sn=a*)(!(age>=18))))" =
      .ok (.or [.like "Sn" "a%" true, .compare "Age" .greaterOrEqual "18"]) ∧
    ∃ tiles n, extract (.ofNames ["Sn", "Age"]) "(!(&(sn=a*)(!(age>=18))))" = .ok tiles ∧
      skeleton "(!(&(sn=a*)(!(age>=18))))" tiles = .ok n ∧ n.leaves = List.range tiles.length ∧
      ∀ p r, (Expr.or [.like "Sn" "a%" true, .compare "Age" .greaterOrEqual "18"]).evaluate p r =
        n.truth (leafTruth (!(Options.default Like.library .standard).caseInsensitiveStore) p r tiles) := by
  have h : compileExpr (.default Like.library .standard) (.ofNames ["Sn", "Age"]) "(!(&(sn=a*)(!(age>=18))))" =
      .ok (.or [.like "Sn" "a%" true, .compare "Age" .greaterOrEqual "18"]) := by cbv
  exact ⟨h, evaluate_compiled h⟩

end SearchFilter
