/-
Compiling group by group.

Putting filters into a group changes the markers of the first tile, the closing run of the last, every number and every
negation, and yet the predicate is put together from the predicates of the parts.
- `Expr.dual`, `Expr.dual_dual`: the predicate with every connective and every leaf turned round, an involution;
  `Expr.evaluate_dual` says that it evaluates to the complement.
- `Sentence.expr_not`: a derivation under one more negation stands for the dual.
- `Text.lower_enclose`: a group is lowered operand by operand, since parentheses keep final sigmas apart.
- `CompilesWithin.enclose`: one group around filters that compile.
- `compileExpr_enclosed`: AND, OR and NOT of filters compile to AND, OR and OR of duals; two NOTs cancel.
-/
import Mathlib
import SearchFilter.Proofs.Meaning

namespace SearchFilter

/-! ## Duals -/

@[simp]
theorem NumericOp.invert_invert (op : NumericOp) : op.invert.invert = op := by
  cases op <;> rfl

namespace Expr

/-- induction on a predicate, with the children at once -/
@[elab_as_elim, induction_eliminator]
theorem induct {motive : Expr → Prop} (present : ∀ field, motive (.present field))
    (absent : ∀ field, motive (.absent field))
    (equals : ∀ field value foldCase negated, motive (.equals field value foldCase negated))
    (like : ∀ field pattern negated, motive (.like field pattern negated))
    (approximate : ∀ field value negated, motive (.approximate field value negated))
    (compare : ∀ field op value, motive (.compare field op value))
    (and : ∀ es, (∀ e ∈ es, motive e) → motive (.and es)) (or : ∀ es, (∀ e ∈ es, motive e) → motive (.or es))
    (e : Expr) : motive e :=
  @Expr.rec motive (fun es => ∀ e ∈ es, motive e) present absent equals like approximate compare and or
    (fun _ h => absurd h List.not_mem_nil)
    (fun _ _ he hes _ h => (List.mem_cons.1 h).elim (fun eq => eq ▸ he) (hes _)) e

mutual

/-- the predicate with every connective and every leaf turned round -/
def dual : Expr → Expr
  | .present field => .absent field
  | .absent field => .present field
  | .equals field value foldCase negated => .equals field value foldCase (!negated)
  | .like field pattern negated => .like field pattern (!negated)
  | .approximate field value negated => .approximate field value (!negated)
  | .compare field op value => .compare field op.invert value
  | .and es => .or (dualAll es)
  | .or es => .and (dualAll es)

def dualAll : List Expr → List Expr
  | [] => []
  | e :: es => e.dual :: dualAll es

end

@[simp]
theorem dualAll_eq (es : List Expr) : dualAll es = es.map dual := by
  induction es with
  | nil => rfl
  | cons e es ih => simp [dualAll, ih]

@[simp]
theorem dual_and (es : List Expr) : (and es).dual = or (es.map dual) := by simp [dual]

@[simp]
theorem dual_or (es : List Expr) : (or es).dual = and (es.map dual) := by simp [dual]

@[simp]
theorem dual_join (conjunctive : Bool) (es : List Expr) :
    (join conjunctive es).dual = join (!conjunctive) (es.map dual) := by
  cases conjunctive with
  | false => exact dual_or es
  | true => exact dual_and es

@[simp]
theorem dual_combine (conjunctive : Bool) (es : List Expr) :
    (combine conjunctive es).dual = combine (!conjunctive) (es.map dual) := by
  rcases es with - | ⟨e, - | ⟨e', es⟩⟩
  · exact dual_join conjunctive []
  · rfl
  · exact dual_join conjunctive (e :: e' :: es)

theorem map_dual_dual {es : List Expr} (h : ∀ e ∈ es, e.dual.dual = e) : (es.map dual).map dual = es := by
  have hid : es.map (dual ∘ dual) = es.map id := List.map_congr_left h
  simp [hid]

@[simp]
theorem dual_dual (e : Expr) : e.dual.dual = e := by
  induction e with
  | present field => rfl
  | absent field => rfl
  | equals field value foldCase negated => simp [dual]
  | like field pattern negated => simp [dual]
  | approximate field value negated => simp [dual]
  | compare field op value => simp [dual]
  | and es ih => simpa using map_dual_dual ih
  | or es ih => simpa using map_dual_dual ih

/-- **The complement.** The dual evaluates to the complement, and fails where and as the predicate fails. -/
theorem evaluate_dual (o : Options) (r : Record) (e : Expr) :
    e.dual.evaluate o r = complement true (e.evaluate o r) := by
  induction e with
  | present field => cases hr : r field <;> simp [dual, evaluate, hr, complement, Except.map]
  | absent field => cases hr : r field <;> simp [dual, evaluate, hr, complement, Except.map]
  | equals field value foldCase negated => simp [dual, evaluate, complement, Except.map]
  | like field pattern negated =>
    cases hr : r field with
    | none => simp [dual, evaluate, hr, complement, Except.map]
    | some actual =>
      simp only [dual, evaluate, hr]
      cases o.like.isLike actual pattern <;> simp [complement, Except.map]
  | approximate field value negated => simp [dual, evaluate, complement, Except.map]
  | compare field op value => exact Comparison.ordered_invert ⟨field, .equal, value, false⟩ op
  | and es ih =>
    simp only [dual_and, evaluate_or, evaluate_and, ← disjunction_complement, List.map_map]
    exact congrArg disjunction (List.map_congr_left ih)
  | or es ih =>
    simp only [dual_or, evaluate_or, evaluate_and, ← conjunction_complement, List.map_map]
    exact congrArg conjunction (List.map_congr_left ih)

end Expr

/-! ## Derivations under a negation -/

@[simp]
theorem Connective.isConjunction_not (c : Connective) (b : Bool) : c.isConjunction (!b) = !c.isConjunction b := by
  cases c <;> cases b <;> rfl

theorem Comparison.toExpr_not (o : Options) (c : Comparison) :
    ({ c with negated := !c.negated } : Comparison).toExpr o = (c.toExpr o).dual := by
  rcases c with ⟨property, operator, value, negated⟩
  by_cases hpresence : isPresence ⟨property, operator, value, negated⟩
  · have hpresence' : isPresence ⟨property, operator, value, !negated⟩ := hpresence
    simp only [toExpr, hpresence, hpresence', if_true]
    cases negated <;> rfl
  · have hpresence' : ¬ isPresence ⟨property, operator, value, !negated⟩ := hpresence
    rw [toExpr, toExpr, if_neg hpresence, if_neg hpresence']
    cases operator with
    | equal =>
      by_cases hwildcard : hasWildcard ⟨property, .equal, value, negated⟩
      · have hwildcard' : hasWildcard ⟨property, .equal, value, !negated⟩ := hwildcard
        simp [NumericOp.ofOperator?, hwildcard, hwildcard', Expr.dual]
      · have hwildcard' : ¬ hasWildcard ⟨property, .equal, value, !negated⟩ := hwildcard
        simp [NumericOp.ofOperator?, hwildcard, hwildcard', Expr.dual]
    | approximate => rfl
    | less => cases negated <;> rfl
    | lessOrEqual => cases negated <;> rfl
    | greater => cases negated <;> rfl
    | greaterOrEqual => cases negated <;> rfl

/-- one more negation around a derivation -/
theorem Sentence.expr_not (o : Options) (schema : Schema) (d : Sentence) (negated : Bool) :
    d.expr o schema (!negated) = (d.expr o schema negated).dual := by
  induction d generalizing negated with
  | comparison a => exact Comparison.toExpr_not o (a.comparison schema negated)
  | group c ds ih =>
    have hds : ∀ b, ds.map (expr o schema (!b)) = (ds.map (expr o schema b)).map Expr.dual := by
      intro b
      rw [List.map_map]
      exact List.map_congr_left fun d hd => ih d hd b
    simp only [expr_group, Bool.not_xor, hds, Connective.isConjunction_not, Expr.dual_combine]

/-! ## Lowering a group -/

/-- the text of a group around filters -/
def Connective.enclose (c : Connective) (fs : List String) : String :=
  "(" ++ String.singleton c.symbol ++ String.join fs ++ ")"

theorem Connective.toList_enclose (c : Connective) (fs : List String) :
    (c.enclose fs).toList = ['(', c.symbol] ++ ((fs.map String.toList).flatten ++ [')']) := by
  simp [enclose, List.flatMap_def]

theorem Text.lower_opening (c : Connective) : lower ['(', c.symbol] = ['(', c.symbol] := by
  cases c <;> cbv

/-- a group is lowered operand by operand -/
theorem Text.lower_enclose (c : Connective) {fs : List String} (h : ∀ f ∈ fs, f.toList.head? = some '(') :
    lower (c.enclose fs).toList = '(' :: c.symbol :: ((fs.flatMap fun f => lower f.toList) ++ [')']) := by
  have hts : ∀ t ∈ fs.map String.toList, t.head? = some '(' := by
    intro t ht
    obtain ⟨f, hf, rfl⟩ := List.mem_map.1 ht
    exact h f hf
  calc lower (c.enclose fs).toList
      = lower (['(', c.symbol] ++ ((fs.map String.toList).flatten ++ [')'])) := by rw [Connective.toList_enclose]
    _ = lower ['(', c.symbol] ++ lower ((fs.map String.toList).flatten ++ [')']) := lower_append_flatten _ hts
    _ = ['(', c.symbol] ++ (((fs.map String.toList).map lower).flatten ++ [')']) := by
        rw [lower_opening, lower_flatten_append hts]
    _ = '(' :: c.symbol :: ((fs.flatMap fun f => lower f.toList) ++ [')']) := by
        rw [List.map_map, List.flatMap_def]
        rfl

/-! ## Nesting -/

namespace Node

mutual

/-- the most groups around one leaf -/
def nesting : Node → ℕ
  | .leaf _ => 0
  | .group _ ns => nestingAll ns + 1

def nestingAll : List Node → ℕ
  | [] => 0
  | n :: ns => max n.nesting (nestingAll ns)

end

end Node

theorem Sentence.nesting_number (d : Sentence) (k : ℕ) : (d.number k).nesting = d.depth := by
  induction d generalizing k with
  | comparison a => rfl
  | group c ds ih =>
    have hds : ∀ k, Node.nestingAll (numberAll k ds) = depthAll ds := by
      induction ds with
      | nil => exact fun _ => rfl
      | cons d ds ihds =>
        intro k
        rw [numberAll, Node.nestingAll, depthAll, ih d List.mem_cons_self,
          ihds fun e he => ih e (List.mem_cons_of_mem _ he)]
    rw [number, Node.nesting, depth, hds]

/-- a filter compiles to `e`, and its skeleton has at most `k` groups around one leaf -/
structure CompilesWithin (o : Options) (schema : Schema) (k : ℕ) (filter : String) (e : Expr) : Prop where
  compiled : compileExpr o schema filter = .ok e
  nested : ∃ n, (extract schema filter).bind (skeleton filter) = .ok n ∧ n.nesting ≤ k

section

variable {o : Options} {schema : Schema} {k : ℕ}

/-- `CompilesWithin`, said of the derivation -/
theorem compilesWithin_iff {filter : String} {e : Expr} : CompilesWithin o schema k filter e ↔
    ∃ d : Sentence, d.Grammatical schema ∧ d.depth ≤ maxDepth ∧ d.depth ≤ k ∧ d.text = Text.lower filter.toList ∧
      d.expr o schema false = e := by
  have hskeleton : ∀ d : Sentence, d.Grammatical schema → d.depth ≤ maxDepth → d.text = Text.lower filter.toList →
      (extract schema filter).bind (skeleton filter) = .ok (d.number 0) := by
    intro d hd hdepth htext
    obtain ⟨tiles, hextract, hskeleton, -⟩ := Sentence.skeleton_eq hd hdepth htext
    rw [hextract]
    exact hskeleton
  constructor
  · rintro ⟨hcompiled, n, hn, hk⟩
    obtain ⟨d, hd, hdepth, htext, he⟩ := compileExpr_eq_ok.1 hcompiled
    obtain rfl := Except.ok.inj ((hskeleton d hd hdepth htext).symm.trans hn)
    exact ⟨d, hd, hdepth, (d.nesting_number 0).ge.trans hk, htext, he⟩
  · rintro ⟨d, hd, hdepth, hk, htext, he⟩
    exact ⟨compileExpr_eq_ok.2 ⟨d, hd, hdepth, htext, he⟩, _, hskeleton d hd hdepth htext,
      (d.nesting_number 0).le.trans hk⟩

/-- filters that compile have derivations, taken together -/
theorem exists_derivations {fs : List String} {es : List Expr} (h : List.Forall₂ (CompilesWithin o schema k) fs es) :
    ∃ ds : List Sentence, ds.map (Sentence.expr o schema false) = es ∧ (∀ d ∈ ds, d.Grammatical schema) ∧
      (∀ d ∈ ds, d.depth ≤ k) ∧ ds.map Sentence.text = fs.map fun f => Text.lower f.toList := by
  induction h with
  | nil => exact ⟨[], rfl, by simp, by simp, rfl⟩
  | cons hf _ ih =>
    obtain ⟨d, hd, -, hdepth, htext, rfl⟩ := compilesWithin_iff.1 hf
    obtain ⟨ds, rfl, hds, hdepths, htexts⟩ := ih
    refine ⟨d :: ds, rfl, List.forall_mem_cons.2 ⟨hd, hds⟩, List.forall_mem_cons.2 ⟨hdepth, hdepths⟩, ?_⟩
    simp [htext, htexts]

/-- **One group.** Filters that compile, in a group that admits so many and with room for one more group, compile
together; the predicate is that of the group of their derivations. -/
theorem CompilesWithin.enclose {c : Connective} {fs : List String} {es : List Expr} (hk : k < maxDepth)
    (hadmits : c.admits fs.length = true) (h : List.Forall₂ (CompilesWithin o schema k) fs es) :
    CompilesWithin o schema (k + 1) (c.enclose fs)
      (Expr.combine (c == .and) (if c = .not then es.map Expr.dual else es)) := by
  obtain ⟨ds, rfl, hds, hdepths, htexts⟩ := exists_derivations h
  have hlength : ds.length = fs.length := by simpa using congrArg List.length htexts
  have hdepth : (Sentence.group c ds).depth ≤ k + 1 := Sentence.depth_group_le.2 hdepths
  have hheads : ∀ f ∈ fs, f.toList.head? = some '(' := by
    intro f hf
    obtain ⟨d, -, htext⟩ : ∃ d ∈ ds, d.text = Text.lower f.toList :=
      List.mem_map.1 (htexts ▸ List.mem_map.2 ⟨f, hf, rfl⟩)
    rw [← Text.head_lower Text.isFixed_opening, ← htext, d.head_text]
  refine compilesWithin_iff.2 ⟨.group c ds, ?_, hdepth.trans hk, hdepth, ?_, ?_⟩
  · exact Sentence.grammatical_group.2 ⟨hlength.symm ▸ hadmits, hds⟩
  · simp only [Sentence.text_group, Text.lower_enclose c hheads, List.flatMap_def, htexts]
  · rw [Sentence.expr_group]
    cases c with
    | and => rfl
    | or => rfl
    | not =>
      have hduals : ds.map (Sentence.expr o schema true) = (ds.map (Sentence.expr o schema false)).map Expr.dual := by
        rw [List.map_map]
        exact List.map_congr_left fun d _ => d.expr_not o schema false
      exact congrArg _ hduals

end

theorem Expr.combine_eq_join (conjunctive : Bool) {es : List Expr} (h : 2 ≤ es.length) :
    combine conjunctive es = join conjunctive es := by
  rcases es with - | ⟨e, - | ⟨e', es⟩⟩
  · simp at h
  · simp at h
  · rfl

/-- **Groups.** For filters that compile with room for one more group around them:
- two or more in an AND compile to the AND of their predicates, in an OR to the OR, in a NOT to the OR of the duals;
- one in a NOT compiles to its dual;
- the dual of a dual is the predicate itself, and with room for two more groups a filter in two NOTs compiles as by
  itself. -/
theorem compileExpr_enclosed (o : Options) (schema : Schema) :
    (∀ fs es, 2 ≤ fs.length → List.Forall₂ (CompilesWithin o schema (maxDepth - 1)) fs es →
      compileExpr o schema ("(&" ++ String.join fs ++ ")") = .ok (.and es) ∧
      compileExpr o schema ("(|" ++ String.join fs ++ ")") = .ok (.or es) ∧
      compileExpr o schema ("(!" ++ String.join fs ++ ")") = .ok (.or (es.map Expr.dual))) ∧
    (∀ f e, CompilesWithin o schema (maxDepth - 1) f e → compileExpr o schema ("(!" ++ f ++ ")") = .ok e.dual) ∧
    (∀ e : Expr, e.dual.dual = e) ∧
    ∀ f e, CompilesWithin o schema (maxDepth - 2) f e → compileExpr o schema ("(!(!" ++ f ++ "))") = .ok e := by
  have hnot : ∀ k f e, k < maxDepth → CompilesWithin o schema k f e →
      CompilesWithin o schema (k + 1) ("(!" ++ f ++ ")") e.dual := by
    intro k f e hk h
    have hgroup := CompilesWithin.enclose (c := .not) hk rfl (.cons h .nil)
    rwa [Connective.enclose, String.join_cons, String.join_nil, String.append_empty] at hgroup
  refine ⟨fun fs es hlength h => ?_, fun f e h => (hnot _ f e (by decide) h).compiled, Expr.dual_dual, ?_⟩
  · have hes : 2 ≤ es.length := h.length_eq ▸ hlength
    have hadmits : ∀ c : Connective, c.admits fs.length = true := by
      intro c
      cases c <;> simp [Connective.admits] <;> omega
    have hand := (CompilesWithin.enclose (c := .and) (by decide) (hadmits .and) h).compiled
    have hor := (CompilesWithin.enclose (c := .or) (by decide) (hadmits .or) h).compiled
    have hnots := (CompilesWithin.enclose (c := .not) (by decide) (hadmits .not) h).compiled
    rw [Expr.combine_eq_join _ (by simpa using hes)] at hand hor hnots
    exact ⟨hand, hor, hnots⟩
  · intro f e h
    have htwice := (hnot _ _ _ (by decide) (hnot _ f e (by decide) h)).compiled
    have htext : "(!(!" ++ f ++ "))" = "(!" ++ ("(!" ++ f ++ ")") ++ ")" := by
      simp [← String.toList_inj]
    rw [htext, htwice, Expr.dual_dual]

theorem compileExpr_enclosed_pair :
    compileExpr (.default Like.library .standard) (.ofNames ["Sn", "Age"]) "(!(sn=a*)(!(age>=18)))" =
      .ok (.or [.like "Sn" "a%" true, .compare "Age" .greaterOrEqual "18"]) := by
  refine ((compileExpr_enclosed _ _).1 ["(sn=a*)", "(!(age>=18))"] [.like "Sn" "a%" false, .compare "Age" .less "18"]
    (by decide) (.cons ⟨?_, .leaf 0, ?_, by decide⟩ (.cons ⟨?_, .group .not [.leaf 0], ?_, by decide⟩ .nil))).2.2
  · cbv
  · cbv
  · cbv
  · cbv

end SearchFilter
