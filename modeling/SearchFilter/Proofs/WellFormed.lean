/-
The shape of compiled predicates.

Evaluating and rendering a predicate rely on its shape: groups join two or more parts and are not nested deeper than the
limit, literals and patterns hold the characters of the filter language and no others, and nothing was lost or written
twice on the way from the text.
- `Expr.WellFormed`: the shape, for a condition on field names and a setting of case folding.
- `Comparison.wellFormed_toExpr`, `Sentence.wellFormed_expr`: leaves have it, and groups pass it on.
- `Node.leaves_build`, `assigned_eq`: the leaves of the predicate are the fragments of the tiles, in their order.
- `wellFormed_of_compileExpr`: what is compiled is well formed, under any condition the schema's names meet.
- `compileExpr_shape`: these together for one compiled filter.
-/
import Mathlib
import SearchFilter.Proofs.Grammar
import SearchFilter.Proofs.Spelling
import SearchFilter.Strategy.Library

namespace SearchFilter

open SearchFilter.Text (isBlank isDigit isLowerAscii)

/-! ## Shape -/

/-- a text a field is compared with -/
structure IsLiteral (value : String) : Prop where
  nonempty : value ≠ ""
  chars : ∀ c ∈ value.toList, c = '*' ∨ isLowerAscii c = true ∨ isDigit c = true ∨ isBlank c = true

/-- a pattern of a wildcard match -/
structure IsPattern (pattern : String) : Prop where
  nonempty : pattern ≠ ""
  chars : ∀ c ∈ pattern.toList, c = '%' ∨ isLowerAscii c = true ∨ isDigit c = true ∨ isBlank c = true
  wild : '%' ∈ pattern.toList
  plain : '*' ∉ pattern.toList ∧ '_' ∉ pattern.toList

namespace Expr

/-- fields are `named`, equality folds case as `foldCase` says, literals and patterns are such, and groups join two or
more parts -/
inductive WellFormed (named : String → Prop) (foldCase : Bool) : Expr → Prop
  | present {field : String} (name : named field) : WellFormed named foldCase (.present field)
  | absent {field : String} (name : named field) : WellFormed named foldCase (.absent field)
  | equals {field value : String} {negated : Bool} (name : named field) (literal : IsLiteral value)
      (plain : '*' ∉ value.toList) : WellFormed named foldCase (.equals field value foldCase negated)
  | like {field pattern : String} {negated : Bool} (name : named field) (pieces : IsPattern pattern) :
      WellFormed named foldCase (.like field pattern negated)
  | approximate {field value : String} {negated : Bool} (name : named field) (literal : IsLiteral value) :
      WellFormed named foldCase (.approximate field value negated)
  | compare {field value : String} {op : NumericOp} (name : named field) (literal : IsLiteral value) :
      WellFormed named foldCase (.compare field op value)
  | and {es : List Expr} (two : 2 ≤ es.length) (parts : ∀ e ∈ es, WellFormed named foldCase e) :
      WellFormed named foldCase (.and es)
  | or {es : List Expr} (two : 2 ≤ es.length) (parts : ∀ e ∈ es, WellFormed named foldCase e) :
      WellFormed named foldCase (.or es)

mutual

def nesting : Expr → ℕ
  | .and es => nestingAll es + 1
  | .or es => nestingAll es + 1
  | _ => 0

def nestingAll : List Expr → ℕ
  | [] => 0
  | e :: es => max e.nesting (nestingAll es)

end

mutual

/-- the leaves from left to right -/
def leaves : Expr → List Expr
  | .and es => leavesAll es
  | .or es => leavesAll es
  | e => [e]

def leavesAll : List Expr → List Expr
  | [] => []
  | e :: es => e.leaves ++ leavesAll es

end

theorem nestingAll_le {es : List Expr} {k : ℕ} : nestingAll es ≤ k ↔ ∀ e ∈ es, e.nesting ≤ k := by
  induction es with
  | nil => simp [nestingAll]
  | cons e es ih => simp [nestingAll, ih]

@[simp]
theorem leavesAll_eq (es : List Expr) : leavesAll es = es.flatMap leaves := by
  induction es with
  | nil => rfl
  | cons e es ih => simp [leavesAll, ih]

/-- a group, or a single part in its place, lies one level above its parts -/
theorem nesting_combine_le {es : List Expr} {k : ℕ} (conjunctive : Bool) (h : ∀ e ∈ es, e.nesting ≤ k) :
    (combine conjunctive es).nesting ≤ k + 1 := by
  have hjoin : (join conjunctive es).nesting ≤ k + 1 := by
    have hall : nestingAll es + 1 ≤ k + 1 := Nat.add_le_add_right (nestingAll_le.2 h) 1
    cases conjunctive with
    | false => exact hall
    | true => exact hall
  rcases es with - | ⟨e, - | ⟨e', es⟩⟩
  · exact hjoin
  · exact Nat.le_succ_of_le (h e List.mem_cons_self)
  · exact hjoin

@[simp]
theorem leaves_join (conjunctive : Bool) (es : List Expr) : (join conjunctive es).leaves = es.flatMap leaves := by
  cases conjunctive with
  | false => simp [join, leaves]
  | true => simp [join, leaves]

@[simp]
theorem leaves_combine (conjunctive : Bool) (es : List Expr) : (combine conjunctive es).leaves = es.flatMap leaves := by
  rcases es with - | ⟨e, - | ⟨e', es⟩⟩
  · exact leaves_join conjunctive []
  · simp [combine]
  · exact leaves_join conjunctive (e :: e' :: es)

/-- joining keeps the shape: a single part stands for itself, and two or more make a group -/
theorem WellFormed.combine {named : String → Prop} {foldCase : Bool} {es : List Expr} (conjunctive : Bool)
    (hne : es ≠ []) (h : ∀ e ∈ es, e.WellFormed named foldCase) :
    (Expr.combine conjunctive es).WellFormed named foldCase := by
  rcases es with - | ⟨e, - | ⟨e', es⟩⟩
  · exact absurd rfl hne
  · exact h e List.mem_cons_self
  · have two : 2 ≤ (e :: e' :: es).length := by simp
    cases conjunctive with
    | false => exact .or two h
    | true => exact .and two h

end Expr

/-! ## Leaves -/

namespace Comparison

/-- the pattern of a literal with a wildcard -/
theorem isPattern {value : String} (h : IsLiteral value) (hwild : wildcard ∈ value.toList) :
    IsPattern (String.ofList (value.toList.map fun x => if x = wildcard then '%' else x)) := by
  have hchars : ∀ c ∈ value.toList.map (fun x => if x = wildcard then '%' else x),
      c = '%' ∨ isLowerAscii c = true ∨ isDigit c = true ∨ isBlank c = true := by
    intro c hc
    obtain ⟨x, hx, rfl⟩ := List.mem_map.1 hc
    split_ifs with hstar
    · exact Or.inl rfl
    · exact Or.inr ((h.chars x hx).resolve_left hstar)
  have hwild' : '%' ∈ value.toList.map (fun x => if x = wildcard then '%' else x) :=
    List.mem_map.2 ⟨wildcard, hwild, if_pos rfl⟩
  rw [← String.toList_ofList (l := value.toList.map fun x => if x = wildcard then '%' else x)] at hchars hwild'
  refine ⟨fun hempty => ?_, hchars, hwild', fun hstar => ?_, fun hone => ?_⟩
  · rw [hempty] at hwild'
    cases hwild'
  · exact absurd (hchars '*' hstar) (by decide)
  · exact absurd (hchars '_' hone) (by decide)

/-- the six shapes of the fragment of a comparison -/
theorem toExpr_cases (o : Options) (c : Comparison) :
    c.toExpr o = .absent c.property ∨ c.toExpr o = .present c.property ∨
    (∃ op, c.toExpr o = .compare c.property op c.value) ∨
    c.toExpr o = .approximate c.property c.value c.negated ∨
    (wildcard ∈ c.value.toList ∧ c.toExpr o =
      .like c.property (String.ofList (c.value.toList.map fun x => if x = wildcard then '%' else x)) c.negated) ∨
    wildcard ∉ c.value.toList ∧ c.toExpr o = .equals c.property c.value (!o.caseInsensitiveStore) c.negated := by
  by_cases hpresence : c.isPresence = true
  · rw [toExpr, if_pos hpresence]
    cases c.negated with
    | true => exact Or.inl rfl
    | false => exact Or.inr (Or.inl rfl)
  · rw [toExpr, if_neg hpresence]
    right; right
    cases hop : NumericOp.ofOperator? c.operator with
    | some op => exact Or.inl ⟨_, rfl⟩
    | none =>
      right
      by_cases happroximate : c.operator = .approximate
      · exact Or.inl (if_pos happroximate)
      · right
        by_cases hwild : c.hasWildcard = true
        · exact Or.inl ⟨by simpa [hasWildcard] using hwild, (if_neg happroximate).trans (if_pos hwild)⟩
        · exact Or.inr ⟨by simpa [hasWildcard] using hwild, (if_neg happroximate).trans (if_neg hwild)⟩

theorem wellFormed_toExpr (o : Options) {named : String → Prop} {c : Comparison} (hname : named c.property)
    (hvalue : IsLiteral c.value) : (c.toExpr o).WellFormed named (!o.caseInsensitiveStore) := by
  rcases c.toExpr_cases o with h | h | ⟨op, h⟩ | h | ⟨hwild, h⟩ | ⟨hwild, h⟩ <;> rw [h]
  · exact .absent hname
  · exact .present hname
  · exact .compare hname hvalue
  · exact .approximate hname hvalue
  · exact .like hname (isPattern hvalue hwild)
  · exact .equals hname hvalue hwild

/-- the fragment of a comparison is a leaf -/
theorem leaves_toExpr (o : Options) (c : Comparison) : (c.toExpr o).leaves = [c.toExpr o] := by
  rcases c.toExpr_cases o with h | h | ⟨op, h⟩ | h | ⟨-, h⟩ | ⟨-, h⟩ <;> rw [h] <;> rfl

end Comparison

theorem Atom.Legal.isLiteral {a : Atom} (h : a.Legal) : IsLiteral (String.ofList a.literal) where
  nonempty := by simpa using h.valued
  chars := by simpa using h.literal

/-! ## Derivations -/

namespace Sentence

/-- **Shape of a derivation's predicate.** Any condition that the names of its comparisons meet will do for the fields. -/
theorem wellFormed_expr (o : Options) {schema : Schema} {named : String → Prop} {d : Sentence}
    (h : d.Grammatical schema) (hnamed : ∀ a ∈ d.atoms, named ((schema.resolve (String.ofList a.property)).getD ""))
    (negated : Bool) : (d.expr o schema negated).WellFormed named (!o.caseInsensitiveStore) := by
  induction d generalizing negated with
  | comparison a =>
    cases h with
    | comparison legal known =>
      have hname := hnamed a (by simp)
      exact Comparison.wellFormed_toExpr o hname legal.isLiteral
  | group c ds ih =>
    obtain ⟨operands, inner⟩ := grammatical_group.1 h
    have hne : ds ≠ [] := List.ne_nil_of_length_pos (Connective.pos_of_admits operands)
    rw [expr_group]
    refine .combine _ (by simpa using hne) fun e he => ?_
    obtain ⟨d, hd, rfl⟩ := List.mem_map.1 he
    exact ih d hd (inner d hd) (fun a ha => hnamed a (mem_atoms_group.2 ⟨d, hd, ha⟩)) _

theorem nesting_expr_le (o : Options) (schema : Schema) (d : Sentence) {k : ℕ} (h : d.depth ≤ k) (negated : Bool) :
    (d.expr o schema negated).nesting ≤ k := by
  induction d generalizing k negated with
  | comparison a =>
    have hleaf : ((a.comparison schema negated).toExpr o).nesting = 0 := by
      rcases (a.comparison schema negated).toExpr_cases o with h | h | ⟨op, h⟩ | h | ⟨-, h⟩ | ⟨-, h⟩ <;> rw [h] <;> rfl
    rw [expr, hleaf]
    exact Nat.zero_le k
  | group c ds ih =>
    obtain ⟨k, rfl⟩ : ∃ j, k = j + 1 := ⟨k - 1, by rw [depth] at h; omega⟩
    rw [expr_group]
    refine Expr.nesting_combine_le _ fun e he => ?_
    obtain ⟨d, hd, rfl⟩ := List.mem_map.1 he
    exact ih d hd (depth_group_le.1 h d hd) _

end Sentence

/-! ## Fragments in the order of the text -/

/-- the leaves of the fold over a skeleton are its leaves, each in its place and under its own negation -/
theorem Node.leaves_build {leaf : Bool → ℕ → Expr} {n : Node} {negated : Bool}
    (h : ∀ x ∈ n.signs negated, (leaf x.2 x.1).leaves = [leaf x.2 x.1]) :
    (n.build leaf negated).leaves = (n.signs negated).map fun x => leaf x.2 x.1 := by
  induction n generalizing negated with
  | leaf i => exact h (i, negated) (List.mem_singleton.2 rfl)
  | group c ns ih =>
    simp only [build_group, Expr.leaves_combine, signs_group, List.map_flatMap, List.flatMap_map]
    exact List.flatMap_congr fun n hn => ih n hn fun x hx => h x (mem_signs_group.2 ⟨n, hn, hx⟩)

theorem leaves_leafOf (o : Options) {tiles : List Tile} {i : ℕ} (hi : i < tiles.length) (negated : Bool) :
    (leafOf o tiles negated i).leaves = [leafOf o tiles negated i] := by
  rw [leafOf, List.getElem?_eq_getElem hi]
  exact Comparison.leaves_toExpr o _

/-- assigning negations leaves every tile in its place -/
theorem assigned_eq (o : Options) {n : Node} {tiles : List Tile} (h : n.leaves = List.range tiles.length) :
    (n.signs false).map (fun x => leafOf o tiles x.2 x.1) =
      (n.assignNegation false tiles).map fun t => t.comparison.toExpr o := by
  have hfst : (n.signs false).map Prod.fst = List.range tiles.length := h
  have hnodup : ((n.signs false).map Prod.fst).Nodup := hfst ▸ List.nodup_range
  obtain ⟨hget, -⟩ := getElem?_foldl_modify tiles hnodup
  have hlength : (n.signs false).length = tiles.length := by
    rw [← List.length_map (f := Prod.fst), hfst, List.length_range]
  rw [Node.assignNegation_eq]
  refine List.ext_getElem (by simp [hlength]) fun i hi hi' => ?_
  rw [List.length_map] at hi hi'
  have hindex : ((n.signs false)[i]).1 = i := by
    have hmap : ((n.signs false).map Prod.fst)[i]? = some i := by
      rw [hfst, List.getElem?_range (hlength ▸ hi)]
    rw [List.getElem?_map, List.getElem?_eq_getElem hi] at hmap
    exact Option.some.inj hmap
  have htile := hget _ (List.getElem_mem hi)
  rw [hindex, List.getElem?_eq_getElem hi'] at htile
  rw [List.getElem_map, List.getElem_map, leafOf, hindex, ← htile]
  rfl

/-! ## Compiled filters -/

/-- **Shape.** What is compiled is well formed, under any condition met by the names that properties resolve to. -/
theorem wellFormed_of_compileExpr {o : Options} {schema : Schema} {filter : String} {e : Expr} {named : String → Prop}
    (h : compileExpr o schema filter = .ok e)
    (hnamed : ∀ property field, (∀ c ∈ property, Tile.isPropertyChar c = true) →
      schema.resolve (String.ofList property) = some field → named field) :
    e.WellFormed named (!o.caseInsensitiveStore) := by
  obtain ⟨d, hd, -, -, rfl⟩ := compileExpr_eq_ok.1 h
  refine Sentence.wellFormed_expr o hd (fun a ha => ?_) false
  obtain ⟨legal, known⟩ := Sentence.legal_of_mem_atoms hd a ha
  obtain ⟨field, hfield⟩ := Option.isSome_iff_exists.1 known
  rw [hfield]
  exact hnamed a.property field legal.property_chars hfield

/-- **Compiled predicates.** The predicate of a filter:
- is well formed over the schema's names: groups join two or more parts, equality folds case unless the store ignores it,
  and literals and patterns are made of the characters they may be made of;
- nests its groups no deeper than the limit;
- has the fragments of the filter's comparisons as its leaves, each once and in the order of the text. -/
theorem compileExpr_shape {o : Options} {schema : Schema} {filter : String} {e : Expr}
    (h : compileExpr o schema filter = .ok e) :
    e.WellFormed (· ∈ schema.names) (!o.caseInsensitiveStore) ∧ e.nesting ≤ maxDepth ∧
    ∃ tiles n, extract schema filter = .ok tiles ∧ skeleton filter tiles = .ok n ∧
      e.leaves = (n.assignNegation false tiles).map fun t => t.comparison.toExpr o := by
  refine ⟨wellFormed_of_compileExpr h fun _ _ _ => Schema.mem_names_of_resolve, ?_, ?_⟩
  · obtain ⟨d, -, hdepth, -, rfl⟩ := compileExpr_eq_ok.1 h
    exact Sentence.nesting_expr_le o schema d hdepth false
  · obtain ⟨tiles, n, hextract, hskeleton⟩ := skeleton_of_compileExpr h
    obtain ⟨d, hd, -, htext, rfl, htiled⟩ := exists_derivation hextract hskeleton
    refine ⟨tiles, _, hextract, hskeleton, ?_⟩
    rw [compileExpr_of_skeleton (Sentence.validate_eq hd htext) hextract hskeleton htiled.leaves_eq] at h
    obtain rfl := Except.ok.inj h
    have hleaf : ∀ x ∈ (d.number 0).signs false, (leafOf o tiles x.2 x.1).leaves = [leafOf o tiles x.2 x.1] := by
      intro x hx
      have hindex : x.1 ∈ (d.number 0).leaves := List.mem_map_of_mem hx
      rw [htiled.leaves_eq] at hindex
      exact leaves_leafOf o (List.mem_range.1 hindex) x.2
    rw [Node.leaves_build hleaf, assigned_eq o htiled.leaves_eq]

/-- De Morgan turns the inner OR into an AND of two leaves, and the outer NOT into an OR around it -/
theorem compileExpr_shape_nested :
    compileExpr (.default Like.library .standard) (.ofNames ["Sn", "Age"]) "(!(|(sn=a*)(!(age>=18)))(sn=b))" =
      .ok (.or [.and [.like "Sn" "a%" true, .compare "Age" .greaterOrEqual "18"], .equals "Sn" "b" true true]) ∧
    Expr.WellFormed (· ∈ (Schema.ofNames ["Sn", "Age"]).names) true
      (.or [.and [.like "Sn" "a%" true, .compare "Age" .greaterOrEqual "18"], .equals "Sn" "b" true true]) ∧
    ∃ tiles n, extract (.ofNames ["Sn", "Age"]) "(!(|(sn=a*)(!(age>=18)))(sn=b))" = .ok tiles ∧
      skeleton "(!(|(sn=a*)(!(age>=18)))(sn=b))" tiles = .ok n ∧
      [.like "Sn" "a%" true, .compare "Age" .greaterOrEqual "18", .equals "Sn" "b" true true] =
        (n.assignNegation false tiles).map fun t => t.comparison.toExpr (.default Like.library .standard) := by
  have h : compileExpr (.default Like.library .standard) (.ofNames ["Sn", "Age"]) "(!(|(sn=a*)(!(age>=18)))(sn=b))" =
      .ok (.or [.and [.like "Sn" "a%" true, .compare "Age" .greaterOrEqual "18"], .equals "Sn" "b" true true]) := by cbv
  obtain ⟨hshape, -, hleaves⟩ := compileExpr_shape h
  exact ⟨h, hshape, hleaves⟩

end SearchFilter
