/-
Compilation against the grammar.

- `exists_derivation`, `Sentence.skeleton_eq`: extraction and skeleton building accept exactly the texts with a derivation
  within the depth limit, and build the skeleton of that derivation.
- `Sentence.validate_eq`: the count of parentheses never refuses such a text.
- `compileExpr_eq_ok`: a filter compiles exactly when its lower-cased text has a derivation, to the predicate the
  derivation stands for (`Sentence.expr`).
- `compiles_iff_grammatical`: these together, with the derivation being the only one.
-/
import Mathlib.Tactic
import SearchFilter.Filter.Compile
import SearchFilter.Proofs.LowerCase
import SearchFilter.Proofs.Sentence

namespace SearchFilter

/-! ## Predicates of derivations -/

/-- what the schema and a negation make of a comparison -/
def Atom.comparison (schema : Schema) (negated : Bool) (a : Atom) : Comparison :=
  ⟨(schema.resolve (String.ofList a.property)).getD "", a.operator, String.ofList a.literal, negated⟩

namespace Sentence

mutual

/-- the predicate a derivation stands for, under `negated` -/
def expr (o : Options) (schema : Schema) (negated : Bool) : Sentence → Expr
  | .comparison a => (a.comparison schema negated).toExpr o
  | .group c ds =>
    Expr.combine (c.isConjunction (negated ^^ (c == .not))) (exprAll o schema (negated ^^ (c == .not)) ds)

def exprAll (o : Options) (schema : Schema) (negated : Bool) : List Sentence → List Expr
  | [] => []
  | d :: ds => d.expr o schema negated :: exprAll o schema negated ds

end

@[simp]
theorem exprAll_eq (o : Options) (schema : Schema) (negated : Bool) (ds : List Sentence) :
    exprAll o schema negated ds = ds.map (expr o schema negated) := by
  induction ds with
  | nil => rfl
  | cons d ds ih => simp [exprAll, ih]

@[simp]
theorem expr_group (o : Options) (schema : Schema) (negated : Bool) (c : Connective) (ds : List Sentence) :
    (group c ds).expr o schema negated = Expr.combine (c.isConjunction (negated ^^ (c == .not)))
      (ds.map (expr o schema (negated ^^ (c == .not)))) := by
  simp [expr]

/-- the leaves numbered from `k` on are the comparisons of a list, compiled -/
def LeavesFrom (o : Options) (schema : Schema) (leaf : Bool → ℕ → Expr) (k : ℕ) (as : List Atom) : Prop :=
  ∀ j a, as[j]? = some a → ∀ b, leaf b (k + j) = (a.comparison schema b).toExpr o

theorem LeavesFrom.append {o : Options} {schema : Schema} {leaf : Bool → ℕ → Expr} {k : ℕ} {as bs : List Atom}
    (h : LeavesFrom o schema leaf k (as ++ bs)) :
    LeavesFrom o schema leaf k as ∧ LeavesFrom o schema leaf (k + as.length) bs := by
  refine ⟨fun j a ha => h j a ?_, fun j b hb s => ?_⟩
  · obtain ⟨hj, -⟩ := List.getElem?_eq_some_iff.1 ha
    rw [List.getElem?_append_left hj, ha]
  · have hget : (as ++ bs)[as.length + j]? = some b := by
      simp [List.getElem?_append_right (Nat.le_add_right _ _), hb]
    rw [Nat.add_assoc]
    exact h _ b hget s

theorem build_numberAll {o : Options} {schema : Schema} {leaf : Bool → ℕ → Expr} {k : ℕ} {ds : List Sentence}
    (negated : Bool) (h : LeavesFrom o schema leaf k (ds.flatMap atoms))
    (ih : ∀ d ∈ ds, ∀ k, LeavesFrom o schema leaf k d.atoms →
      (d.number k).build leaf negated = d.expr o schema negated) :
    (numberAll k ds).map (Node.build leaf negated) = ds.map (expr o schema negated) := by
  induction ds generalizing k with
  | nil => rfl
  | cons d ds ihds =>
    rw [List.flatMap_cons] at h
    obtain ⟨h1, h2⟩ := h.append
    simp [numberAll, ih d List.mem_cons_self k h1, ihds h2 fun e he => ih e (List.mem_cons_of_mem d he)]

/-- the fold over the skeleton of a derivation is the predicate of the derivation -/
theorem build_number {o : Options} {schema : Schema} {leaf : Bool → ℕ → Expr} (d : Sentence) (negated : Bool) (k : ℕ)
    (h : LeavesFrom o schema leaf k d.atoms) : (d.number k).build leaf negated = d.expr o schema negated := by
  induction d generalizing negated k with
  | comparison a => exact h 0 a rfl negated
  | group c ds ih =>
    rw [atoms_group] at h
    simp [number, build_numberAll _ h fun d hd k hk => ih d hd _ k hk]

end Sentence

/-! ## Parentheses -/

theorem validate_eq_ok {filter : String} : validate filter = .ok () ↔
    (Text.lower filter.toList).head? = some '(' ∧ (Text.lower filter.toList).getLast? = some ')' ∧
      (Text.lower filter.toList).count '(' = (Text.lower filter.toList).count ')' := by
  rw [Text.head_lower Text.isFixed_opening, Text.getLast_lower Text.isFixed_closing,
    Text.count_lower Text.isFixed_opening, Text.count_lower Text.isFixed_closing]
  simp only [validate]
  split_ifs with h1 h2
  · rcases h1 with h1 | h1 <;> simp [h1]
  · simp [h2]
  · simp_all

theorem Atom.Legal.count_text {a : Atom} (h : a.Legal) {p : Char} (hp : p = '(' ∨ p = ')') : a.text.count p = 1 := by
  have hproperty : a.property.count p = 0 := by
    refine List.count_eq_zero.2 fun hmem => ?_
    have hchar := h.property_chars p hmem
    rw [not_isPropertyChar p (by rcases hp with rfl | rfl <;> simp)] at hchar
    exact Bool.false_ne_true hchar
  have hliteral : a.literal.count p = 0 := by
    refine List.count_eq_zero.2 fun hmem => ?_
    have hchar := h.value_chars p hmem
    rw [not_isValueChar p (by rcases hp with rfl | rfl <;> simp)] at hchar
    exact Bool.false_ne_true hchar
  have hoperator : a.operator.symbol.toList.count p = 0 := by
    rcases hp with rfl | rfl <;> cases a.operator <;> rfl
  rw [Atom.text, List.count_cons, List.count_append, List.count_append, List.count_append, hproperty, hliteral,
    hoperator]
  rcases hp with rfl | rfl <;> rfl

namespace Sentence

theorem count_text {schema : Schema} {d : Sentence} (h : d.Grammatical schema) :
    d.text.count '(' = d.text.count ')' := by
  induction d with
  | comparison a =>
    cases h with
    | comparison legal known =>
      simp [legal.count_text]
  | group c ds ih =>
    have hinner := (grammatical_group.1 h).2
    have hds : (ds.flatMap text).count '(' = (ds.flatMap text).count ')' := by
      rw [List.count_flatMap, List.count_flatMap]
      exact congrArg List.sum (List.map_congr_left fun d hd => ih d hd (hinner d hd))
    cases c <;> simp [Connective.symbol, hds]

theorem head_text (d : Sentence) : d.text.head? = some '(' := by
  cases d with
  | comparison a => rfl
  | group c ds => rfl

theorem getLast_text (d : Sentence) : d.text.getLast? = some ')' := by
  cases d with
  | comparison a => simp [Atom.text, List.getLast?_cons, List.getLast?_append]
  | group c ds => simp [List.getLast?_cons, List.getLast?_append]

/-- the parentheses of a derivation match -/
theorem validate_eq {schema : Schema} {d : Sentence} (h : d.Grammatical schema) {filter : String}
    (htext : d.text = Text.lower filter.toList) : validate filter = .ok () := by
  rw [validate_eq_ok, ← htext]
  exact ⟨d.head_text, d.getLast_text, count_text h⟩

end Sentence

/-! ## From filters to derivations and back -/

theorem Run.Resolves.carries {schema : Schema} {r : Run Atom} {t : Tile} (h : r.Resolves schema t) : r.Carries t := by
  obtain ⟨field, -, rfl⟩ := resolves_iff.1 h
  exact ⟨rfl, rfl⟩

theorem Run.Resolves.comparison {schema : Schema} {r : Run Atom} {t : Tile} (h : r.Resolves schema t) (negated : Bool) :
    (t.setNegated negated).comparison = r.leaf.comparison schema negated := by
  obtain ⟨field, hfield, rfl⟩ := resolves_iff.1 h
  simp [Tile.setNegated, Atom.comparison, hfield]

theorem exists_tiles {schema : Schema} {rs : List (Run Atom)}
    (h : ∀ r ∈ rs, (schema.resolve (String.ofList r.leaf.property)).isSome = true) :
    ∃ tiles, List.Forall₂ (Run.Resolves schema) rs tiles := by
  induction rs with
  | nil => exact ⟨[], .nil⟩
  | cons r rs ih =>
    obtain ⟨tiles, htiles⟩ := ih fun q hq => h q (List.mem_cons_of_mem r hq)
    obtain ⟨field, hfield⟩ := Option.isSome_iff_exists.1 (h r List.mem_cons_self)
    exact ⟨_ :: tiles, .cons (resolves_iff.2 ⟨field, hfield, rfl⟩) htiles⟩

/-- tiles are what the schema makes of the row a derivation is written as -/
def Sentence.TiledBy (schema : Schema) (d : Sentence) (tiles : List Tile) : Prop :=
  ∃ rs : List (Run Atom), rs.flatMap Run.tokens = d.tokens ∧ List.Forall₂ (Run.Resolves schema) rs tiles

namespace Sentence

theorem TiledBy.length {schema : Schema} {d : Sentence} {tiles : List Tile} (h : d.TiledBy schema tiles) :
    d.atoms.length = tiles.length := by
  obtain ⟨rs, htokens, hall⟩ := h
  simp [atoms_eq htokens, hall.length_eq]

theorem TiledBy.leaves_eq {schema : Schema} {d : Sentence} {tiles : List Tile} (h : d.TiledBy schema tiles) :
    (d.number 0).leaves = List.range tiles.length := by
  simp [leaves_number, h.length, List.range_eq_range']

theorem TiledBy.leavesFrom {schema : Schema} {d : Sentence} {tiles : List Tile} (h : d.TiledBy schema tiles)
    (o : Options) : LeavesFrom o schema (leafOf o tiles) 0 d.atoms := by
  obtain ⟨rs, htokens, hall⟩ := h
  intro j a ha b
  rw [atoms_eq htokens, List.getElem?_map] at ha
  obtain ⟨r, hr, rfl⟩ := Option.map_eq_some_iff.1 ha
  obtain ⟨hj, rfl⟩ := List.getElem?_eq_some_iff.1 hr
  have hj' : j < tiles.length := hall.length_eq ▸ hj
  have hresolves : Run.Resolves schema rs[j] tiles[j] := hall.get hj hj'
  rw [Nat.zero_add, leafOf, List.getElem?_eq_getElem hj']
  simp only [Option.map_some, Option.getD_some, hresolves.comparison]

/-- a derivation within the depth limit is extracted and built into its skeleton -/
theorem skeleton_eq {schema : Schema} {d : Sentence} (h : d.Grammatical schema) (hdepth : d.depth ≤ maxDepth)
    {filter : String} (htext : d.text = Text.lower filter.toList) :
    ∃ tiles, extract schema filter = .ok tiles ∧ skeleton filter tiles = .ok (d.number 0) ∧ d.TiledBy schema tiles := by
  obtain ⟨rs, hne, htokens⟩ := exists_row h
  have hlegal := legal_row h htokens
  obtain ⟨tiles, hall⟩ := exists_tiles fun r hr => (hlegal r hr).2
  refine ⟨tiles, ?_, ?_, rs, htokens, hall⟩
  · exact extract_eq_ok.2 ⟨rs, hne, fun r hr => (hlegal r hr).1, (texts_row htokens).trans htext, hall⟩
  · refine (skeleton_eq_ok (hall.imp fun _ _ hr => hr.carries) filter).2 ⟨?_, within_number h hdepth⟩
    rw [tokens_number, htokens]

end Sentence

/-- **Tiles, skeleton, derivation.** What is extracted and built into a skeleton is the text of a derivation within the
depth limit, and the skeleton is the one that stands for it. -/
theorem exists_derivation {schema : Schema} {filter : String} {tiles : List Tile} {n : Node}
    (hextract : extract schema filter = .ok tiles) (hskeleton : skeleton filter tiles = .ok n) :
    ∃ d : Sentence, d.Grammatical schema ∧ d.depth ≤ maxDepth ∧ d.text = Text.lower filter.toList ∧ d.number 0 = n ∧
      d.TiledBy schema tiles := by
  obtain ⟨rs, -, hlegal, htext, hall⟩ := extract_eq_ok.1 hextract
  obtain ⟨hn, hwithin⟩ := (skeleton_eq_ok (hall.imp fun _ _ hr => hr.carries) filter).1 hskeleton
  obtain ⟨d, hd, rfl⟩ := Sentence.exists_sentence n 0 _ hn
  have hatoms : ∀ a ∈ d.atoms, a.Legal ∧ (schema.resolve (String.ofList a.property)).isSome = true := by
    intro a ha
    rw [Sentence.atoms_eq hd.symm] at ha
    obtain ⟨r, hr, rfl⟩ := List.mem_map.1 ha
    obtain ⟨j, hj, rfl⟩ := List.getElem_of_mem hr
    have hj' : j < tiles.length := hall.length_eq ▸ hj
    have hresolves : Run.Resolves schema rs[j] tiles[j] := hall.get hj hj'
    obtain ⟨field, hfield, -⟩ := resolves_iff.1 hresolves
    exact ⟨hlegal _ hr, by rw [hfield]; rfl⟩
  obtain ⟨hgrammatical, hdepth⟩ := Sentence.grammatical_of_within hwithin hatoms
  exact ⟨d, hgrammatical, hdepth, (Sentence.texts_row hd.symm).symm.trans htext, rfl, rs, hd.symm, hall⟩

theorem compileExpr_of_skeleton {o : Options} {schema : Schema} {filter : String} {tiles : List Tile} {n : Node}
    (hvalidate : validate filter = .ok ()) (hextract : extract schema filter = .ok tiles)
    (hskeleton : skeleton filter tiles = .ok n) (hleaves : n.leaves = List.range tiles.length) :
    compileExpr o schema filter = .ok (n.build (leafOf o tiles) false) := by
  rw [compileExpr, hvalidate, hextract]
  change (skeleton filter tiles).bind _ = _
  rw [hskeleton]
  exact resolve_assigned o filter (hleaves ▸ List.Perm.refl _)

theorem skeleton_of_compileExpr {o : Options} {schema : Schema} {filter : String} {e : Expr}
    (h : compileExpr o schema filter = .ok e) :
    ∃ tiles n, extract schema filter = .ok tiles ∧ skeleton filter tiles = .ok n := by
  obtain ⟨-, -, hvalid⟩ := bind_eq_ok.1 h
  obtain ⟨tiles, hextract, htiles⟩ := bind_eq_ok.1 hvalid
  obtain ⟨n, hskeleton, -⟩ := bind_eq_ok.1 htiles
  exact ⟨tiles, n, hextract, hskeleton⟩

namespace Sentence

theorem compileExpr_eq {schema : Schema} {d : Sentence} (h : d.Grammatical schema) (hdepth : d.depth ≤ maxDepth)
    {filter : String} (htext : d.text = Text.lower filter.toList) (o : Options) :
    compileExpr o schema filter = .ok (d.expr o schema false) := by
  obtain ⟨tiles, hextract, hskeleton, htiled⟩ := skeleton_eq h hdepth htext
  rw [compileExpr_of_skeleton (validate_eq h htext) hextract hskeleton htiled.leaves_eq,
    build_number d false 0 (htiled.leavesFrom o)]

end Sentence

/-- **Compilation by the grammar.** A filter compiles exactly when its lower-cased text has a derivation within the depth
limit, and to the predicate that derivation stands for. -/
theorem compileExpr_eq_ok {o : Options} {schema : Schema} {filter : String} {e : Expr} :
    compileExpr o schema filter = .ok e ↔ ∃ d : Sentence, d.Grammatical schema ∧ d.depth ≤ maxDepth ∧
      d.text = Text.lower filter.toList ∧ d.expr o schema false = e := by
  constructor
  · intro h
    obtain ⟨tiles, n, hextract, hskeleton⟩ := skeleton_of_compileExpr h
    obtain ⟨d, hd, hdepth, htext, -, -⟩ := exists_derivation hextract hskeleton
    rw [Sentence.compileExpr_eq hd hdepth htext o] at h
    exact ⟨d, hd, hdepth, htext, Except.ok.inj h⟩
  · rintro ⟨d, hd, hdepth, htext, rfl⟩
    exact Sentence.compileExpr_eq hd hdepth htext o

/-- **The grammar.** For every filter and schema:
- the filter compiles exactly when its lower-cased text has a derivation with no comparison inside more groups than the
  limit allows;
- a text has at most one derivation;
- the skeleton of the extracted tiles is that derivation, its leaves numbered in the order of the text;
- what is extracted and built into a skeleton is never refused for its parentheses. -/
theorem compiles_iff_grammatical (o : Options) (schema : Schema) (filter : String) :
    ((∃ e, compileExpr o schema filter = .ok e) ↔ ∃ d : Sentence, d.Grammatical schema ∧ d.depth ≤ maxDepth ∧
      d.text = Text.lower filter.toList) ∧
    (∀ d e : Sentence, d.Grammatical schema → e.Grammatical schema → d.text = e.text → d = e) ∧
    (∀ tiles n, extract schema filter = .ok tiles → (skeleton filter tiles = .ok n ↔ n.leaves = List.range tiles.length ∧
      ∃ d : Sentence, d.Grammatical schema ∧ d.depth ≤ maxDepth ∧ d.text = Text.lower filter.toList ∧
        d.number 0 = n)) ∧
    ∀ tiles n, extract schema filter = .ok tiles → skeleton filter tiles = .ok n → validate filter = .ok () := by
  refine ⟨⟨?_, ?_⟩, fun d e hd he => Sentence.text_injective hd he, fun tiles n hextract => ⟨?_, ?_⟩, ?_⟩
  · rintro ⟨e, he⟩
    obtain ⟨d, hd, hdepth, htext, -⟩ := compileExpr_eq_ok.1 he
    exact ⟨d, hd, hdepth, htext⟩
  · rintro ⟨d, hd, hdepth, htext⟩
    exact ⟨_, Sentence.compileExpr_eq hd hdepth htext o⟩
  · intro hskeleton
    obtain ⟨d, hd, hdepth, htext, rfl, htiled⟩ := exists_derivation hextract hskeleton
    exact ⟨htiled.leaves_eq, d, hd, hdepth, htext, rfl⟩
  · rintro ⟨-, d, hd, hdepth, htext, rfl⟩
    obtain ⟨tiles', hextract', hskeleton, -⟩ := Sentence.skeleton_eq hd hdepth htext
    rw [hextract] at hextract'
    obtain rfl := Except.ok.inj hextract'
    exact hskeleton
  · intro tiles n hextract hskeleton
    obtain ⟨d, hd, -, htext, -, -⟩ := exists_derivation hextract hskeleton
    exact Sentence.validate_eq hd htext

end SearchFilter
