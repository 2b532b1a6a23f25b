/-
The pool of fragments and the plain fold over a skeleton.

`Node.build` joins the leaves of a skeleton by recursion on the tree, with no numbers and no pool. Collapsing a node
touches the slots of its own leaves and fresh slots only, and leaves one fragment behind, the node's (`Collapsed`). Hence:
- `resolve_eq_build`: over leaves that are all used once, resolving is the plain fold and cannot fail.
- `resolve_assigned`: with the negations assigned first, every leaf is built under the negation of its own place.
-/
import Mathlib.Tactic
import SearchFilter.Proofs.Nesting
import SearchFilter.Filter.Resolve

namespace SearchFilter

/-! ## The plain fold -/

/-- several fragments joined; a single one stands for itself -/
def Expr.combine (conjunction : Bool) : List Expr → Expr
  | [e] => e
  | es => Expr.join conjunction es

namespace Node

mutual

/-- the predicate of a node under `negated`, leaf `i` under a negation `b` being `leaf b i` -/
def build (leaf : Bool → ℕ → Expr) (negated : Bool) : Node → Expr
  | .leaf i => leaf negated i
  | .group c ns => Expr.combine (c.isConjunction (negated ^^ (c == .not))) (buildAll leaf (negated ^^ (c == .not)) ns)

def buildAll (leaf : Bool → ℕ → Expr) (negated : Bool) : List Node → List Expr
  | [] => []
  | n :: ns => n.build leaf negated :: buildAll leaf negated ns

end

mutual

/-- the leaves from left to right, each with its negation under `negated` -/
def signs (negated : Bool) : Node → List (ℕ × Bool)
  | .leaf i => [(i, negated)]
  | .group c ns => signsAll (negated ^^ (c == .not)) ns

def signsAll (negated : Bool) : List Node → List (ℕ × Bool)
  | [] => []
  | n :: ns => n.signs negated ++ signsAll negated ns

end

/-- the numbers of the leaves from left to right -/
def leaves (n : Node) : List ℕ := (n.signs false).map Prod.fst

@[simp]
theorem buildAll_eq (leaf : Bool → ℕ → Expr) (negated : Bool) (ns : List Node) :
    buildAll leaf negated ns = ns.map (build leaf negated) := by
  induction ns with
  | nil => rfl
  | cons n ns ih => simp [buildAll, ih]

@[simp]
theorem signsAll_eq (negated : Bool) (ns : List Node) : signsAll negated ns = ns.flatMap (signs negated) := by
  induction ns with
  | nil => rfl
  | cons n ns ih => simp [signsAll, ih]

@[simp]
theorem build_group (leaf : Bool → ℕ → Expr) (negated : Bool) (c : Connective) (ns : List Node) :
    (group c ns).build leaf negated = Expr.combine (c.isConjunction (negated ^^ (c == .not)))
      (ns.map (build leaf (negated ^^ (c == .not)))) := by
  simp [build]

@[simp]
theorem signs_leaf (negated : Bool) (i : ℕ) : (leaf i).signs negated = [(i, negated)] := by rw [signs]

@[simp]
theorem signs_group (negated : Bool) (c : Connective) (ns : List Node) :
    (group c ns).signs negated = ns.flatMap (signs (negated ^^ (c == .not))) := by
  simp [signs]

theorem signs_fst (n : Node) (negated : Bool) : (n.signs negated).map Prod.fst = n.leaves := by
  induction n generalizing negated with
  | leaf i => rfl
  | group c ns ih =>
    rw [leaves, signs_group, signs_group, List.map_flatMap, List.map_flatMap]
    exact List.flatMap_congr fun n hn => (ih n hn _).trans (ih n hn _).symm

@[simp]
theorem leaves_leaf (i : ℕ) : (leaf i).leaves = [i] := by simp [leaves]

@[simp]
theorem leaves_group (c : Connective) (ns : List Node) : (group c ns).leaves = ns.flatMap leaves := by
  rw [leaves, signs_group, List.map_flatMap]
  exact List.flatMap_congr fun n _ => signs_fst n _

theorem mem_signs_group {c : Connective} {ns : List Node} {negated : Bool} {x : ℕ × Bool} :
    x ∈ (group c ns).signs negated ↔ ∃ n ∈ ns, x ∈ n.signs (negated ^^ (c == .not)) := by
  simp

theorem mem_leaves_group {c : Connective} {ns : List Node} {i : ℕ} :
    i ∈ (group c ns).leaves ↔ ∃ n ∈ ns, i ∈ n.leaves := by
  simp

/-- a predicate depends on its leaves in their places only -/
theorem build_congr {f g : Bool → ℕ → Expr} {n : Node} {negated : Bool}
    (h : ∀ x ∈ n.signs negated, f x.2 x.1 = g x.2 x.1) : n.build f negated = n.build g negated := by
  induction n generalizing negated with
  | leaf i => exact h (i, negated) (List.mem_singleton.2 rfl)
  | group c ns ih =>
    rw [build_group, build_group]
    exact congrArg _ (List.map_congr_left fun n hn => ih n hn fun x hx => h x (mem_signs_group.2 ⟨n, hn, hx⟩))

end Node

/-! ## The pool -/

namespace Pool

/-- the fragment in a slot, if it is still there -/
def held (p : Pool) (key : ℕ) : Option Expr := p[key]?.join

theorem held_lt {p : Pool} {key : ℕ} {e : Expr} (h : p.held key = some e) : key < p.length := by
  by_contra hlt
  simp [held, List.getElem?_eq_none (Nat.not_lt.1 hlt)] at h

@[simp]
theorem held_set (p : Pool) (key j : ℕ) : held (p.set key none) j = if j = key then none else p.held j := by
  unfold held
  by_cases hj : j = key
  · rw [hj, List.getElem?_set_self', if_pos rfl]
    cases p[key]? <;> rfl
  · rw [List.getElem?_set_ne (Ne.symm hj), if_neg hj]

@[simp]
theorem held_push (p : Pool) (e : Expr) (j : ℕ) : held (p ++ [some e]) j = if j = p.length then some e else p.held j := by
  unfold held
  split_ifs with h
  · rw [h]; simp
  · rcases Nat.lt_or_gt_of_ne h with hlt | hgt
    · rw [List.getElem?_append_left hlt]
    · rw [List.getElem?_eq_none (by simp; omega), List.getElem?_eq_none (Nat.le_of_lt hgt)]

theorem take?_eq {p : Pool} {key : ℕ} {e : Expr} (h : p.held key = some e) :
    p.take? key = some (e, p.set key none) := by
  have hget : p[key]? = some (some e) := by
    unfold held at h
    cases hp : p[key]? with
    | none => rw [hp] at h; simp at h
    | some x => rw [hp] at h; exact congrArg some h
  rw [take?, hget]

/-- fragments in different slots are taken out together -/
theorem takeAll?_eq {out : List (ℕ × Expr)} (p : Pool) (hnodup : (out.map Prod.fst).Nodup)
    (hheld : ∀ x ∈ out, p.held x.1 = some x.2) :
    ∃ q, p.takeAll? (out.map Prod.fst) = some (out.map Prod.snd, q) ∧ q.length = p.length ∧
      ∀ j, q.held j = if j ∈ out.map Prod.fst then none else p.held j := by
  induction out generalizing p with
  | nil => exact ⟨p, rfl, rfl, fun j => by simp⟩
  | cons x out ih =>
    rw [List.map_cons, List.nodup_cons] at hnodup
    have hrest : ∀ y ∈ out, held (p.set x.1 none) y.1 = some y.2 := by
      intro y hy
      have hne : y.1 ≠ x.1 := fun h => hnodup.1 (h ▸ List.mem_map_of_mem hy)
      simpa [hne] using hheld y (List.mem_cons_of_mem x hy)
    obtain ⟨q, hq, hlen, hqheld⟩ := ih (p.set x.1 none) hnodup.2 hrest
    refine ⟨q, ?_, ?_, fun j => ?_⟩
    · rw [List.map_cons, takeAll?, take?_eq (hheld x List.mem_cons_self)]
      simp only [hq, List.map_cons]
    · rw [hlen, List.length_set]
    · rw [hqheld, held_set, List.map_cons]
      by_cases hj : j ∈ out.map Prod.fst
      · rw [if_pos hj, if_pos (List.mem_cons_of_mem _ hj)]
      · simp [hj]

theorem filterMap_of_held_none {p : Pool} (h : ∀ j, p.held j = none) : p.filterMap id = [] := by
  refine List.filterMap_eq_nil_iff.2 fun x hx => ?_
  obtain ⟨j, hj⟩ := List.getElem?_of_mem hx
  have hnone := h j
  rw [held, hj] at hnone
  exact hnone

theorem single?_eq {p : Pool} {key : ℕ} {e : Expr} (h : ∀ j, p.held j = if j = key then some e else none) :
    p.single? = some e := by
  have hlist : p.filterMap id = [e] := by
    induction p generalizing key with
    | nil => have := h key; simp [held] at this
    | cons x p ih =>
      have htail : ∀ j, held p j = if j + 1 = key then some e else none := fun j => h (j + 1)
      have hx : x = if 0 = key then some e else none := h 0
      cases key with
      | zero =>
        have hnone : ∀ j, held p j = none := by simpa using htail
        rw [hx, List.filterMap_cons, filterMap_of_held_none hnone]
        rfl
      | succ key =>
        rw [hx, List.filterMap_cons]
        refine ih (fun j => ?_ : ∀ j, held p j = if j = key then some e else none)
        rw [htail]
        simp
  rw [single?, hlist]

end Pool

/-! ## Collapsing -/

/-- From `p` to `q` the slots `used` and fresh ones were worked on; there `out` is all that is left, and the other slots
are as before. -/
structure Collapsed (p q : Pool) (used : List ℕ) (out : List (ℕ × Expr)) : Prop where
  grows : p.length ≤ q.length
  nodup : (out.map Prod.fst).Nodup
  inside : ∀ x ∈ out, x.1 ∈ used ∨ p.length ≤ x.1
  held : ∀ x ∈ out, q.held x.1 = some x.2
  spent : ∀ j, j ∈ used ∨ p.length ≤ j → j ∉ out.map Prod.fst → q.held j = none
  frame : ∀ j, j ∉ used → j < p.length → q.held j = p.held j

namespace Collapsed

theorem nil (p : Pool) : Collapsed p p [] [] where
  grows := le_rfl
  nodup := List.nodup_nil
  inside := by simp
  held := by simp
  spent := by
    intro j hj _
    rcases hj with hj | hj
    · simp at hj
    · by_contra hne
      obtain ⟨e, he⟩ := Option.ne_none_iff_exists'.1 hne
      have := Pool.held_lt he
      omega
  frame := fun _ _ _ => rfl

/-- two stretches of work on slots that do not meet -/
theorem append {p q r : Pool} {used1 used2 : List ℕ} {out1 out2 : List (ℕ × Expr)} (h1 : Collapsed p q used1 out1)
    (h2 : Collapsed q r used2 out2) (hdisjoint : ∀ j ∈ used1, j ∉ used2) (hold : ∀ j ∈ used2, j < p.length) :
    Collapsed p r (used1 ++ used2) (out1 ++ out2) := by
  have hgrows := h1.grows
  have apart : ∀ x ∈ out1, x.1 ∉ used2 ∧ x.1 < q.length := by
    intro x hx
    refine ⟨fun hmem => ?_, Pool.held_lt (h1.held x hx)⟩
    rcases h1.inside x hx with h | h
    · exact hdisjoint x.1 h hmem
    · have := hold x.1 hmem; omega
  refine ⟨hgrows.trans h2.grows, ?_, ?_, ?_, ?_, ?_⟩
  · rw [List.map_append]
    refine h1.nodup.append h2.nodup fun k hk1 hk2 => ?_
    obtain ⟨x, hx, rfl⟩ := List.mem_map.1 hk1
    obtain ⟨y, hy, hxy⟩ := List.mem_map.1 hk2
    obtain ⟨hx1, hx2⟩ := apart x hx
    rcases h2.inside y hy with h | h
    · rw [hxy] at h; exact hx1 h
    · rw [hxy] at h; omega
  · intro x hx
    rcases List.mem_append.1 hx with hx | hx
    · exact (h1.inside x hx).imp_left (List.mem_append_left used2)
    · rcases h2.inside x hx with h | h
      · exact Or.inl (List.mem_append_right used1 h)
      · exact Or.inr (hgrows.trans h)
  · intro x hx
    rcases List.mem_append.1 hx with hx | hx
    · obtain ⟨hx1, hx2⟩ := apart x hx
      rw [h2.frame x.1 hx1 hx2, h1.held x hx]
    · exact h2.held x hx
  · intro j hj hout
    rw [List.map_append, List.mem_append, not_or] at hout
    by_cases hj2 : j ∈ used2 ∨ q.length ≤ j
    · exact h2.spent j hj2 hout.2
    · rw [not_or, Nat.not_le] at hj2
      rw [h2.frame j hj2.1 hj2.2]
      refine h1.spent j ?_ hout.1
      rcases hj with hj | hj
      · exact Or.inl ((List.mem_append.1 hj).resolve_right hj2.1)
      · exact Or.inr hj
  · intro j hj hlt
    rw [List.mem_append, not_or] at hj
    rw [h2.frame j hj.2 (Nat.lt_of_lt_of_le hlt hgrows), h1.frame j hj.1 hlt]

/-- what is left is taken out, and one fragment put in its place -/
theorem replace {p q : Pool} {used : List ℕ} {out : List (ℕ × Expr)} (h : Collapsed p q used out) (e : Expr) :
    ∃ r, q.takeAll? (out.map Prod.fst) = some (out.map Prod.snd, r) ∧
      Collapsed p (r ++ [some e]) used [(r.length, e)] := by
  obtain ⟨r, hr, hlen, hheld⟩ := Pool.takeAll?_eq q h.nodup h.held
  have hgrows := h.grows
  refine ⟨r, hr, by rw [List.length_append]; omega, List.nodup_singleton _, ?_, ?_, ?_, ?_⟩
  · intro x hx
    obtain rfl := List.mem_singleton.1 hx
    exact Or.inr (hlen ▸ hgrows)
  · intro x hx
    obtain rfl := List.mem_singleton.1 hx
    simp
  · intro j hj hout
    have hne : j ≠ r.length := by simpa using hout
    rw [Pool.held_push, if_neg hne, hheld]
    split_ifs with hmem
    · rfl
    · exact h.spent j hj hmem
  · intro j hj hlt
    have hout : j ∉ out.map Prod.fst := by
      intro hmem
      obtain ⟨x, hx, rfl⟩ := List.mem_map.1 hmem
      rcases h.inside x hx with hin | hin
      · exact hj hin
      · omega
    rw [Pool.held_push, if_neg (by omega), hheld, if_neg hout, h.frame j hj hlt]

end Collapsed

section Collapse

variable {leaf : ℕ → Expr}

/-- the nodes of a list one after the other, each collapsed to its own fragment -/
theorem collapseAll_collapsed {negated : Bool} {ns : List Node} (p : Pool) (hnodup : (ns.flatMap Node.leaves).Nodup)
    (hheld : ∀ i ∈ ns.flatMap Node.leaves, p.held i = some (leaf i))
    (ih : ∀ n ∈ ns, ∀ p : Pool, n.leaves.Nodup → (∀ i ∈ n.leaves, p.held i = some (leaf i)) →
      ∃ key q, n.collapse negated p = .ok (key, q) ∧
        Collapsed p q n.leaves [(key, n.build (fun _ => leaf) negated)]) :
    ∃ out q, Node.collapseAll negated p ns = .ok (out.map Prod.fst, q) ∧
      Collapsed p q (ns.flatMap Node.leaves) out ∧ out.map Prod.snd = ns.map (Node.build (fun _ => leaf) negated) := by
  induction ns generalizing p with
  | nil => exact ⟨[], p, rfl, .nil p, rfl⟩
  | cons n ns ihns =>
    rw [List.flatMap_cons] at hnodup hheld
    obtain ⟨hn, hns, hapart⟩ := List.nodup_append'.1 hnodup
    obtain ⟨key, q, hq, hcol⟩ := ih n List.mem_cons_self p hn fun i hi => hheld i (List.mem_append_left _ hi)
    have hdisjoint : ∀ j ∈ n.leaves, j ∉ ns.flatMap Node.leaves := fun j h1 h2 => hapart h1 h2
    have hheld' : ∀ i ∈ ns.flatMap Node.leaves, q.held i = some (leaf i) := by
      intro i hi
      have hi' := hheld i (List.mem_append_right _ hi)
      rw [hcol.frame i (fun h => hdisjoint i h hi) (Pool.held_lt hi'), hi']
    obtain ⟨out, r, hr, hcols, hsnd⟩ := ihns q hns hheld' fun m hm => ih m (List.mem_cons_of_mem n hm)
    refine ⟨(key, n.build (fun _ => leaf) negated) :: out, r, ?_, ?_, ?_⟩
    · simp only [Node.collapseAll, hq, hr, List.map_cons]
    · refine hcol.append hcols hdisjoint fun j hj => ?_
      exact Pool.held_lt (hheld j (List.mem_append_right _ hj))
    · simp only [List.map_cons, hsnd]

/-- **Collapsing a node.** Over leaves that are all in place and used once it does not fail, and leaves the fragment of
the plain fold behind and nothing else of what it worked on. -/
theorem collapse_collapsed (n : Node) (negated : Bool) (p : Pool) (hnodup : n.leaves.Nodup)
    (hheld : ∀ i ∈ n.leaves, p.held i = some (leaf i)) :
    ∃ key q, n.collapse negated p = .ok (key, q) ∧
      Collapsed p q n.leaves [(key, n.build (fun _ => leaf) negated)] := by
  induction n generalizing negated p with
  | leaf i =>
    refine ⟨i, p, rfl, le_rfl, List.nodup_singleton i, ?_, ?_, ?_, fun _ _ _ => rfl⟩
    · intro x hx
      obtain rfl := List.mem_singleton.1 hx
      exact Or.inl (List.mem_singleton.2 rfl)
    · intro x hx
      obtain rfl := List.mem_singleton.1 hx
      exact hheld i (List.mem_singleton.2 rfl)
    · intro j hj hout
      have hge : p.length ≤ j := hj.resolve_left hout
      exact (Collapsed.nil p).spent j (Or.inr hge) List.not_mem_nil
  | group c ns ih =>
    rw [Node.leaves_group] at hnodup hheld ⊢
    obtain ⟨out, q, hq, hcol, hsnd⟩ := collapseAll_collapsed p hnodup hheld fun n hn => ih n hn _
    rw [Node.build_group, ← hsnd]
    match out, hcol, hq with
    | [x], hcol, hq => exact ⟨x.1, q, by simp only [Node.collapse, hq, List.map_cons, List.map_nil], hcol⟩
    | [], hcol, hq =>
      obtain ⟨r, hr, hnew⟩ := hcol.replace (Expr.join (c.isConjunction (negated ^^ (c == .not))) [])
      simp only [List.map_nil] at hq hr
      exact ⟨_, _, by simp only [Node.collapse, hq, hr], hnew⟩
    | x :: y :: out, hcol, hq =>
      obtain ⟨r, hr, hnew⟩ := hcol.replace
        (Expr.join (c.isConjunction (negated ^^ (c == .not))) ((x :: y :: out).map Prod.snd))
      refine ⟨_, _, ?_, hnew⟩
      simp only [List.map_cons] at hq hr
      simp only [Node.collapse, hq, hr, List.map_cons]

/-- **The pool is the plain fold.** When the leaves of the skeleton are all the fragments, each once, resolving them
does not fail and gives what the fold over the tree gives. -/
theorem resolve_eq_build (filter : String) {n : Node} {leaves : List Expr}
    (hperm : n.leaves.Perm (List.range leaves.length)) (hleaf : ∀ i e, leaves[i]? = some e → leaf i = e) :
    resolve filter n leaves = .ok (n.build (fun _ => leaf) false) := by
  have hnodup : n.leaves.Nodup := hperm.nodup_iff.2 List.nodup_range
  have hheld : ∀ i ∈ n.leaves, Pool.held (leaves.map some) i = some (leaf i) := by
    intro i hi
    have hlt : i < leaves.length := List.mem_range.1 (hperm.mem_iff.1 hi)
    simp [Pool.held, List.getElem?_eq_getElem hlt, hleaf i _ (List.getElem?_eq_getElem hlt)]
  obtain ⟨key, q, hq, hcol⟩ := collapse_collapsed n false (leaves.map some) hnodup hheld
  have hslots : ∀ j, q.held j = if j = key then some (n.build (fun _ => leaf) false) else none := by
    intro j
    split_ifs with hj
    · rw [hj]
      exact hcol.held _ (List.mem_singleton.2 rfl)
    · refine hcol.spent j ?_ (by simpa using hj)
      rcases Nat.lt_or_ge j leaves.length with hlt | hge
      · exact Or.inl (hperm.mem_iff.2 (List.mem_range.2 hlt))
      · exact Or.inr (by rwa [List.length_map])
  rw [resolve, hq]
  simp only [Pool.single?_eq hslots]

end Collapse

/-! ## Negations -/

mutual

theorem Node.assignNegation_eq (negated : Bool) (tiles : List Tile) (n : Node) :
    n.assignNegation negated tiles =
      (n.signs negated).foldl (fun ts x => ts.modify x.1 (Tile.setNegated x.2)) tiles := by
  match n with
  | .leaf i => rfl
  | .group c ns =>
    rw [Node.assignNegation, Node.signs]
    exact Node.assignNegations_eq (negated ^^ (c == .not)) tiles ns

theorem Node.assignNegations_eq (negated : Bool) (tiles : List Tile) (ns : List Node) :
    Node.assignNegations negated tiles ns =
      (Node.signsAll negated ns).foldl (fun ts x => ts.modify x.1 (Tile.setNegated x.2)) tiles := by
  match ns with
  | [] => rfl
  | n :: ns =>
    rw [Node.assignNegations, Node.signsAll, List.foldl_append, Node.assignNegation_eq, Node.assignNegations_eq]

end

/-- the last assignment to a place counts; with one for each place, that one -/
theorem getElem?_foldl_modify {xs : List (ℕ × Bool)} (tiles : List Tile) (hnodup : (xs.map Prod.fst).Nodup) :
    (∀ x ∈ xs, (xs.foldl (fun ts x => ts.modify x.1 (Tile.setNegated x.2)) tiles)[x.1]? =
      tiles[x.1]?.map (Tile.setNegated x.2)) ∧
    ∀ i, i ∉ xs.map Prod.fst →
      (xs.foldl (fun ts x => ts.modify x.1 (Tile.setNegated x.2)) tiles)[i]? = tiles[i]? := by
  induction xs generalizing tiles with
  | nil => exact ⟨by simp, fun _ _ => rfl⟩
  | cons y xs ih =>
    rw [List.map_cons, List.nodup_cons] at hnodup
    obtain ⟨h1, h2⟩ := ih (tiles.modify y.1 (Tile.setNegated y.2)) hnodup.2
    rw [List.foldl_cons]
    refine ⟨fun x hx => ?_, fun i hi => ?_⟩
    · rcases List.mem_cons.1 hx with rfl | hx
      · rw [h2 x.1 hnodup.1, List.getElem?_modify_eq]; rfl
      · have hne : y.1 ≠ x.1 := fun h => hnodup.1 (h ▸ List.mem_map_of_mem hx)
        rw [h1 x hx, List.getElem?_modify_ne _ _ hne]
    · rw [List.map_cons, List.mem_cons, not_or] at hi
      rw [h2 i hi.2, List.getElem?_modify_ne _ _ (Ne.symm hi.1)]

@[simp]
theorem length_foldl_modify (xs : List (ℕ × Bool)) (tiles : List Tile) :
    (xs.foldl (fun ts x => ts.modify x.1 (Tile.setNegated x.2)) tiles).length = tiles.length := by
  induction xs generalizing tiles with
  | nil => rfl
  | cons x xs ih => simp [ih]

/-- the leaf of comparison `i` under a negation; a number no comparison has stands for nothing -/
def leafOf (o : Options) (tiles : List Tile) (negated : Bool) (i : ℕ) : Expr :=
  ((tiles[i]?.map (Tile.setNegated negated)).map fun t => t.comparison.toExpr o).getD (.and [])

/-- **Negations reach their leaves.** Assigning negations and resolving is the plain fold in which every leaf stands
under the negation of its own place. -/
theorem resolve_assigned (o : Options) (filter : String) {n : Node} {tiles : List Tile}
    (hperm : n.leaves.Perm (List.range tiles.length)) :
    resolve filter n ((n.assignNegation false tiles).map fun t => t.comparison.toExpr o) =
      .ok (n.build (leafOf o tiles) false) := by
  have hnodup : n.leaves.Nodup := hperm.nodup_iff.2 List.nodup_range
  obtain ⟨hget, -⟩ := getElem?_foldl_modify tiles ((n.signs_fst false).symm ▸ hnodup)
  set final := (n.signs false).foldl (fun ts x => ts.modify x.1 (Tile.setNegated x.2)) tiles with hfinal
  have hlen : final.length = tiles.length := length_foldl_modify _ _
  rw [Node.assignNegation_eq, ← hfinal]
  set value : ℕ → Expr := fun i => ((final[i]?).map fun t => t.comparison.toExpr o).getD (.and []) with hvalue
  have hbuild : n.build (fun _ => value) false = n.build (leafOf o tiles) false := by
    refine Node.build_congr fun x hx => ?_
    rw [hvalue, leafOf, ← hget x hx]
  rw [← hbuild]
  refine resolve_eq_build filter (by rwa [List.length_map, hlen]) fun i e he => ?_
  rw [List.getElem?_map] at he
  rw [hvalue]
  simp only [he, Option.getD_some]

end SearchFilter
