/-
The custody of fragments.

While a skeleton is resolved, every number that turns up is a leaf's or a new group's, and each is either taken out of the
pool once or handed up. This is kept as a balance (`collapse_balanced`): leaves and new slots together are, up to order, the
slots emptied and the number handed up.
- `resolve_eq_fold`: over leaves that are all used once nothing is refused, and the result is a fold over the tree that
  counts negations and knows neither numbers nor a pool.
- `collapse_live`: the number handed up is that of a fragment in the pool, unless the skeleton is a leaf under groups of one
  child. Such a skeleton is never looked up (`Node.Bare`).
- `resolve_eq_ok_iff`: hence resolving succeeds exactly when each fragment is used once, or the skeleton is bare and there is
  one fragment, which is then the result whatever the leaf's number is.
-/
import Mathlib
import SearchFilter.Proofs.Flattening

namespace SearchFilter

/-! ## The fold that counts negations -/

/-- what a group adds to the NOT groups above its children -/
def Connective.negations : Connective → ℕ
  | .not => 1
  | _ => 0

/-- Whether a group joins its children by AND when it is below so many NOT groups, itself counted: AND and NOT groups do
under an even number of them, OR groups under an odd one. -/
def Connective.conjoins : Connective → ℕ → Bool
  | .or, negations => negations % 2 == 1
  | _, negations => negations % 2 == 0

namespace Node

mutual

/-- the predicate of a node below `negations` NOT groups, if it has leaves for all its numbers -/
def fold (leaves : List Expr) (negations : ℕ) : Node → Option Expr
  | .leaf i => leaves[i]?
  | .group c ns =>
    (foldAll leaves (negations + c.negations) ns).map (Expr.combine (c.conjoins (negations + c.negations)))

def foldAll (leaves : List Expr) (negations : ℕ) : List Node → Option (List Expr)
  | [] => some []
  | n :: ns => (n.fold leaves negations).bind fun e => (foldAll leaves negations ns).map (e :: ·)

end

theorem odd_add_negations (c : Connective) (negations : ℕ) :
    ((negations + c.negations) % 2 == 1) = ((negations % 2 == 1) ^^ (c == .not)) := by
  rcases Nat.mod_two_eq_zero_or_one negations with h | h <;> cases c <;> simp [Connective.negations, h, Nat.add_mod]

theorem conjoins_eq (c : Connective) (negations : ℕ) : c.conjoins negations = c.isConjunction (negations % 2 == 1) := by
  rcases Nat.mod_two_eq_zero_or_one negations with h | h <;> cases c <;>
    simp [Connective.conjoins, Connective.isConjunction, h]

theorem foldAll_eq_some {leaves : List Expr} {negations : ℕ} {f : Node → Expr} {ns : List Node}
    (h : ∀ n ∈ ns, n.fold leaves negations = some (f n)) : foldAll leaves negations ns = some (ns.map f) := by
  induction ns with
  | nil => rfl
  | cons n ns ih =>
    rw [foldAll, h n List.mem_cons_self, ih fun m hm => h m (List.mem_cons_of_mem n hm)]
    rfl

/-- only whether the number of negations is odd counts -/
theorem fold_eq_build {leaves : List Expr} {leaf : ℕ → Expr} {n : Node} (negations : ℕ)
    (h : ∀ i ∈ n.leaves, leaves[i]? = some (leaf i)) :
    n.fold leaves negations = some (n.build (fun _ => leaf) (negations % 2 == 1)) := by
  induction n generalizing negations with
  | leaf i => exact h i (List.mem_singleton.2 rfl)
  | group c ns ih =>
    have hns : ∀ n ∈ ns, n.fold leaves (negations + c.negations) =
        some (n.build (fun _ => leaf) ((negations + c.negations) % 2 == 1)) := by
      intro n hn
      exact ih n hn _ fun i hi => h i (mem_leaves_group.2 ⟨n, hn, hi⟩)
    rw [fold, foldAll_eq_some hns, Option.map_some, build_group, conjoins_eq, odd_add_negations]

end Node

/-- resolving succeeds when collapsing does and leaves one fragment behind -/
theorem resolve_eq_ok {filter : String} {n : Node} {leaves : List Expr} {e : Expr} : resolve filter n leaves = .ok e ↔
    ∃ key p, n.collapse false (leaves.map some) = .ok (key, p) ∧ p.single? = some e := by
  rw [resolve]
  cases n.collapse false (leaves.map some) with
  | error f => simp
  | ok collapsed =>
    obtain ⟨key, p⟩ := collapsed
    cases hsingle : p.single? with
    | none => simp [hsingle]
    | some x => simp [hsingle]

/-- over leaves that are all used once resolving is the fold -/
theorem exists_fold (filter : String) {n : Node} {leaves : List Expr} (hperm : n.leaves.Perm (List.range leaves.length)) :
    ∃ e, n.fold leaves 0 = some e ∧ resolve filter n leaves = .ok e := by
  set leaf : ℕ → Expr := fun i => leaves[i]?.getD (.and []) with hleaf
  refine ⟨n.build (fun _ => leaf) false, n.fold_eq_build 0 fun i hi => ?_, ?_⟩
  · have hlt : i < leaves.length := List.mem_range.1 (hperm.mem_iff.1 hi)
    simp [hleaf, hlt]
  · exact resolve_eq_build filter hperm fun i e he => by simp [hleaf, he]

/-- **Resolving is folding.**
- Over leaves whose numbers are those of the fragments, each once, collapsing is not refused, leaves one fragment behind, and
  that is the fold, which is thus what resolving gives.
- A skeleton that is built from tiles has children in every group and is over the fragments of these tiles, each once. -/
theorem resolve_eq_fold (filter : String) :
    (∀ (n : Node) (leaves : List Expr), n.leaves.Perm (List.range leaves.length) →
      ∃ e key p, n.fold leaves 0 = some e ∧ n.collapse false (leaves.map some) = .ok (key, p) ∧ p.single? = some e ∧
        resolve filter n leaves = .ok e) ∧
    ∀ (tiles : List Tile) (n : Node), skeleton filter tiles = .ok n →
      n.Proper ∧ n.leaves.Perm (List.range tiles.length) := by
  constructor
  · intro n leaves hperm
    obtain ⟨e, hfold, hresolve⟩ := exists_fold filter hperm
    obtain ⟨key, p, hcollapse, hsingle⟩ := resolve_eq_ok.1 hresolve
    exact ⟨e, key, p, hfold, hcollapse, hsingle, hresolve⟩
  · intro tiles n h
    obtain ⟨hbuildable, hleaves, -⟩ := skeleton_eq_ok_imp h
    exact ⟨hbuildable.proper, hleaves ▸ List.Perm.refl _⟩

/-- NOT over two leaves below no other NOT is an OR, and NOT over one leaf is that leaf -/
theorem resolve_eq_fold_nested :
    (Node.leaves (.group .and [.group .not [.leaf 2], .group .not [.leaf 0, .leaf 1]])).Perm (List.range 3) ∧
    resolve "f" (.group .and [.group .not [.leaf 2], .group .not [.leaf 0, .leaf 1]])
        [.present "a", .present "b", .present "c"] =
      .ok (.and [.present "c", .or [.present "a", .present "b"]]) ∧
    skeleton "f" [⟨"(!", 0, ⟨"a", .equal, "1", true⟩⟩, ⟨"", 1, ⟨"b", .equal, "2", false⟩⟩] =
      .ok (.group .not [.leaf 0, .leaf 1]) ∧
    Node.Proper (.group .not [.leaf 0, .leaf 1]) := by
  have hperm : (Node.leaves (.group .and [.group .not [.leaf 2], .group .not [.leaf 0, .leaf 1]])).Perm (List.range 3) := by
    decide
  have hskeleton : skeleton "f" [⟨"(!", 0, ⟨"a", .equal, "1", true⟩⟩, ⟨"", 1, ⟨"b", .equal, "2", false⟩⟩] =
      .ok (.group .not [.leaf 0, .leaf 1]) := by
    rfl
  obtain ⟨hresolves, hskeletons⟩ := resolve_eq_fold "f"
  obtain ⟨e, key, p, hfold, -, -, hresolve⟩ := hresolves _ [.present "a", .present "b", .present "c"] hperm
  refine ⟨hperm, ?_, hskeleton, (hskeletons _ _ hskeleton).1⟩
  rw [hresolve]
  exact congrArg Except.ok (Option.some.inj hfold).symm

/-! ## Slots that are emptied -/

namespace Pool

/-- there is a fragment in the slot -/
def Live (p : Pool) (key : ℕ) : Prop := (p.held key).isSome = true

theorem Live.lt {p : Pool} {key : ℕ} (h : p.Live key) : key < p.length := by
  obtain ⟨e, he⟩ := Option.isSome_iff_exists.1 h
  exact held_lt he

/-- the slots of `q` that `p` does not have yet -/
def fresh (p q : Pool) : List ℕ := List.range' p.length (q.length - p.length)

/-- From `p` to `q` the slots `taken` were emptied, each once, new ones were filled, and the others are as before. -/
structure Spent (p q : Pool) (taken : List ℕ) : Prop where
  grows : p.length ≤ q.length
  nodup : taken.Nodup
  within : ∀ j ∈ taken, j < q.length ∧ (p.Live j ∨ p.length ≤ j)
  live : ∀ j, q.Live j ↔ j ∉ taken ∧ (p.Live j ∨ p.length ≤ j ∧ j < q.length)

theorem Spent.refl (p : Pool) : Spent p p [] where
  grows := le_rfl
  nodup := List.nodup_nil
  within := by simp
  live j := by
    constructor
    · exact fun h => ⟨List.not_mem_nil, Or.inl h⟩
    · rintro ⟨-, h | ⟨h1, h2⟩⟩
      · exact h
      · omega

/-- what one stretch of work empties, the next cannot -/
theorem Spent.trans {p q r : Pool} {taken1 taken2 : List ℕ} (h1 : Spent p q taken1) (h2 : Spent q r taken2) :
    Spent p r (taken1 ++ taken2) := by
  have hgrows1 := h1.grows
  have hgrows2 := h2.grows
  have apart : ∀ j ∈ taken1, ¬ (q.Live j ∨ q.length ≤ j) := by
    rintro j hj (hlive | hge)
    · exact ((h1.live j).1 hlive).1 hj
    · have := (h1.within j hj).1
      omega
  refine ⟨hgrows1.trans hgrows2, ?_, fun j hj => ?_, fun j => ?_⟩
  · exact h1.nodup.append h2.nodup fun j hj1 hj2 => apart j hj1 (h2.within j hj2).2
  · rcases List.mem_append.1 hj with hj | hj
    · obtain ⟨hlt, hold⟩ := h1.within j hj
      exact ⟨hlt.trans_le hgrows2, hold⟩
    · obtain ⟨hlt, hlive | hge⟩ := h2.within j hj
      · exact ⟨hlt, ((h1.live j).1 hlive).2.imp_right And.left⟩
      · exact ⟨hlt, Or.inr (hgrows1.trans hge)⟩
  · rw [h2.live, List.mem_append, not_or]
    constructor
    · rintro ⟨hj2, hlive | ⟨hge, hlt⟩⟩
      · obtain ⟨hj1, hold⟩ := (h1.live j).1 hlive
        exact ⟨⟨hj1, hj2⟩, hold.imp_right fun h => ⟨h.1, h.2.trans_le hgrows2⟩⟩
      · exact ⟨⟨fun hj1 => apart j hj1 (Or.inr hge), hj2⟩, Or.inr ⟨hgrows1.trans hge, hlt⟩⟩
    · rintro ⟨⟨hj1, hj2⟩, hold⟩
      refine ⟨hj2, ?_⟩
      rcases Nat.lt_or_ge j q.length with hlt | hge
      · exact Or.inl ((h1.live j).2 ⟨hj1, hold.imp_right fun h => ⟨h.1, hlt⟩⟩)
      · rcases hold with hlive | ⟨-, hlt⟩
        · have := hlive.lt
          omega
        · exact Or.inr ⟨hge, hlt⟩

theorem spent_take {p q : Pool} {key : ℕ} {e : Expr} (h : p.take? key = some (e, q)) :
    Spent p q [key] ∧ q.length = p.length := by
  rw [take?] at h
  split at h
  · rename_i x hx
    obtain ⟨rfl, rfl⟩ := by simpa using h
    have hheld : p.held key = some x := by rw [held, hx]; rfl
    refine ⟨⟨by rw [List.length_set], List.nodup_singleton key, fun j hj => ?_, fun j => ?_⟩, List.length_set⟩
    · obtain rfl := List.mem_singleton.1 hj
      rw [List.length_set]
      exact ⟨held_lt hheld, Or.inl (by rw [Live, hheld]; rfl)⟩
    · rw [Live, held_set, List.mem_singleton, List.length_set]
      by_cases hj : j = key
      · simp [hj]
      · rw [if_neg hj]
        constructor
        · exact fun hlive => ⟨hj, Or.inl hlive⟩
        · rintro ⟨-, hlive | ⟨hge, hlt⟩⟩
          · exact hlive
          · omega
  · cases h

theorem spent_takeAll {p q : Pool} {keys : List ℕ} {es : List Expr} (h : p.takeAll? keys = some (es, q)) :
    Spent p q keys ∧ q.length = p.length := by
  induction keys generalizing p es with
  | nil =>
    obtain ⟨-, rfl⟩ := by simpa [takeAll?] using h
    exact ⟨.refl p, rfl⟩
  | cons key keys ih =>
    rw [takeAll?] at h
    split at h
    · cases h
    · rename_i e r htake
      split at h
      · cases h
      · rename_i es' q' htakeAll
        obtain ⟨-, rfl⟩ := by simpa using h
        obtain ⟨h1, hlen1⟩ := spent_take htake
        obtain ⟨h2, hlen2⟩ := ih htakeAll
        exact ⟨h1.trans h2, hlen2.trans hlen1⟩

theorem spent_push (p : Pool) (e : Expr) : Spent p (p ++ [some e]) [] where
  grows := by simp
  nodup := List.nodup_nil
  within := by simp
  live j := by
    rw [Live, held_push, List.length_append, List.length_singleton]
    by_cases hj : j = p.length
    · simp [hj]
    · rw [if_neg hj]
      constructor
      · exact fun hlive => ⟨List.not_mem_nil, Or.inl hlive⟩
      · rintro ⟨-, hlive | ⟨hge, hlt⟩⟩
        · exact hlive
        · omega

theorem fresh_trans {p q r : Pool} (hpq : p.length ≤ q.length) (hqr : q.length ≤ r.length) :
    fresh p r = fresh p q ++ fresh q r := by
  have hsplit : r.length - p.length = (q.length - p.length) + (r.length - q.length) := by omega
  have hstart : p.length + (q.length - p.length) = q.length := by omega
  rw [fresh, fresh, fresh, hsplit, ← List.range'_append_1, hstart]

theorem not_live_of_filterMap {p : Pool} (h : p.filterMap id = []) (j : ℕ) : ¬ p.Live j := by
  intro hlive
  obtain ⟨e, he⟩ := Option.isSome_iff_exists.1 hlive
  have hget : p[j]? = some (some e) := Option.join_eq_some_iff.1 he
  exact absurd (List.filterMap_eq_nil_iff.1 h _ (List.mem_of_getElem? hget)) (by simp)

/-- a pool with one fragment has it in one slot -/
theorem live_unique {p : Pool} {e : Expr} (h : p.single? = some e) {i j : ℕ} (hi : p.Live i) (hj : p.Live j) : i = j := by
  have hlist : ∃ x, p.filterMap id = [x] := by
    rw [single?] at h
    split at h
    · rename_i x hx
      exact ⟨x, hx⟩
    · cases h
  obtain ⟨x, hx⟩ := hlist
  clear h
  induction p generalizing i j with
  | nil => simp at hx
  | cons slot p ih =>
    cases slot with
    | none =>
      cases i with
      | zero => simp [Live, held] at hi
      | succ i =>
        cases j with
        | zero => simp [Live, held] at hj
        | succ j => rw [ih (i := i) (j := j) hi hj hx]
    | some y =>
      obtain ⟨-, hnil⟩ : y = x ∧ p.filterMap id = [] := by simpa using hx
      cases i with
      | succ i => exact absurd hi (not_live_of_filterMap hnil i)
      | zero =>
        cases j with
        | succ j => exact absurd hj (not_live_of_filterMap hnil j)
        | zero => rfl

theorem live_map_some {leaves : List Expr} {j : ℕ} : Live (leaves.map some) j ↔ j < leaves.length := by
  rw [Live, held, List.getElem?_map]
  rcases Nat.lt_or_ge j leaves.length with h | h
  · simp [h]
  · simp [Nat.not_lt.2 h]

theorem single?_map_some {leaves : List Expr} {e : Expr} : single? (leaves.map some) = some e ↔ leaves = [e] := by
  have hid : (leaves.map some).filterMap id = leaves := by simp
  rw [single?, hid]
  rcases leaves with - | ⟨x, - | ⟨y, rest⟩⟩ <;> simp

/-! ## The balance -/

/-- From `p` to `q` over the leaves `used` the keys `keys` are handed up: leaves and new slots together are, up to order, the
slots emptied and these keys. -/
def Accounted (p q : Pool) (used keys : List ℕ) : Prop :=
  ∃ taken, p.Spent q taken ∧ (used ++ p.fresh q).Perm (taken ++ keys)

theorem Accounted.refl (p : Pool) (keys : List ℕ) : Accounted p p keys keys :=
  ⟨[], .refl p, by simp [fresh]⟩

theorem Accounted.append {p q r : Pool} {used1 used2 keys1 keys2 : List ℕ} (h1 : Accounted p q used1 keys1)
    (h2 : Accounted q r used2 keys2) : Accounted p r (used1 ++ used2) (keys1 ++ keys2) := by
  obtain ⟨taken1, hspent1, hperm1⟩ := h1
  obtain ⟨taken2, hspent2, hperm2⟩ := h2
  refine ⟨taken1 ++ taken2, hspent1.trans hspent2, ?_⟩
  rw [fresh_trans hspent1.grows hspent2.grows]
  rw [List.perm_iff_count] at hperm1 hperm2 ⊢
  intro j
  have h1 := hperm1 j
  have h2 := hperm2 j
  simp only [List.count_append] at h1 h2 ⊢
  omega

/-- the keys handed up are taken out, and one fragment put in their place -/
theorem Accounted.replace {p q r : Pool} {used keys : List ℕ} {es : List Expr} (h : Accounted p q used keys)
    (htake : q.takeAll? keys = some (es, r)) (e : Expr) : Accounted p (r ++ [some e]) used [r.length] := by
  obtain ⟨taken, hspent, hperm⟩ := h
  obtain ⟨hkeys, hlen⟩ := spent_takeAll htake
  have hlater : q.Spent (r ++ [some e]) keys := by simpa using hkeys.trans (spent_push r e)
  have hnew : q.fresh (r ++ [some e]) = [r.length] := by simp [fresh, hlen]
  refine ⟨taken ++ keys, hspent.trans hlater, ?_⟩
  rw [fresh_trans hspent.grows hlater.grows, hnew, ← List.append_assoc]
  exact hperm.append_right _

end Pool

namespace Node

/-- a leaf under groups of one child, which are no groups to the resolver -/
inductive Bare : Node → Prop
  | leaf (i : ℕ) : Bare (.leaf i)
  | group (c : Connective) {n : Node} (h : Bare n) : Bare (.group c [n])

theorem collapseAll_cons_eq_ok {negated : Bool} {p q : Pool} {n : Node} {ns : List Node} {keys : List ℕ} :
    collapseAll negated p (n :: ns) = .ok (keys, q) ↔ ∃ key r rest, n.collapse negated p = .ok (key, r) ∧
      collapseAll negated r ns = .ok (rest, q) ∧ keys = key :: rest := by
  rw [collapseAll]
  rcases n.collapse negated p with f | ⟨key, r⟩
  · simp
  · rcases hrest : collapseAll negated r ns with f | ⟨rest, s⟩
    · simp [hrest]
    · simp [hrest, and_comm, eq_comm]

/-- a group hands up the one key of its children, or takes their fragments out and puts in its own -/
theorem collapse_group_cases {c : Connective} {ns : List Node} {negated : Bool} {p q : Pool} {key : ℕ} :
    (group c ns).collapse negated p = .ok (key, q) → ∃ keys r,
      collapseAll (negated ^^ (c == .not)) p ns = .ok (keys, r) ∧
      (keys = [key] ∧ q = r ∨ ∃ es s, r.takeAll? keys = some (es, s) ∧ key = s.length ∧
        q = s ++ [some (Expr.join (c.isConjunction (negated ^^ (c == .not))) es)]) := by
  intro h
  rw [collapse] at h
  split at h
  · cases h
  · rename_i k r hall
    obtain ⟨rfl, rfl⟩ := by simpa using h
    exact ⟨_, _, hall, Or.inl ⟨rfl, rfl⟩⟩
  · rename_i keys r _ hall
    split at h
    · cases h
    · rename_i es s htake
      obtain ⟨rfl, rfl⟩ := by simpa using h
      exact ⟨_, _, hall, Or.inr ⟨es, s, htake, rfl, rfl⟩⟩

theorem length_collapseAll {negated : Bool} {ns : List Node} {p q : Pool} {keys : List ℕ}
    (h : collapseAll negated p ns = .ok (keys, q)) : keys.length = ns.length := by
  induction ns generalizing p keys with
  | nil =>
    obtain ⟨rfl, rfl⟩ := by simpa [collapseAll] using h
    rfl
  | cons n ns ih =>
    obtain ⟨key, r, rest, -, hns, rfl⟩ := collapseAll_cons_eq_ok.1 h
    exact congrArg (· + 1) (ih hns)

theorem collapseAll_balanced {negated : Bool} {ns : List Node} {p q : Pool} {keys : List ℕ}
    (ih : ∀ n ∈ ns, ∀ (p q : Pool) (key : ℕ), n.collapse negated p = .ok (key, q) → p.Accounted q n.leaves [key])
    (h : collapseAll negated p ns = .ok (keys, q)) : p.Accounted q (ns.flatMap leaves) keys := by
  induction ns generalizing p keys with
  | nil =>
    obtain ⟨rfl, rfl⟩ := by simpa [collapseAll] using h
    exact .refl p []
  | cons n ns ihns =>
    obtain ⟨key, r, rest, hn, hns, rfl⟩ := collapseAll_cons_eq_ok.1 h
    exact (ih n List.mem_cons_self p r key hn).append (ihns (fun m hm => ih m (List.mem_cons_of_mem n hm)) hns)

/-- **The balance of collapsing.** Whatever the numbers of the leaves are, when collapsing is not refused each of them, and
of the new slots, was taken out once or is the key handed up. -/
theorem collapse_balanced {n : Node} {negated : Bool} {p q : Pool} {key : ℕ} (h : n.collapse negated p = .ok (key, q)) :
    p.Accounted q n.leaves [key] := by
  induction n generalizing negated p q key with
  | leaf i =>
    obtain ⟨rfl, rfl⟩ := by simpa [collapse] using h
    exact .refl p [i]
  | group c ns ih =>
    obtain ⟨keys, r, hall, hdone⟩ := collapse_group_cases h
    have hkeys := collapseAll_balanced (fun n hn p q key => ih n hn) hall
    rw [leaves_group]
    rcases hdone with ⟨rfl, rfl⟩ | ⟨es, s, htake, rfl, rfl⟩
    · exact hkeys
    · exact hkeys.replace htake _

/-- the key handed up is that of a fragment in the pool, unless nothing was looked up at all -/
theorem collapse_live {n : Node} {negated : Bool} {p q : Pool} {key : ℕ} (h : n.collapse negated p = .ok (key, q)) :
    n.Bare ∨ q.Live key := by
  induction n generalizing negated p q key with
  | leaf i => exact Or.inl (.leaf i)
  | group c ns ih =>
    obtain ⟨keys, r, hall, hdone⟩ := collapse_group_cases h
    rcases hdone with ⟨rfl, rfl⟩ | ⟨es, s, htake, rfl, rfl⟩
    · obtain ⟨n, rfl⟩ := List.length_eq_one_iff.1 (length_collapseAll hall).symm
      obtain ⟨k, r, rest, hn, hnil, heq⟩ := collapseAll_cons_eq_ok.1 hall
      obtain ⟨rfl, rfl⟩ := by simpa [collapseAll] using hnil
      obtain rfl : key = k := by simpa using heq
      exact (ih n (List.mem_singleton.2 rfl) hn).imp_left (.group c)
    · right
      simp [Pool.Live]

theorem Bare.collapse_eq {n : Node} (h : n.Bare) : ∃ i, ∀ negated p, n.collapse negated p = .ok (i, p) := by
  induction h with
  | leaf i => exact ⟨i, fun _ _ => rfl⟩
  | group c _ ih =>
    obtain ⟨i, hcollapse⟩ := ih
    refine ⟨i, fun negated p => ?_⟩
    rw [collapse, collapseAll, hcollapse]
    rfl

theorem collapseAll_error {negated : Bool} {p : Pool} {ns : List Node} {f : Fault}
    (h : collapseAll negated p ns = .error f) : ∃ n ∈ ns, ∃ q, n.collapse negated q = .error f := by
  induction ns generalizing p with
  | nil => cases h
  | cons n ns ih =>
    rw [collapseAll] at h
    split at h
    · rename_i hn
      cases h
      exact ⟨n, List.mem_cons_self, p, hn⟩
    · split at h
      · rename_i hns
        cases h
        obtain ⟨m, hm, q, hq⟩ := ih hns
        exact ⟨m, List.mem_cons_of_mem n hm, q, hq⟩
      · cases h

theorem collapse_error {n : Node} {negated : Bool} {p : Pool} {f : Fault} (h : n.collapse negated p = .error f) :
    f = .unresolvable := by
  induction n generalizing negated p with
  | leaf i => cases h
  | group c ns ih =>
    rw [collapse] at h
    split at h
    · rename_i hall
      cases h
      obtain ⟨n, hn, q, hq⟩ := collapseAll_error hall
      exact ih n hn hq
    · cases h
    · split at h
      · cases h
        rfl
      · cases h

end Node

/-! ## What resolving accepts -/

/-- a skeleton that is looked up, and leaves one fragment behind, has used each fragment once -/
theorem perm_of_collapse {n : Node} {leaves : List Expr} {key : ℕ} {q : Pool} {e : Expr}
    (h : n.collapse false (leaves.map some) = .ok (key, q)) (hlive : q.Live key) (hsingle : q.single? = some e) :
    n.leaves.Perm (List.range leaves.length) := by
  obtain ⟨taken, hspent, hperm⟩ := n.collapse_balanced h
  have hkey : key ∉ taken := ((hspent.live key).1 hlive).1
  have hnodup : (taken ++ [key]).Nodup := by
    refine hspent.nodup.append (List.nodup_singleton key) fun j hj hj' => ?_
    exact hkey (List.mem_singleton.1 hj' ▸ hj)
  have hgrows : leaves.length ≤ q.length := by simpa using hspent.grows
  -- a slot that was not emptied has a fragment, and only that of `key` is left
  have hmem : ∀ j, j ∈ taken ++ [key] ↔ j ∈ List.range q.length := by
    intro j
    rw [List.mem_append, List.mem_singleton, List.mem_range]
    constructor
    · rintro (hj | rfl)
      · exact (hspent.within j hj).1
      · exact hlive.lt
    · intro hlt
      by_cases hj : j ∈ taken
      · exact Or.inl hj
      · refine Or.inr (Pool.live_unique hsingle ((hspent.live j).2 ⟨hj, ?_⟩) hlive)
        rw [Pool.live_map_some, List.length_map]
        omega
  have hall : (n.leaves ++ Pool.fresh (leaves.map some) q).Perm (List.range q.length) :=
    hperm.trans ((List.perm_ext_iff_of_nodup hnodup List.nodup_range).2 hmem)
  have hsplit : List.range q.length = List.range leaves.length ++ Pool.fresh (leaves.map some) q := by
    rw [Pool.fresh, List.length_map, List.range_eq_range', List.range_eq_range']
    have := List.range'_append_1 (s := 0) (m := leaves.length) (n := q.length - leaves.length)
    rw [Nat.zero_add, Nat.add_sub_cancel' hgrows] at this
    exact this.symm
  rw [hsplit] at hall
  exact (List.perm_append_right_iff _).1 hall

theorem resolve_accepts {filter : String} {n : Node} {leaves : List Expr} {e : Expr} :
    resolve filter n leaves = .ok e ↔
      n.leaves.Perm (List.range leaves.length) ∧ n.fold leaves 0 = some e ∨ n.Bare ∧ leaves = [e] := by
  constructor
  · intro h
    obtain ⟨key, q, hcollapse, hsingle⟩ := resolve_eq_ok.1 h
    rcases n.collapse_live hcollapse with hbare | hlive
    · obtain ⟨i, hsame⟩ := hbare.collapse_eq
      obtain ⟨-, rfl⟩ : i = key ∧ leaves.map some = q := by simpa [hsame] using hcollapse
      exact Or.inr ⟨hbare, Pool.single?_map_some.1 hsingle⟩
    · have hperm := perm_of_collapse hcollapse hlive hsingle
      obtain ⟨x, hfold, hresolve⟩ := exists_fold filter hperm
      obtain rfl : x = e := by simpa [hresolve] using h
      exact Or.inl ⟨hperm, hfold⟩
  · rintro (⟨hperm, hfold⟩ | ⟨hbare, hone⟩)
    · obtain ⟨x, hx, hresolve⟩ := exists_fold filter hperm
      obtain rfl : x = e := by simpa [hx] using hfold
      exact hresolve
    · obtain ⟨i, hsame⟩ := hbare.collapse_eq
      exact resolve_eq_ok.2 ⟨i, leaves.map some, hsame _ _, Pool.single?_map_some.2 hone⟩

theorem resolve_error {filter : String} {n : Node} {leaves : List Expr} {f : FilterError}
    (h : resolve filter n leaves = .error f) : f = ⟨.unresolvable, filter⟩ := by
  rw [resolve] at h
  split at h
  · rename_i hcollapse
    cases h
    rw [n.collapse_error hcollapse]
  · split at h <;> cases h
    rfl

/-- **What resolving accepts.** For any skeleton, whatever the numbers of its leaves:
- It succeeds exactly when the numbers are those of the fragments, each once, and then with the fold; and when the skeleton
  is bare and there is one fragment, and then with that fragment whatever the number is.
- It is refused otherwise, as unresolvable. -/
theorem resolve_eq_ok_iff (filter : String) (n : Node) (leaves : List Expr) :
    (∀ e, resolve filter n leaves = .ok e ↔
      n.leaves.Perm (List.range leaves.length) ∧ n.fold leaves 0 = some e ∨ n.Bare ∧ leaves = [e]) ∧
    ∀ f, resolve filter n leaves = .error f ↔ f = ⟨.unresolvable, filter⟩ ∧
      ¬ n.leaves.Perm (List.range leaves.length) ∧ ¬ (n.Bare ∧ leaves.length = 1) := by
  refine ⟨fun e => resolve_accepts, fun f => ⟨fun h => ⟨resolve_error h, ?_, ?_⟩, ?_⟩⟩
  · intro hperm
    obtain ⟨e, -, hresolve⟩ := exists_fold filter hperm
    cases h.symm.trans hresolve
  · rintro ⟨hbare, hone⟩
    obtain ⟨e, rfl⟩ := List.length_eq_one_iff.1 hone
    cases h.symm.trans (resolve_accepts.2 (Or.inr ⟨hbare, rfl⟩))
  · rintro ⟨rfl, hperm, hbare⟩
    cases h : resolve filter n leaves with
    | error f => rw [resolve_error h]
    | ok e =>
      rcases resolve_accepts.1 h with ⟨hused, -⟩ | ⟨hn, rfl⟩
      · exact absurd hused hperm
      · exact absurd ⟨hn, rfl⟩ hbare

/-- a bare skeleton over one fragment is accepted though its leaf has the number of none -/
theorem resolve_eq_ok_iff_dangling : ¬ ∀ (filter : String) (n : Node) (leaves : List Expr) (e : Expr),
    resolve filter n leaves = .ok e → n.leaves.Perm (List.range leaves.length) := by
  intro h
  have hperm := h "f" (.leaf 5) [.present "a"] (.present "a") rfl
  exact absurd (hperm.mem_iff.1 (List.mem_singleton.2 rfl : 5 ∈ Node.leaves (.leaf 5))) (by simp)

end SearchFilter
