/-
Trees and the rows of runs they are flattened to.

Flattening a tree gives one run for each leaf, with the groups that open right before it and the number of groups that
close right after it. A row of runs is told by its tokens (`rows_injective`), and the tokens of a flattened tree are the
tree's own (`Node.tokens_flatten`). Arbitrary tiles are read as a row of runs whenever their markers are known
(`exists_reads`). Hence:
- `Node.within_iff`: what a finished root keeps is that groups have enough operands and are not nested too deep.
- `skeleton_eq_ok_imp`: a skeleton has its leaves numbered in order, over any row of tiles.
- `skeleton_flatten`: building a skeleton and flattening it undo each other.
-/
import Mathlib
import SearchFilter.Proofs.Duality

namespace SearchFilter

/-! ## Rows and their tokens -/

namespace Run

variable {α : Type}

/-- no row starts with a closing token -/
theorem head_tokens_ne (rs : List (Run α)) : (rs.flatMap tokens).head? ≠ some .closing := by
  cases rs with
  | nil => simp
  | cons r rs =>
    obtain ⟨cs, a, n⟩ := r
    cases cs <;> simp [tokens]

theorem openings_inj {cs ds : List Connective} {a b : α} {xs ys : List (Token α)}
    (h : cs.map .opening ++ .leaf a :: xs = ds.map .opening ++ .leaf b :: ys) : cs = ds ∧ a = b ∧ xs = ys := by
  induction cs generalizing ds with
  | nil =>
    cases ds with
    | nil => simpa using h
    | cons d ds => simp at h
  | cons c cs ih =>
    cases ds with
    | nil => simp at h
    | cons d ds =>
      simp only [List.map_cons, List.cons_append, List.cons.injEq, Token.opening.injEq] at h
      obtain ⟨rfl, hrest⟩ := ih h.2
      exact ⟨by rw [h.1], hrest⟩

theorem closings_inj {n m : ℕ} {xs ys : List (Token α)} (hxs : xs.head? ≠ some .closing) (hys : ys.head? ≠ some .closing)
    (h : List.replicate n .closing ++ xs = List.replicate m .closing ++ ys) : n = m ∧ xs = ys := by
  induction n generalizing m with
  | zero =>
    cases m with
    | zero => exact ⟨rfl, h⟩
    | succ m =>
      obtain rfl : xs = _ := h
      simp [List.replicate_succ] at hxs
  | succ n ih =>
    cases m with
    | zero =>
      obtain rfl : _ = ys := h
      simp [List.replicate_succ] at hys
    | succ m =>
      rw [List.replicate_succ, List.replicate_succ, List.cons_append, List.cons_append, List.cons.injEq] at h
      obtain ⟨rfl, hrest⟩ := ih h.2
      exact ⟨rfl, hrest⟩

/-- a row is told by its tokens -/
theorem rows_injective {rs ss : List (Run α)} (h : rs.flatMap tokens = ss.flatMap tokens) : rs = ss := by
  have hcons : ∀ (r : Run α) (rs : List (Run α)), (r :: rs).flatMap tokens ≠ [] := by
    intro r rs
    simp [tokens]
  induction rs generalizing ss with
  | nil =>
    cases ss with
    | nil => rfl
    | cons s ss => exact absurd h.symm (hcons s ss)
  | cons r rs ih =>
    cases ss with
    | nil => exact absurd h (hcons r rs)
    | cons s ss =>
      obtain ⟨cs, a, n⟩ := r
      obtain ⟨ds, b, m⟩ := s
      rw [List.flatMap_cons, List.flatMap_cons, tokens, tokens, List.append_assoc, List.append_assoc, List.cons_append,
        List.cons_append] at h
      obtain ⟨hopens, hleaf, hclosed⟩ := openings_inj h
      obtain ⟨hcloses, hrest⟩ := closings_inj (head_tokens_ne rs) (head_tokens_ne ss) hclosed
      obtain ⟨rfl, rfl, rfl⟩ : cs = ds ∧ a = b ∧ n = m := ⟨hopens, hleaf, hcloses⟩
      rw [ih hrest]

end Run

/-! ## Flattening -/

namespace Node

mutual

/-- one run for each leaf, with the groups that open right before it and the number of those that close right after it -/
def flatten : Node → List (Run ℕ)
  | .leaf i => [⟨[], i, 0⟩]
  | .group c ns => Run.enclose c (flattenAll ns)

def flattenAll : List Node → List (Run ℕ)
  | [] => []
  | n :: ns => n.flatten ++ flattenAll ns

end

/-- AND and OR groups have two children or more, NOT groups one or more -/
inductive Proper : Node → Prop
  | leaf (i : ℕ) : Proper (.leaf i)
  | not {ns : List Node} (children : 1 ≤ ns.length) (inner : ∀ n ∈ ns, Proper n) : Proper (.group .not ns)
  | and {ns : List Node} (children : 2 ≤ ns.length) (inner : ∀ n ∈ ns, Proper n) : Proper (.group .and ns)
  | or {ns : List Node} (children : 2 ≤ ns.length) (inner : ∀ n ∈ ns, Proper n) : Proper (.group .or ns)

/-- A tree as a filter is written: its groups have enough children and are nested within the limit, its leaves are numbered
from left to right. -/
structure Buildable (n : Node) : Prop where
  proper : n.Proper
  nesting : n.nesting ≤ maxDepth
  numbered : n.leaves = List.range n.leaves.length

@[simp]
theorem flattenAll_eq (ns : List Node) : flattenAll ns = ns.flatMap flatten := by
  induction ns with
  | nil => rfl
  | cons n ns ih => simp [flattenAll, ih]

@[simp]
theorem proper_group {c : Connective} {ns : List Node} :
    (group c ns).Proper ↔ c.admits ns.length = true ∧ ∀ n ∈ ns, n.Proper := by
  constructor
  · intro h
    cases h with
    | not children inner => exact ⟨decide_eq_true children, inner⟩
    | and children inner => exact ⟨decide_eq_true children, inner⟩
    | or children inner => exact ⟨decide_eq_true children, inner⟩
  · rintro ⟨children, inner⟩
    cases c with
    | not => exact .not (of_decide_eq_true children) inner
    | and => exact .and (of_decide_eq_true children) inner
    | or => exact .or (of_decide_eq_true children) inner

theorem nestingAll_le {ns : List Node} {k : ℕ} : nestingAll ns ≤ k ↔ ∀ n ∈ ns, n.nesting ≤ k := by
  induction ns with
  | nil => simp [nestingAll]
  | cons n ns ih => simp [nestingAll, ih]

theorem within_iff {n : Node} {k : ℕ} : n.Within k ↔ n.Proper ∧ n.nesting ≤ k := by
  constructor
  · intro h
    induction h with
    | leaf k i => exact ⟨.leaf i, Nat.zero_le k⟩
    | group operands _ ih =>
      exact ⟨proper_group.2 ⟨operands, fun n hn => (ih n hn).1⟩,
        Nat.succ_le_succ (nestingAll_le.2 fun n hn => (ih n hn).2)⟩
  · rintro ⟨hproper, hnesting⟩
    induction n generalizing k with
    | leaf i => exact .leaf k i
    | group c ns ih =>
      obtain ⟨operands, inner⟩ := proper_group.1 hproper
      obtain ⟨k, rfl⟩ : ∃ j, k = j + 1 := ⟨k - 1, by rw [nesting] at hnesting; omega⟩
      have hns := nestingAll_le.1 (Nat.le_of_succ_le_succ hnesting)
      exact .group operands fun n hn => ih n hn (inner n hn) (hns n hn)

/-- the tokens of a tree are those of the row it is flattened to -/
theorem tokens_flatten {n : Node} (h : n.Proper) : n.flatten ≠ [] ∧ n.flatten.flatMap Run.tokens = n.tokens := by
  induction n with
  | leaf i => exact ⟨List.cons_ne_nil _ _, rfl⟩
  | group c ns ih =>
    obtain ⟨operands, inner⟩ := proper_group.1 h
    obtain ⟨m, hm⟩ := List.exists_mem_of_length_pos (Connective.pos_of_admits operands)
    have hne : ns.flatMap flatten ≠ [] := fun hnil => (ih m hm (inner m hm)).1 (List.flatMap_eq_nil_iff.1 hnil m hm)
    obtain ⟨henclosed, htokens⟩ := Run.tokens_enclose c hne
    rw [flatten, flattenAll_eq]
    refine ⟨henclosed, ?_⟩
    simp [htokens, List.flatMap_assoc, List.flatMap_congr fun n hn => (ih n hn (inner n hn)).2]

theorem leaves_eq (n : Node) : n.tokens.filterMap Token.leaf? = n.leaves := by
  induction n with
  | leaf i => rfl
  | group c ns ih =>
    simp [List.filterMap_cons, List.filterMap_flatMap, List.flatMap_congr ih]

end Node

/-- leaves numbered in order keep their numbers -/
theorem numbered_eq_self {ts : List (Token ℕ)} {k m : ℕ} (h : ts.filterMap Token.leaf? = List.range' k m) :
    numbered k ts = ts := by
  induction ts generalizing k m with
  | nil => rfl
  | cons t ts ih =>
    cases t with
    | opening c => simp [ih h]
    | closing => simp [ih h]
    | leaf a =>
      cases m with
      | zero => simp at h
      | succ m =>
        rw [List.range'_succ] at h
        obtain ⟨rfl, h'⟩ := List.cons.inj h
        simp [ih h']

/-! ## What is read of arbitrary tiles -/

theorem exists_opens {ms : List UInt8} (h : ∀ m ∈ ms, ∃ c, Connective.ofByte? m = some c) :
    ∃ cs : List Connective, ms.map Connective.ofByte? = cs.map some := by
  induction ms with
  | nil => exact ⟨[], rfl⟩
  | cons m ms ih =>
    obtain ⟨⟨c, hc⟩, hms⟩ := List.forall_mem_cons.1 h
    obtain ⟨cs, hcs⟩ := ih hms
    exact ⟨c :: cs, by simp [hc, hcs]⟩

/-- tiles whose markers are known are read as runs -/
theorem exists_reads {k : ℕ} {tiles : List Tile}
    (h : ∀ m, .marker m ∈ Builder.rowActions k tiles → ∃ c, Connective.ofByte? m = some c) :
    ∃ rs : List (Run ℕ), rs.map Run.leaf = List.range' k tiles.length ∧ List.Forall₂ Run.Reads rs tiles := by
  induction tiles generalizing k with
  | nil => exact ⟨[], rfl, .nil⟩
  | cons t tiles ih =>
    rw [Builder.rowActions] at h
    obtain ⟨rs, hleaves, hall⟩ := ih fun m hm => h m (List.mem_append_right _ hm)
    have hknown : ∀ m ∈ Builder.markerBytes t.markers, ∃ c, Connective.ofByte? m = some c := by
      intro m hm
      apply h m
      simp [Builder.tileActions, hm]
    obtain ⟨cs, hcs⟩ := exists_opens hknown
    refine ⟨⟨cs, k, t.closing⟩ :: rs, ?_, .cons ⟨hcs, rfl⟩ hall⟩
    rw [List.map_cons, hleaves, List.length_cons, List.range'_succ]

/-- **Skeletons of arbitrary tiles.** The tree is within the limits, its leaves are the numbers of the tiles in order, and
the tiles, read byte by byte, are what it is flattened to. -/
theorem skeleton_eq_ok_imp {filter : String} {tiles : List Tile} {n : Node} (h : skeleton filter tiles = .ok n) :
    n.Buildable ∧ n.leaves = List.range tiles.length ∧ List.Forall₂ Run.Reads n.flatten tiles := by
  have hrun := Builder.skeleton_eq_ok_iff_performAll.1 h
  obtain ⟨htokens, hwithin⟩ := Builder.of_performAll_root hrun
  obtain ⟨rs, hleaves, hall⟩ := exists_reads (Builder.known_of_performAll hrun)
  have hnumbers : (rs.flatMap Run.tokens).filterMap Token.leaf? = List.range' 0 tiles.length := by
    rw [leaves_tokens, hleaves]
  rw [Builder.tokens_rowActions hall, numbered_eq_self hnumbers] at htokens
  obtain ⟨hproper, hnesting⟩ := Node.within_iff.1 hwithin
  have hrange : n.leaves = List.range tiles.length := by
    rw [← n.leaves_eq, htokens, hnumbers, List.range_eq_range']
  obtain rfl : n.flatten = rs := Run.rows_injective ((Node.tokens_flatten hproper).2.trans htokens)
  exact ⟨⟨hproper, hnesting, by simp [hrange]⟩, hrange, hall⟩

/-! ## Building and flattening -/

theorem Run.Reads.carries {α : Type} {r : Run α} {t : Tile} (h : r.Reads t)
    (hmarkers : ∃ cs, t.markers = String.ofList (Connective.markers cs)) : r.Carries t := by
  obtain ⟨cs, hcs⟩ := hmarkers
  have hopens := h.markers
  simp only [hcs, Builder.markerBytes_markers, List.map_map, Function.comp_def, Connective.ofByte?_byte] at hopens
  rw [List.map_inj_right fun _ _ => Option.some.inj] at hopens
  exact ⟨by rw [hcs, hopens], h.closing⟩

/-- **Building undoes flattening, and flattening undoes building.**
- Tiles that carry the runs of a tree with enough children in every group, nested within the limit and numbered from left
  to right, are built into that tree.
- Tiles whose markers open groups, and that are built into a tree, carry exactly the runs of that tree, and the tree is one
  of these, with one leaf for each tile. -/
theorem skeleton_flatten (filter : String) (tiles : List Tile) (n : Node) :
    (n.Buildable → List.Forall₂ Run.Carries n.flatten tiles → skeleton filter tiles = .ok n) ∧
    ((∀ t ∈ tiles, ∃ cs, t.markers = String.ofList (Connective.markers cs)) → skeleton filter tiles = .ok n →
      n.Buildable ∧ n.leaves.length = tiles.length ∧ List.Forall₂ Run.Carries n.flatten tiles) := by
  constructor
  · intro h hcarries
    have htokens := (Node.tokens_flatten h.proper).2
    refine (skeleton_eq_ok hcarries filter).2 ⟨?_, Node.within_iff.2 ⟨h.proper, h.nesting⟩⟩
    have hleaves : n.tokens.filterMap Token.leaf? = List.range' 0 n.leaves.length := by
      rw [n.leaves_eq, ← List.range_eq_range', ← h.numbered]
    rw [htokens, numbered_eq_self hleaves]
  · intro hmarkers h
    obtain ⟨hbuildable, hleaves, hreads⟩ := skeleton_eq_ok_imp h
    refine ⟨hbuildable, by simp [hleaves], List.forall₂_iff_get.2 ⟨hreads.length_eq, fun i h1 h2 => ?_⟩⟩
    exact (hreads.get h1 h2).carries (hmarkers _ (List.get_mem tiles ⟨i, h2⟩))

/-- two groups open before the first leaf, and two close after the last -/
theorem skeleton_flatten_mixed :
    Node.flatten (.group .or [.group .not [.leaf 0], .group .and [.leaf 1, .leaf 2]]) =
      [⟨[.or, .not], 0, 1⟩, ⟨[.and], 1, 0⟩, ⟨[], 2, 2⟩] ∧
    skeleton "f" [⟨"(|(!", 1, ⟨"a", .equal, "1", true⟩⟩, ⟨"(&", 0, ⟨"b", .equal, "2", false⟩⟩,
        ⟨"", 2, ⟨"c", .equal, "3", false⟩⟩] =
      .ok (.group .or [.group .not [.leaf 0], .group .and [.leaf 1, .leaf 2]]) ∧
    Node.Buildable (.group .or [.group .not [.leaf 0], .group .and [.leaf 1, .leaf 2]]) := by
  set n : Node := .group .or [.group .not [.leaf 0], .group .and [.leaf 1, .leaf 2]] with hn
  set tiles : List Tile := [⟨"(|(!", 1, ⟨"a", .equal, "1", true⟩⟩, ⟨"(&", 0, ⟨"b", .equal, "2", false⟩⟩,
    ⟨"", 2, ⟨"c", .equal, "3", false⟩⟩] with htiles
  have hproper : n.Proper := by
    refine .or (by decide) (List.forall_mem_cons.2 ⟨.not (by decide) ?_, List.forall_mem_singleton.2 (.and (by decide) ?_)⟩)
    · exact List.forall_mem_singleton.2 (.leaf 0)
    · exact List.forall_mem_cons.2 ⟨.leaf 1, List.forall_mem_singleton.2 (.leaf 2)⟩
  have hcarries : List.Forall₂ Run.Carries n.flatten tiles := .cons ⟨rfl, rfl⟩ (.cons ⟨rfl, rfl⟩ (.cons ⟨rfl, rfl⟩ .nil))
  have hmarkers : ∀ t ∈ tiles, ∃ cs, t.markers = String.ofList (Connective.markers cs) :=
    List.forall_mem_cons.2 ⟨⟨[.or, .not], rfl⟩,
      List.forall_mem_cons.2 ⟨⟨[.and], rfl⟩, List.forall_mem_singleton.2 ⟨[], rfl⟩⟩⟩
  obtain ⟨hbuild, hflatten⟩ := skeleton_flatten "f" tiles n
  have hskeleton := hbuild ⟨hproper, by decide, rfl⟩ hcarries
  exact ⟨rfl, hskeleton, (hflatten hmarkers hskeleton).1⟩

end SearchFilter
