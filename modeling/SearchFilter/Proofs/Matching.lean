/-
What expressions match.

A compiled expression relates two places of a text: it can take the characters from the one up to the other. The matcher
follows sets of places instead, goes on from new places only, and gives up a repetition after as many rounds as the text
has places. It decides the relation all the same.
- `Pattern.Takes`, `Pattern.Matches`: the relation, and matching as taking from some place up to some place.
- `takes_forward`: places never go back and never leave the text.
- `steps_cut`: more steps than a text has places go round in a place, so longer rows of steps can be cut.
- `mem_spread`: the places a repetition spreads to.
- `follows_advance`, `isMatch_iff`: the matcher finds exactly the places that can be reached.
- `CharClass.mem_caseVariants`: the case variants of a character are the characters it is equal to under folding.
-/
import Mathlib
import SearchFilter.Proofs.LowerCase
import SearchFilter.Regex.Compile

namespace SearchFilter.Regex

/-! ## Ignoring case -/

namespace CharClass

open SearchFilter.Text (CaseRun CaseMap foldRuns image_cases image_image)

/-- in a table whose runs lie apart the run that maps a code point is the one that is found -/
theorem image_of_maps {m : CaseMap} (hm : m.Pairwise fun q r => q.hi < r.lo) {q : CaseRun} (hq : q ∈ m) {n : ℕ}
    (h : q.Maps n) : m.image n = q.image + (n - q.lo) := by
  induction m with
  | nil => cases hq
  | cons r m ih =>
    obtain ⟨hr, hm⟩ := List.pairwise_cons.1 hm
    have hlo := h.lo
    rw [CaseMap.image]
    rcases List.mem_cons.1 hq with rfl | hq
    · rw [if_pos h.hi, if_pos (by simp [hlo, h.step])]
    · have hbelow := hr q hq
      rw [if_neg (by omega), ih hm hq]

theorem foldRuns_apart : foldRuns.Pairwise fun q r => q.hi < r.lo := by
  have htrans : IsTrans CaseRun fun q r => q.hi < r.lo ∧ r.lo ≤ r.hi := ⟨fun q r s h h' => ⟨by omega, h'.2⟩⟩
  have hchain : foldRuns.IsChain fun q r => q.hi < r.lo ∧ r.lo ≤ r.hi := by decide +kernel
  exact hchain.pairwise.imp And.left

theorem foldRuns_passes : (foldRuns.all fun q => foldRuns.all q.passes) = true := by
  decide +kernel

/-- folding sends characters to characters -/
theorem foldRuns_valid : ∀ r ∈ foldRuns, r.image + (r.hi - r.lo) < 0xD800 ∨
    0xDFFF < r.image ∧ r.image + (r.hi - r.lo) < 0x110000 := by
  decide +kernel

theorem fold_eq_iff {a b : Char} : Text.fold a = Text.fold b ↔ foldRuns.image a.toNat = foldRuns.image b.toNat := by
  have hnat : ∀ c : Char, (Text.fold c).toNat = foldRuns.image c.toNat := Text.toNat_image foldRuns_valid
  rw [← hnat a, ← hnat b]
  exact Char.toNat_inj.symm

/-- **Case variants.** They are the code points with the same folding. -/
@[simp]
theorem mem_caseVariants {m n : ℕ} : m ∈ caseVariants n ↔ foldRuns.image m = foldRuns.image n := by
  have hfixed := image_image foldRuns_passes n
  rw [caseVariants, List.mem_cons, List.mem_filterMap]
  generalize foldRuns.image n = i at hfixed
  constructor
  · rintro (rfl | ⟨q, hq, hm⟩)
    · exact hfixed
    · obtain ⟨⟨hi, hhi, hstep⟩, rfl⟩ : (q.image ≤ i ∧ q.lo + (i - q.image) ≤ q.hi ∧
          (q.lo + (i - q.image) - q.lo) % q.step = 0) ∧ q.lo + (i - q.image) = m := by
        simpa [and_assoc] using hm
      rw [image_of_maps foldRuns_apart hq ⟨Nat.le_add_right _ _, hhi, hstep⟩]
      omega
  · intro hm
    rcases image_cases foldRuns m with h | ⟨q, hq, hmaps, h⟩
    · exact Or.inl (h.symm.trans hm)
    · have hlo := hmaps.lo
      obtain rfl : q.image + (m - q.lo) = i := h.symm.trans hm
      have hback : q.lo + (m - q.lo) = m := Nat.add_sub_cancel' hlo
      refine Or.inr ⟨q, hq, ?_⟩
      simp [hback, hmaps.hi, hmaps.step]

end CharClass

/-! ## Rows of steps -/

def Steps (r : ℕ → ℕ → Prop) : ℕ → ℕ → ℕ → Prop
  | 0, i, j => i = j
  | n + 1, i, j => ∃ k, r i k ∧ Steps r n k j

variable {r : ℕ → ℕ → Prop}

theorem steps_add {m n i j : ℕ} : Steps r (m + n) i j ↔ ∃ k, Steps r m i k ∧ Steps r n k j := by
  induction m generalizing i with
  | zero =>
    rw [Nat.zero_add]
    constructor
    · intro h
      exact ⟨i, rfl, h⟩
    · rintro ⟨k, rfl, h⟩
      exact h
  | succ m ih =>
    rw [Nat.succ_add]
    constructor
    · rintro ⟨x, hx, h⟩
      obtain ⟨k, hk, hj⟩ := ih.1 h
      exact ⟨k, ⟨x, hx, hk⟩, hj⟩
    · rintro ⟨k, ⟨x, hx, hk⟩, hj⟩
      exact ⟨x, hx, ih.2 ⟨k, hk, hj⟩⟩

/-- a relation between places of a text of `size` characters that never goes back and never leaves the text -/
structure Forward (size : ℕ) (r : ℕ → ℕ → Prop) : Prop where
  le : ∀ {i j}, r i j → i ≤ j
  bounded : ∀ {i j}, r i j → i ≤ size → j ≤ size

variable {size : ℕ}

/-- staying at a place -/
theorem forward_of_eq (h : ∀ i j, r i j → i = j) : Forward size r where
  le hij := le_of_eq (h _ _ hij)
  bounded hij hi := h _ _ hij ▸ hi

theorem Forward.steps (hr : Forward size r) (n : ℕ) : Forward size (Steps r n) := by
  induction n with
  | zero => exact forward_of_eq fun i j h => h
  | succ n ih =>
    refine ⟨?_, ?_⟩
    · rintro i j ⟨k, hk, hj⟩
      exact le_trans (hr.le hk) (ih.le hj)
    · rintro i j ⟨k, hk, hj⟩ hi
      exact ih.bounded hj (hr.bounded hk hi)

/-- more steps than there are places left go round in one of them -/
theorem exists_loop (hr : Forward size r) {n i j : ℕ} (hi : i ≤ size) (hn : size < i + n) (h : Steps r n i j) :
    ∃ a b k, n = a + 1 + b ∧ Steps r a i k ∧ r k k ∧ Steps r b k j := by
  induction n generalizing i with
  | zero => omega
  | succ n ih =>
    obtain ⟨x, hx, hj⟩ := h
    by_cases hloop : i = x
    · subst hloop
      exact ⟨0, n, i, by omega, rfl, hx, hj⟩
    · have hle := hr.le hx
      obtain ⟨a, b, k, rfl, ha, hk, hb⟩ := ih (hr.bounded hx hi) (by omega) hj
      exact ⟨a + 1, b, k, by omega, ⟨x, hx, ha⟩, hk, hb⟩

theorem steps_loop {k : ℕ} (hk : r k k) (n : ℕ) : Steps r n k k := by
  induction n with
  | zero => rfl
  | succ n ih => exact ⟨k, hk, ih⟩

/-- **Cutting.** From as many steps on as there are places, the number of steps makes no difference. -/
theorem steps_cut (hr : Forward size r) {i j : ℕ} (hi : i ≤ size) (n : ℕ) :
    Steps r n i j ↔ Steps r (min n (size + 1)) i j := by
  -- one step more or less, where there are enough of them
  have hone : ∀ m, size < m → (Steps r (m + 1) i j ↔ Steps r m i j) := by
    intro m hm
    constructor
    · intro h
      obtain ⟨a, b, k, hsum, ha, -, hb⟩ := exists_loop hr hi (by omega) h
      obtain rfl : m = a + b := by omega
      exact steps_add.2 ⟨k, ha, hb⟩
    · intro h
      obtain ⟨a, b, k, rfl, ha, hk, hb⟩ := exists_loop hr hi (by omega) h
      have htwo : a + 1 + b + 1 = a + (2 + b) := by omega
      rw [htwo]
      exact steps_add.2 ⟨k, ha, steps_add.2 ⟨k, steps_loop hk 2, hb⟩⟩
  rcases le_total n (size + 1) with hn | hn
  · rw [min_eq_left hn]
  · rw [min_eq_right hn]
    induction n, hn using Nat.le_induction with
    | base => exact Iff.rfl
    | succ m hm ih => exact (hone m hm).trans ih

/-! ## The relation of an expression -/

namespace Pattern

/-- the expression can take the characters of a text from the first place up to the second -/
def Takes (text : Array Char) : Pattern → ℕ → ℕ → Prop
  | empty, i, j => i = j
  | one c, i, j => j = i + 1 ∧ ∃ x, text[i]? = some x ∧ c.has x.toNat = true
  | look l, i, j => i = j ∧ l.holds text i = true
  | seq a b, i, j => ∃ k, a.Takes text i k ∧ b.Takes text k j
  | alt a b, i, j => a.Takes text i j ∨ b.Takes text i j
  | times p least most, i, j => ∃ extra, (∀ m ∈ most, extra ≤ m - least) ∧ Steps (p.Takes text) (least + extra) i j
  | capture p, i, j => p.Takes text i j

/-- the expression matches somewhere in a text -/
def Matches (p : Pattern) (text : List Char) : Prop := ∃ i ≤ text.length, ∃ j, p.Takes text.toArray i j

variable {text : Array Char}

theorem takes_forward (text : Array Char) (p : Pattern) : Forward text.size (p.Takes text) := by
  induction p with
  | empty => exact forward_of_eq fun i j h => h
  | one c =>
    refine ⟨?_, ?_⟩
    · rintro i j ⟨rfl, -⟩
      exact Nat.le_succ i
    · rintro i j ⟨rfl, x, hx, -⟩ -
      exact (Array.getElem?_eq_some_iff.1 hx).1
  | look l => exact forward_of_eq fun i j h => h.1
  | seq a b iha ihb =>
    refine ⟨?_, ?_⟩
    · rintro i j ⟨k, hk, hj⟩
      exact le_trans (iha.le hk) (ihb.le hj)
    · rintro i j ⟨k, hk, hj⟩ hi
      exact ihb.bounded hj (iha.bounded hk hi)
  | alt a b iha ihb =>
    refine ⟨?_, ?_⟩
    · rintro i j (h | h)
      · exact iha.le h
      · exact ihb.le h
    · rintro i j (h | h) hi
      · exact iha.bounded h hi
      · exact ihb.bounded h hi
  | times p least most ih =>
    refine ⟨?_, ?_⟩
    · rintro i j ⟨extra, -, h⟩
      exact (ih.steps _).le h
    · rintro i j ⟨extra, -, h⟩ hi
      exact (ih.steps _).bounded h hi
  | capture p ih => exact ih

end Pattern

/-! ## Sets of places -/

/-- a set of places: a list in descending order -/
def Descending (places : List ℕ) : Prop := places.Pairwise (· > ·)

@[simp]
theorem mem_joinPlaces {xs ys : List ℕ} {j : ℕ} : j ∈ joinPlaces xs ys ↔ j ∈ xs ∨ j ∈ ys := by
  induction xs generalizing ys with
  | nil => simp [joinPlaces]
  | cons x xs ih =>
    rw [joinPlaces]
    induction ys with
    | nil => simp [joinPlaces.insert]
    | cons y ys ihy =>
      rw [joinPlaces.insert]
      split_ifs with h1 h2
      · rw [List.mem_cons, ih, List.mem_cons (a := j) (b := x), or_assoc]
      · rw [List.mem_cons, ihy, List.mem_cons (b := y), or_left_comm]
      · obtain rfl : x = y := by omega
        rw [List.mem_cons, ih, List.mem_cons, List.mem_cons, or_assoc, or_left_comm (a := j ∈ xs), or_self_left]

theorem descending_joinPlaces {xs ys : List ℕ} (hxs : Descending xs) (hys : Descending ys) :
    Descending (joinPlaces xs ys) := by
  induction xs generalizing ys with
  | nil => rwa [joinPlaces]
  | cons x xs ih =>
    obtain ⟨hx, hxs⟩ := List.pairwise_cons.1 hxs
    rw [joinPlaces]
    induction ys with
    | nil =>
      rw [joinPlaces.insert]
      exact List.pairwise_cons.2 ⟨hx, hxs⟩
    | cons y ys ihy =>
      obtain ⟨hy, htail⟩ := List.pairwise_cons.1 hys
      rw [joinPlaces.insert]
      split_ifs with h1 h2
      · refine List.pairwise_cons.2 ⟨?_, ih hxs hys⟩
        intro j hj
        rcases mem_joinPlaces.1 hj with hj | hj
        · exact hx j hj
        · rcases List.mem_cons.1 hj with rfl | hj
          · exact h1
          · exact lt_trans (hy j hj) h1
      · refine List.pairwise_cons.2 ⟨?_, ihy htail⟩
        intro j hj
        -- the row that is inserted into is a join too
        have hjoin : j ∈ joinPlaces (x :: xs) ys := by rwa [joinPlaces]
        rcases mem_joinPlaces.1 hjoin with hj | hj
        · rcases List.mem_cons.1 hj with rfl | hj
          · exact h2
          · exact lt_trans (hx j hj) h2
        · exact hy j hj
      · obtain rfl : x = y := by omega
        refine List.pairwise_cons.2 ⟨?_, ih hxs htail⟩
        intro j hj
        rcases mem_joinPlaces.1 hj with hj | hj
        · exact hx j hj
        · exact hy j hj

theorem newPlaces_sublist (xs ys : List ℕ) : (newPlaces xs ys).Sublist xs := by
  induction xs generalizing ys with
  | nil => exact List.Sublist.refl _
  | cons x xs ih =>
    rw [newPlaces]
    split_ifs with h
    · exact (ih _).cons x
    · exact (ih _).cons_cons x

/-- the places up to `x` -/
theorem mem_dropWhile_above {x j : ℕ} (hj : j ≤ x) (ys : List ℕ) : j ∈ ys.dropWhile (x < ·) ↔ j ∈ ys := by
  constructor
  · intro h
    exact (List.dropWhile_sublist _).subset h
  · intro h
    rw [← List.takeWhile_append_dropWhile (p := (x < ·)) (l := ys)] at h
    rcases List.mem_append.1 h with h | h
    · have habove := List.mem_takeWhile_imp h
      rw [decide_eq_true_eq] at habove
      omega
    · exact h

theorem head_dropWhile_above {x : ℕ} {ys : List ℕ} (hys : Descending ys) :
    (ys.dropWhile (x < ·)).head? = some x ↔ x ∈ ys := by
  rw [← mem_dropWhile_above (le_refl x)]
  have hdescending : Descending (ys.dropWhile (x < ·)) := hys.sublist (List.dropWhile_sublist _)
  have hhead := List.head?_dropWhile_not (x < ·) ys
  generalize ys.dropWhile (x < ·) = zs at hdescending hhead
  cases zs with
  | nil => simp
  | cons z zs =>
    obtain ⟨hz, -⟩ := List.pairwise_cons.1 hdescending
    simp only [List.head?_cons, decide_eq_false_iff_not] at hhead
    constructor
    · intro h
      rw [Option.some.inj h]
      exact List.mem_cons_self
    · intro h
      rcases List.mem_cons.1 h with rfl | h
      · rfl
      · exact absurd (hz x h) hhead

theorem mem_newPlaces {xs ys : List ℕ} (hxs : Descending xs) (hys : Descending ys) {j : ℕ} :
    j ∈ newPlaces xs ys ↔ j ∈ xs ∧ j ∉ ys := by
  induction xs generalizing ys with
  | nil => simp [newPlaces]
  | cons x xs ih =>
    obtain ⟨hx, hxs⟩ := List.pairwise_cons.1 hxs
    have hdescending : Descending (ys.dropWhile (x < ·)) := hys.sublist (List.dropWhile_sublist _)
    have hrest : j ∈ newPlaces xs (ys.dropWhile (x < ·)) ↔ j ∈ xs ∧ j ∉ ys := by
      rw [ih hxs hdescending]
      constructor
      · rintro ⟨hj, hnew⟩
        exact ⟨hj, mt (mem_dropWhile_above (le_of_lt (hx j hj)) ys).2 hnew⟩
      · rintro ⟨hj, hnew⟩
        exact ⟨hj, mt (mem_dropWhile_above (le_of_lt (hx j hj)) ys).1 hnew⟩
    rw [newPlaces, List.mem_cons]
    by_cases hold : x ∈ ys
    · rw [if_pos ((head_dropWhile_above hys).2 hold), hrest]
      constructor
      · rintro ⟨hj, hnew⟩
        exact ⟨Or.inr hj, hnew⟩
      · rintro ⟨rfl | hj, hnew⟩
        · exact absurd hold hnew
        · exact ⟨hj, hnew⟩
    · rw [if_neg (mt (head_dropWhile_above hys).1 hold), List.mem_cons, hrest]
      constructor
      · rintro (rfl | ⟨hj, hnew⟩)
        · exact ⟨Or.inl rfl, hold⟩
        · exact ⟨Or.inr hj, hnew⟩
      · rintro ⟨rfl | hj, hnew⟩
        · exact Or.inl rfl
        · exact Or.inr ⟨hj, hnew⟩

/-! ## Rounds -/

/-- a set of places of a text of `size` characters -/
structure IsPlaces (size : ℕ) (places : List ℕ) : Prop where
  descending : Descending places
  bounded : ∀ i ∈ places, i ≤ size

theorem IsPlaces.sublist {xs ys : List ℕ} (h : IsPlaces size ys) (hsub : xs.Sublist ys) : IsPlaces size xs :=
  ⟨h.descending.sublist hsub, fun i hi => h.bounded i (hsub.subset hi)⟩

theorem IsPlaces.join {xs ys : List ℕ} (hxs : IsPlaces size xs) (hys : IsPlaces size ys) :
    IsPlaces size (joinPlaces xs ys) := by
  refine ⟨descending_joinPlaces hxs.descending hys.descending, ?_⟩
  intro i hi
  rcases mem_joinPlaces.1 hi with hi | hi
  · exact hxs.bounded i hi
  · exact hys.bounded i hi

/-- `f` goes from sets of places to the places that one step of `r` leads to -/
structure Follows (size : ℕ) (r : ℕ → ℕ → Prop) (f : List ℕ → List ℕ) : Prop where
  places : ∀ {is}, IsPlaces size is → IsPlaces size (f is)
  mem : ∀ {is}, IsPlaces size is → ∀ {j}, j ∈ f is ↔ ∃ i ∈ is, r i j

variable {f : List ℕ → List ℕ}

theorem follows_iterate (hf : Follows size r f) (n : ℕ) : Follows size (Steps r n) (iterate f n) := by
  induction n with
  | zero =>
    refine ⟨fun h => h, ?_⟩
    intro is _ j
    simp [iterate, Steps]
  | succ n ih =>
    refine ⟨?_, ?_⟩
    · intro is his
      rw [iterate]
      split_ifs
      · exact ⟨List.Pairwise.nil, by simp⟩
      · exact ih.places (hf.places his)
    · intro is his j
      rw [iterate]
      split_ifs with hempty
      · rw [List.isEmpty_iff.1 hempty]
        simp
      · rw [ih.mem (hf.places his)]
        constructor
        · rintro ⟨k, hk, hj⟩
          obtain ⟨i, hi, hik⟩ := (hf.mem his).1 hk
          exact ⟨i, hi, k, hik, hj⟩
        · rintro ⟨i, hi, k, hik, hj⟩
          exact ⟨k, (hf.mem his).2 ⟨i, hi, hik⟩, hj⟩

/-- In the middle of spreading: the latest places are among those seen, and from the others no step leads anywhere new. -/
structure Frontier (size : ℕ) (r : ℕ → ℕ → Prop) (latest seen : List ℕ) : Prop where
  latest_places : IsPlaces size latest
  seen_places : IsPlaces size seen
  subset : latest ⊆ seen
  closed : ∀ i ∈ seen, i ∉ latest → ∀ j, r i j → j ∈ seen

/-- a row of steps from a place that was seen stays among such places or comes through the latest -/
theorem Frontier.leaves {latest seen : List ℕ} (h : Frontier size r latest seen) {n i j : ℕ} (hi : i ∈ seen)
    (hj : Steps r n i j) : j ∈ seen ∨ ∃ k ≤ n, ∃ x ∈ latest, Steps r k x j := by
  induction n generalizing i with
  | zero =>
    obtain rfl : i = j := hj
    exact Or.inl hi
  | succ n ih =>
    by_cases hlatest : i ∈ latest
    · exact Or.inr ⟨n + 1, le_refl _, i, hlatest, hj⟩
    · obtain ⟨x, hx, hj⟩ := hj
      rcases ih (h.closed i hi hlatest x hx) hj with hseen | ⟨k, hk, y, hy, hstep⟩
      · exact Or.inl hseen
      · exact Or.inr ⟨k, Nat.le_succ_of_le hk, y, hy, hstep⟩

/-- the new places of a round -/
theorem Frontier.mem_new (hf : Follows size r f) {latest seen : List ℕ} (h : Frontier size r latest seen) {j : ℕ} :
    j ∈ newPlaces (f latest) seen ↔ (∃ i ∈ latest, r i j) ∧ j ∉ seen := by
  have hafter := hf.places h.latest_places
  rw [mem_newPlaces hafter.descending h.seen_places.descending, hf.mem h.latest_places]

/-- one round -/
theorem Frontier.next (hf : Follows size r f) {latest seen : List ℕ} (h : Frontier size r latest seen) :
    Frontier size r (newPlaces (f latest) seen) (joinPlaces (newPlaces (f latest) seen) seen) := by
  have hafter := hf.places h.latest_places
  have hnew : IsPlaces size (newPlaces (f latest) seen) := hafter.sublist (newPlaces_sublist (f latest) seen)
  refine ⟨hnew, hnew.join h.seen_places, ?_, ?_⟩
  · intro j hj
    exact mem_joinPlaces.2 (Or.inl hj)
  · intro i hi hold j hij
    rw [mem_joinPlaces] at hi ⊢
    have hseen : i ∈ seen := hi.resolve_left hold
    by_cases hj : j ∈ seen
    · exact Or.inr hj
    · by_cases hlatest : i ∈ latest
      · exact Or.inl ((h.mem_new hf).2 ⟨⟨i, hlatest, hij⟩, hj⟩)
      · exact absurd (h.closed i hseen hlatest j hij) hj

/-- One more step is one step to new places, and the rest from there. -/
theorem Frontier.reaches_succ (hf : Follows size r f) {latest seen : List ℕ} (h : Frontier size r latest seen)
    (n j : ℕ) : (j ∈ seen ∨ ∃ k ≤ n + 1, ∃ i ∈ latest, Steps r k i j) ↔
      j ∈ joinPlaces (newPlaces (f latest) seen) seen ∨ ∃ k ≤ n, ∃ x ∈ newPlaces (f latest) seen, Steps r k x j := by
  rw [mem_joinPlaces]
  constructor
  · rintro (hj | ⟨k, hk, i, hi, hij⟩)
    · exact Or.inl (Or.inr hj)
    · cases k with
      | zero =>
        obtain rfl : i = j := hij
        exact Or.inl (Or.inr (h.subset hi))
      | succ k =>
        -- after its first step the row goes on from a place that is seen by now
        obtain ⟨x, hix, hj⟩ := hij
        have hx : x ∈ joinPlaces (newPlaces (f latest) seen) seen := by
          rw [mem_joinPlaces]
          by_cases hseen : x ∈ seen
          · exact Or.inr hseen
          · exact Or.inl ((h.mem_new hf).2 ⟨⟨i, hi, hix⟩, hseen⟩)
        rcases (h.next hf).leaves hx hj with hj | ⟨m, hm, y, hy, hj⟩
        · exact Or.inl (mem_joinPlaces.1 hj)
        · exact Or.inr ⟨m, by omega, y, hy, hj⟩
  · rintro ((hj | hj) | ⟨k, hk, x, hx, hj⟩)
    · obtain ⟨⟨i, hi, hij⟩, -⟩ := (h.mem_new hf).1 hj
      exact Or.inr ⟨1, by omega, i, hi, j, hij, rfl⟩
    · exact Or.inl hj
    · obtain ⟨⟨i, hi, hix⟩, -⟩ := (h.mem_new hf).1 hx
      exact Or.inr ⟨k + 1, by omega, i, hi, x, hix, hj⟩

/-- **Spreading.** A repetition that goes on from new places only reaches all places that up to `n` steps reach. -/
theorem mem_spread (hf : Follows size r f) {latest seen : List ℕ}
    (h : Frontier size r latest seen) (n j : ℕ) :
    j ∈ spread f n latest seen ↔ j ∈ seen ∨ ∃ k ≤ n, ∃ i ∈ latest, Steps r k i j := by
  induction n generalizing latest seen with
  | zero =>
    rw [spread]
    constructor
    · intro hj
      exact Or.inl hj
    · rintro (hj | ⟨k, hk, i, hi, hij⟩)
      · exact hj
      · obtain rfl := Nat.le_zero.1 hk
        obtain rfl : i = j := hij
        exact h.subset hi
  | succ n ih =>
    rw [h.reaches_succ hf, spread]
    by_cases hempty : newPlaces (f latest) seen = []
    · simp [hempty, joinPlaces]
    · have hgoes : (newPlaces (f latest) seen).isEmpty = false := by simpa using hempty
      simp only [hgoes, Bool.false_eq_true, if_false]
      exact ih (h.next hf)

theorem places_spread (hf : Follows size r f) {latest seen : List ℕ} (h : Frontier size r latest seen) (n : ℕ) :
    IsPlaces size (spread f n latest seen) := by
  induction n generalizing latest seen with
  | zero => exact h.seen_places
  | succ n ih =>
    rw [spread]
    split_ifs
    · exact h.seen_places
    · exact ih (h.next hf)

/-! ## The matcher -/

namespace Pattern

variable {text : Array Char}

/-- a repetition: as many rounds as there must be, then as many as there may be -/
theorem follows_times {p : Pattern} (hf : Follows text.size (p.Takes text) (p.advance text)) (least : ℕ)
    (most : Option ℕ) : Follows text.size ((times p least most).Takes text) ((times p least most).advance text) := by
  have hr := p.takes_forward text
  have hstart := follows_iterate hf (min least (text.size + 1))
  have hfrontier : ∀ {is}, IsPlaces text.size is → Frontier text.size (p.Takes text)
      (iterate (p.advance text) (min least (text.size + 1)) is)
      (iterate (p.advance text) (min least (text.size + 1)) is) := by
    intro is his
    refine ⟨hstart.places his, hstart.places his, fun _ h => h, ?_⟩
    intro i hi hnot
    exact absurd hi hnot
  refine ⟨?_, ?_⟩
  · intro is his
    rw [advance]
    exact places_spread hf (hfrontier his) _
  · intro is his j
    rw [advance, mem_spread hf (hfrontier his)]
    constructor
    · intro h
      obtain ⟨k, hk, x, hx, hxj⟩ : ∃ k ≤ min (most.elim (text.size + 1) (· - least)) (text.size + 1),
          ∃ x ∈ iterate (p.advance text) (min least (text.size + 1)) is, Steps (p.Takes text) k x j := by
        rcases h with h | h
        · exact ⟨0, Nat.zero_le _, j, h, rfl⟩
        · exact h
      obtain ⟨i, hi, hix⟩ := (hstart.mem his).1 hx
      refine ⟨i, hi, k, ?_, ?_⟩
      · intro m hm
        rw [Option.mem_def.1 hm] at hk
        exact le_trans hk (min_le_left _ _)
      · rw [steps_add]
        exact ⟨x, (steps_cut hr (his.bounded i hi) least).2 hix, hxj⟩
    · rintro ⟨i, hi, extra, hextra, hij⟩
      obtain ⟨x, hix, hxj⟩ := steps_add.1 hij
      have hx : x ≤ text.size := (hr.steps least).bounded hix (his.bounded i hi)
      refine Or.inr ⟨min extra (text.size + 1), ?_, x, ?_, (steps_cut hr hx extra).1 hxj⟩
      · cases most with
        | none => exact le_min (min_le_right _ _) (min_le_right _ _)
        | some m => exact le_min (le_trans (min_le_left _ _) (hextra m rfl)) (min_le_right _ _)
      · exact (hstart.mem his).2 ⟨i, hi, (steps_cut hr (his.bounded i hi) least).1 hix⟩

/-- one character -/
theorem follows_one (c : CharClass) : Follows text.size ((one c).Takes text) ((one c).advance text) := by
  have hmem : ∀ (is : List ℕ) (j : ℕ), j ∈ (one c).advance text is ↔ ∃ i ∈ is, (one c).Takes text i j := by
    intro is j
    simp only [advance, Takes, List.mem_filterMap, Option.ite_none_right_eq_some, Option.any_eq_true, Option.some.injEq]
    constructor
    · rintro ⟨i, hi, hx, rfl⟩
      exact ⟨i, hi, rfl, hx⟩
    · rintro ⟨i, hi, rfl, hx⟩
      exact ⟨i, hi, hx, rfl⟩
  refine ⟨?_, fun _ => hmem _ _⟩
  intro is his
  refine ⟨?_, ?_⟩
  · refine List.Pairwise.filterMap _ ?_ his.descending
    intro i i' hi j hj j' hj'
    simp only [Option.ite_none_right_eq_some, Option.some.injEq] at hj hj'
    omega
  · intro j hj
    obtain ⟨i, hi, hij⟩ := (hmem is j).1 hj
    exact ((one c).takes_forward text).bounded hij (his.bounded i hi)

/-- a condition on the place -/
theorem follows_look (l : Look) : Follows text.size ((look l).Takes text) ((look l).advance text) := by
  refine ⟨?_, ?_⟩
  · intro is his
    rw [advance]
    exact his.sublist List.filter_sublist
  · intro is _ j
    simp [advance, Takes]

section

variable {a b : Pattern} (ha : Follows text.size (a.Takes text) (a.advance text))
  (hb : Follows text.size (b.Takes text) (b.advance text))

include ha hb

/-- one expression after the other -/
theorem follows_seq : Follows text.size ((seq a b).Takes text) ((seq a b).advance text) := by
  refine ⟨?_, ?_⟩
  · intro is his
    exact hb.places (ha.places his)
  · intro is his j
    rw [advance, hb.mem (ha.places his)]
    constructor
    · rintro ⟨k, hk, hj⟩
      obtain ⟨i, hi, hik⟩ := (ha.mem his).1 hk
      exact ⟨i, hi, k, hik, hj⟩
    · rintro ⟨i, hi, k, hik, hj⟩
      exact ⟨k, (ha.mem his).2 ⟨i, hi, hik⟩, hj⟩

/-- one expression or the other -/
theorem follows_alt : Follows text.size ((alt a b).Takes text) ((alt a b).advance text) := by
  refine ⟨?_, ?_⟩
  · intro is his
    exact (ha.places his).join (hb.places his)
  · intro is his j
    rw [advance, mem_joinPlaces, ha.mem his, hb.mem his]
    constructor
    · rintro (⟨i, hi, hij⟩ | ⟨i, hi, hij⟩)
      · exact ⟨i, hi, Or.inl hij⟩
      · exact ⟨i, hi, Or.inr hij⟩
    · rintro ⟨i, hi, hij | hij⟩
      · exact Or.inl ⟨i, hi, hij⟩
      · exact Or.inr ⟨i, hi, hij⟩

end

/-- **The matcher's sets.** An expression leads from a set of places to the places it can end at. -/
theorem follows_advance (text : Array Char) (p : Pattern) : Follows text.size (p.Takes text) (p.advance text) := by
  induction p with
  | empty =>
    refine ⟨fun h => h, ?_⟩
    intro is _ j
    simp [advance, Takes]
  | one c => exact follows_one c
  | look l => exact follows_look l
  | seq a b iha ihb => exact follows_seq iha ihb
  | alt a b iha ihb => exact follows_alt iha ihb
  | times p least most ih => exact follows_times ih least most
  | capture p ih => exact ih

theorem isPlaces_allPlaces (n : ℕ) : IsPlaces n (allPlaces n) := by
  refine ⟨?_, ?_⟩
  · exact List.pairwise_reverse.2 List.pairwise_lt_range
  · intro i hi
    rw [allPlaces, List.mem_reverse, List.mem_range] at hi
    exact Nat.le_of_lt_succ hi

/-- **The matcher.** It finds a match exactly if there is one. -/
theorem isMatch_iff (p : Pattern) (text : String) : p.isMatch text = true ↔ p.Matches text.toList := by
  have hsize : text.toList.toArray.size = text.toList.length := List.size_toArray
  have hmem : ∀ j, j ∈ p.advance text.toList.toArray (allPlaces text.toList.toArray.size) ↔
      ∃ i ∈ allPlaces text.toList.toArray.size, p.Takes text.toList.toArray i j :=
    fun j => (p.follows_advance text.toList.toArray).mem (isPlaces_allPlaces _)
  rw [isMatch, Bool.not_eq_true', List.isEmpty_eq_false_iff_exists_mem, Matches]
  constructor
  · rintro ⟨j, hj⟩
    obtain ⟨i, hi, hij⟩ := (hmem j).1 hj
    exact ⟨i, hsize ▸ (isPlaces_allPlaces _).bounded i hi, j, hij⟩
  · rintro ⟨i, hi, j, hij⟩
    refine ⟨j, (hmem j).2 ⟨i, ?_, hij⟩⟩
    rw [allPlaces, List.mem_reverse, List.mem_range, hsize]
    exact Nat.lt_succ_of_le hi

end Pattern

end SearchFilter.Regex
