/-
Lower case of whole texts.

A capital sigma is lowered in the light of the characters around it, but no rule looks past a stop: a character that
has no case and is not looked through. Parentheses and the signs of groups are stops.
- `lower_append`: a text is lowered part by part when the second part starts with a stop.
- `count_lower`, `head_lower`, `getLast_lower`: lowering neither makes nor loses a parenthesis, and the outer ones stay
  where they are.
- `lower_lower`: a lower-case text is its own lower-case form, since no character of it is lowered anywhere.
- `lowercase_eq_of_eqIgnoreAsciiCase`: texts that differ in the case of `A`-`Z` only have one lower-case form. The
  converse fails outside these letters.
-/
import Mathlib.Tactic
import SearchFilter.Text.Case

namespace SearchFilter.Text

/-! ## Single characters -/

/-- a run maps a code point -/
structure CaseRun.Maps (r : CaseRun) (n : ℕ) : Prop where
  lo : r.lo ≤ n
  hi : n ≤ r.hi
  step : (n - r.lo) % r.step = 0

theorem image_cases (m : CaseMap) (n : ℕ) :
    m.image n = n ∨ ∃ r ∈ m, r.Maps n ∧ m.image n = r.image + (n - r.lo) := by
  induction m with
  | nil => exact Or.inl rfl
  | cons r m ih =>
    simp only [CaseMap.image]
    split_ifs with h1 h2
    · rw [Bool.and_eq_true, decide_eq_true_eq, beq_iff_eq] at h2
      exact Or.inr ⟨r, List.mem_cons_self, ⟨h2.1, h1, h2.2⟩, rfl⟩
    · exact Or.inl rfl
    · rcases ih with h | ⟨q, hq, h⟩
      · exact Or.inl h
      · exact Or.inr ⟨q, List.mem_cons_of_mem r hq, h⟩

/-- every lower-case mapping ends at `a` or above, at a code point that is a character, and not at the capital I with
dot -/
theorem lowerRuns_image : ∀ r ∈ lowerRuns, 97 ≤ r.image ∧
    (r.image + (r.hi - r.lo) < 0xD800 ∨ 0xDFFF < r.image ∧ r.image + (r.hi - r.lo) < 0x110000) ∧
    (r.image + (r.hi - r.lo) < 0x130 ∨ 0x130 < r.image) := by
  decide +kernel

theorem toNat_ofNat {n : ℕ} (h : n.isValidChar) : (Char.ofNat n).toNat = n := by
  rw [Char.ofNat, dif_pos h]
  rfl

/-- a map whose runs end within the characters sends characters to characters -/
theorem toNat_image {m : CaseMap} (hm : ∀ r ∈ m, r.image + (r.hi - r.lo) < 0xD800 ∨
    0xDFFF < r.image ∧ r.image + (r.hi - r.lo) < 0x110000) (c : Char) :
    (Char.ofNat (m.image c.toNat)).toNat = m.image c.toNat := by
  rcases image_cases m c.toNat with h | ⟨r, hr, hmaps, h⟩
  · rw [h, Char.ofNat_toNat]
  · have hvalid := hm r hr
    have hhi := hmaps.hi
    apply toNat_ofNat
    rw [h]
    unfold Nat.isValidChar
    omega

theorem toNat_lowerRuns_image (c : Char) : (Char.ofNat (lowerRuns.image c.toNat)).toNat = lowerRuns.image c.toNat :=
  toNat_image (fun r hr => (lowerRuns_image r hr).2.1) c

/-- a character is its own lower-case form, or the form is made of characters from `a` on -/
theorem lowerChar_cases (c : Char) : lowerChar c = [c] ∨ ∀ x ∈ lowerChar c, 'a' ≤ x := by
  unfold lowerChar
  split_ifs with hc
  · right
    intro x hx
    rcases List.mem_pair.1 hx with rfl | rfl <;> decide
  · rcases image_cases lowerRuns c.toNat with h | ⟨r, hr, -, h⟩
    · left; rw [h, Char.ofNat_toNat]
    · right
      obtain ⟨h1, -⟩ := lowerRuns_image r hr
      intro x hx
      obtain rfl := List.mem_singleton.1 hx
      rw [Char.le_def, UInt32.le_iff_toNat_le]
      change 97 ≤ (Char.ofNat (lowerRuns.image c.toNat)).toNat
      rw [toNat_lowerRuns_image, h]
      omega

theorem lowerChar_ne_nil (c : Char) : lowerChar c ≠ [] := by
  unfold lowerChar; split_ifs <;> simp

/-- lower-case form of a character in its place -/
def lowerAt (before : List Char) (c : Char) (after : List Char) : List Char :=
  if c = 'Σ' then [lowerSigma before after] else lowerChar c

theorem lowerFrom_cons (before : List Char) (c : Char) (rest : List Char) :
    lowerFrom before (c :: rest) = lowerAt before c rest ++ lowerFrom (c :: before) rest := rfl

theorem lowerAt_cases (before : List Char) (c : Char) (after : List Char) :
    lowerAt before c after = [c] ∨ ∀ x ∈ lowerAt before c after, 'a' ≤ x := by
  unfold lowerAt
  split_ifs with hc
  · right
    intro x hx
    rw [List.mem_singleton.1 hx]
    unfold lowerSigma
    split <;> decide
  · exact lowerChar_cases c

theorem lowerAt_ne_nil (before : List Char) (c : Char) (after : List Char) : lowerAt before c after ≠ [] := by
  unfold lowerAt
  split_ifs
  · simp
  · exact lowerChar_ne_nil c

/-! ## Stops -/

/-- no case rule looks past such a character -/
structure IsStop (p : Char) : Prop where
  uncased : isCased p = false
  seen : isCaseIgnorable p = false

instance (p : Char) : Decidable (IsStop p) :=
  decidable_of_iff (isCased p = false ∧ isCaseIgnorable p = false) ⟨fun h => ⟨h.1, h.2⟩, fun h => ⟨h.1, h.2⟩⟩

theorem casedAhead_append_stop {p : Char} (hp : IsStop p) (s t : List Char) :
    casedAhead (s ++ p :: t) = casedAhead s := by
  induction s with
  | nil => simp [casedAhead, hp.uncased, hp.seen]
  | cons c s ih => simp [casedAhead, ih]

theorem lowerFrom_before_stop {p : Char} (hp : IsStop p) (s before beyond : List Char) :
    lowerFrom (before ++ p :: beyond) s = lowerFrom before s := by
  induction s generalizing before with
  | nil => rfl
  | cons c s ih =>
    have hs := ih (c :: before)
    rw [List.cons_append] at hs
    simp only [lowerFrom_cons, hs, lowerAt, lowerSigma, casedAhead_append_stop hp]

theorem lowerFrom_append_stop {p : Char} (hp : IsStop p) (s t before : List Char) :
    lowerFrom before (s ++ p :: t) = lowerFrom before s ++ lowerFrom (s.reverse ++ before) (p :: t) := by
  induction s generalizing before with
  | nil => rfl
  | cons c s ih =>
    simp only [List.cons_append, lowerFrom_cons, ih, lowerAt, lowerSigma, casedAhead_append_stop hp,
      List.reverse_cons, List.append_assoc, List.nil_append]

theorem lowerAt_stop {p : Char} (hp : IsStop p) (before after : List Char) :
    lowerAt before p after = lowerChar p := by
  have hne : p ≠ 'Σ' := by
    rintro rfl
    exact absurd hp.uncased (by decide +kernel)
  rw [lowerAt, if_neg hne]

theorem lower_cons_stop {p : Char} (hp : IsStop p) (t : List Char) : lower (p :: t) = lowerChar p ++ lower t := by
  rw [lower, lowerFrom_cons, lowerAt_stop hp]
  exact congrArg (lowerChar p ++ ·) (lowerFrom_before_stop hp t [] [])

theorem lower_append {p : Char} (hp : IsStop p) (s : List Char) {t : List Char} (ht : t.head? = some p) :
    lower (s ++ t) = lower s ++ lower t := by
  obtain ⟨rest, rfl⟩ := List.head?_eq_some_iff.1 ht
  have hs : lowerFrom (p :: s.reverse) rest = lower rest := lowerFrom_before_stop hp rest [] s.reverse
  rw [lower_cons_stop hp, lower, lowerFrom_append_stop hp, lowerFrom_cons, lowerAt_stop hp, List.append_nil, hs]
  rfl

/-! ## Parentheses -/

/-- a character that is its own lower-case form, and no other character's -/
structure IsFixed (p : Char) : Prop where
  below : p < 'a'
  same : lowerChar p = [p]

theorem isFixed_opening : IsFixed '(' := ⟨by decide, by decide +kernel⟩

theorem isFixed_closing : IsFixed ')' := ⟨by decide, by decide +kernel⟩

theorem isStop_opening : IsStop '(' := by decide +kernel

theorem isStop_closing : IsStop ')' := by decide +kernel

/-- what stands before texts in parentheses is lowered by itself -/
theorem lower_append_flatten (s : List Char) {ts : List (List Char)} (h : ∀ t ∈ ts, t.head? = some '(') :
    lower (s ++ (ts.flatten ++ [')'])) = lower s ++ lower (ts.flatten ++ [')']) := by
  cases ts with
  | nil => exact lower_append isStop_closing s rfl
  | cons t ts =>
    apply lower_append isStop_opening s
    simp [h t List.mem_cons_self]

/-- texts in parentheses are lowered one by one -/
theorem lower_flatten_append {ts : List (List Char)} (h : ∀ t ∈ ts, t.head? = some '(') :
    lower (ts.flatten ++ [')']) = (ts.map lower).flatten ++ [')'] := by
  induction ts with
  | nil => exact lower_cons_stop isStop_closing []
  | cons t ts ih =>
    have hts : ∀ u ∈ ts, u.head? = some '(' := fun u hu => h u (List.mem_cons_of_mem t hu)
    simp [lower_append_flatten t hts, ih hts]

theorem eq_of_mem_lowerAt {p : Char} (hp : IsFixed p) {before after : List Char} {c : Char}
    (h : p ∈ lowerAt before c after) : c = p := by
  rcases lowerAt_cases before c after with hc | hc
  · rw [hc] at h
    exact (List.mem_singleton.1 h).symm
  · exact absurd (hc p h) (Char.not_le.2 hp.below)

theorem lowerAt_fixed {p : Char} (hp : IsFixed p) (before after : List Char) : lowerAt before p after = [p] := by
  have hne : p ≠ 'Σ' := by
    rintro rfl
    exact absurd hp.below (by decide)
  rw [lowerAt, if_neg hne, hp.same]

theorem count_lowerAt {p : Char} (hp : IsFixed p) (before after : List Char) (c : Char) :
    (lowerAt before c after).count p = [c].count p := by
  by_cases hc : c = p
  · rw [hc, lowerAt_fixed hp]
  · rw [List.count_eq_zero.2 fun h => hc (eq_of_mem_lowerAt hp h), List.count_eq_zero.2]
    exact fun h => hc (List.mem_singleton.1 h).symm

theorem count_lowerFrom {p : Char} (hp : IsFixed p) (before s : List Char) :
    (lowerFrom before s).count p = s.count p := by
  induction s generalizing before with
  | nil => rfl
  | cons c s ih => rw [lowerFrom_cons, List.count_append, ih, count_lowerAt hp, ← List.count_append]; rfl

theorem count_lower {p : Char} (hp : IsFixed p) (s : List Char) : (lower s).count p = s.count p :=
  count_lowerFrom hp [] s

theorem head_lower {p : Char} (hp : IsFixed p) (s : List Char) : (lower s).head? = some p ↔ s.head? = some p := by
  cases s with
  | nil => rfl
  | cons c s =>
    rw [lower, lowerFrom_cons]
    constructor
    · intro h
      obtain ⟨x, xs, hx⟩ := List.exists_cons_of_ne_nil (lowerAt_ne_nil [] c s)
      rw [hx] at h
      have hxp : x = p := by simpa using h
      have hmem : p ∈ lowerAt [] c s := by rw [hx, hxp]; exact List.mem_cons_self
      rw [eq_of_mem_lowerAt hp hmem]; rfl
    · intro h
      obtain rfl : c = p := by simpa using h
      rw [lowerAt_fixed hp]; rfl

/-- the last character is lowered last -/
theorem lowerFrom_concat (before s : List Char) (c : Char) :
    ∃ front, lowerFrom before (s ++ [c]) = front ++ lowerAt (s.reverse ++ before) c [] := by
  induction s generalizing before with
  | nil => exact ⟨[], by simp [lowerFrom]; rfl⟩
  | cons d s ih =>
    obtain ⟨front, h⟩ := ih (d :: before)
    refine ⟨lowerAt before d (s ++ [c]) ++ front, ?_⟩
    rw [List.cons_append, lowerFrom_cons, h]
    simp

theorem getLast_lower {p : Char} (hp : IsFixed p) (s : List Char) :
    (lower s).getLast? = some p ↔ s.getLast? = some p := by
  rcases List.eq_nil_or_concat s with rfl | ⟨s, c, rfl⟩
  · rfl
  · obtain ⟨front, h⟩ := lowerFrom_concat [] s c
    rw [lower, List.concat_eq_append, h, List.getLast?_append, List.getLast?_append]
    constructor
    · intro hl
      rw [List.getLast?_eq_some_getLast (lowerAt_ne_nil _ c []), Option.some_or, Option.some.injEq] at hl
      have hmem := List.getLast_mem (lowerAt_ne_nil (s.reverse ++ []) c [])
      rw [hl] at hmem
      rw [eq_of_mem_lowerAt hp hmem]; rfl
    · intro hl
      obtain rfl : c = p := by simpa using hl
      rw [lowerAt_fixed hp]; rfl

/-! ## Texts in lower case -/

/-- a character that lowering leaves as it is, wherever it stands -/
structure IsLower (c : Char) : Prop where
  sigma : c ≠ 'Σ'
  same : lowerChar c = [c]

instance (c : Char) : Decidable (IsLower c) :=
  decidable_of_iff (c ≠ 'Σ' ∧ lowerChar c = [c]) ⟨fun h => ⟨h.1, h.2⟩, fun h => ⟨h.1, h.2⟩⟩

/-- Run `r` maps nothing that run `q` ends at: the code points lie apart, or those `q` ends at fall between those `r`
maps. -/
def CaseRun.passes (q r : CaseRun) : Bool :=
  Nat.blt r.hi q.image || Nat.blt (q.image + (q.hi - q.lo)) r.lo ||
    Nat.beq r.step 2 && Nat.beq ((q.image + r.lo) % 2) 1 && (Nat.beq q.step 2 || Nat.beq q.lo q.hi)

theorem CaseRun.not_maps_of_passes {q r : CaseRun} (h : q.passes r = true) {n : ℕ} (hn : q.Maps n) :
    ¬ r.Maps (q.image + (n - q.lo)) := by
  intro hr
  have h1 := hn.lo
  have h2 := hn.hi
  have h3 := hr.lo
  have h4 := hr.hi
  simp only [passes, Bool.or_eq_true, Bool.and_eq_true, Nat.blt_eq, Nat.beq_eq] at h
  rcases h with (h | h) | ⟨⟨hstep, hodd⟩, heven⟩
  · omega
  · omega
  · have h5 := hr.step
    rw [hstep] at h5
    rcases heven with heven | hsingle
    · have h6 := hn.step
      rw [heven] at h6
      omega
    · omega

/-- a code point that a map of runs ends at is not mapped again -/
theorem image_image {m : CaseMap} (h : (m.all fun q => m.all q.passes) = true) (n : ℕ) : m.image (m.image n) = m.image n := by
  rcases image_cases m n with hn | ⟨q, hq, hmaps, hn⟩
  · rw [hn, hn]
  · rcases image_cases m (m.image n) with hn' | ⟨r, hr, hmaps', -⟩
    · exact hn'
    · rw [hn] at hmaps'
      have hpasses : q.passes r = true := List.all_eq_true.1 (List.all_eq_true.1 h q hq) r hr
      exact absurd hmaps' (CaseRun.not_maps_of_passes hpasses hmaps)

theorem lowerRuns_passes : (lowerRuns.all fun q => lowerRuns.all q.passes) = true := by
  decide +kernel

/-- no other character is lowered to a capital I with dot, which the table does not hold -/
theorem ofNat_lowerRuns_image_ne {c : Char} (hc : c ≠ 'İ') : Char.ofNat (lowerRuns.image c.toNat) ≠ 'İ' := by
  intro hdot
  rcases image_cases lowerRuns c.toNat with h | ⟨q, hq, hmaps, h⟩
  · rw [h, Char.ofNat_toNat] at hdot
    exact hc hdot
  · obtain ⟨-, -, h1⟩ := lowerRuns_image q hq
    have hhi := hmaps.hi
    have hnat := toNat_lowerRuns_image c
    rw [hdot, h] at hnat
    change 0x130 = _ at hnat
    omega

theorem isLower_of_mem_lowerChar {c x : Char} (h : x ∈ lowerChar c) : IsLower x := by
  unfold lowerChar at h
  split_ifs at h with hc
  · rcases List.mem_pair.1 h with rfl | rfl <;> decide +kernel
  · obtain rfl := List.mem_singleton.1 h
    have hfixed := image_image lowerRuns_passes c.toNat
    rw [← toNat_lowerRuns_image c] at hfixed
    have hdot := ofNat_lowerRuns_image_ne hc
    generalize Char.ofNat (lowerRuns.image c.toNat) = x at hfixed hdot
    refine ⟨?_, by rw [lowerChar, if_neg hdot, hfixed, Char.ofNat_toNat]⟩
    -- the table lowers a capital sigma
    rintro rfl
    exact absurd hfixed (by decide +kernel)

theorem isLower_of_mem_lowerFrom {before s : List Char} {x : Char} (h : x ∈ lowerFrom before s) : IsLower x := by
  induction s generalizing before with
  | nil => exact absurd h List.not_mem_nil
  | cons c s ih =>
    rw [lowerFrom_cons] at h
    rcases List.mem_append.1 h with h | h
    · unfold lowerAt at h
      split_ifs at h
      · rw [List.mem_singleton.1 h]
        unfold lowerSigma
        split <;> decide +kernel
      · exact isLower_of_mem_lowerChar h
    · exact ih h

theorem isLower_of_mem_lower {s : List Char} {x : Char} (h : x ∈ lower s) : IsLower x := isLower_of_mem_lowerFrom h

theorem lowerFrom_eq_self {before s : List Char} (h : ∀ c ∈ s, IsLower c) : lowerFrom before s = s := by
  induction s generalizing before with
  | nil => rfl
  | cons c s ih =>
    obtain ⟨hc, hs⟩ := List.forall_mem_cons.1 h
    rw [lowerFrom_cons, lowerAt, if_neg hc.sigma, hc.same, ih hs]
    rfl

/-- a text none of whose characters is lowered anywhere is its own lower-case form -/
theorem lower_eq_self {s : List Char} (h : ∀ c ∈ s, IsLower c) : lower s = s := lowerFrom_eq_self h

theorem lower_lower (s : List Char) : lower (lower s) = lower s := lower_eq_self fun _ => isLower_of_mem_lower

/-! ## Case of `A`-`Z` -/

/-- what lowering looks at in a character -/
structure SameCase (a b : Char) : Prop where
  cased : isCased a = isCased b
  ignorable : isCaseIgnorable a = isCaseIgnorable b
  lowered : lowerChar a = lowerChar b
  sigma : a = 'Σ' ↔ b = 'Σ'

/-- what is the same for each capital and its small letter is the same for every character and its lower-case form -/
theorem apply_asciiLower {α : Type} (f : Char → α)
    (h : ∀ n ∈ List.range' 65 26, f (Char.ofNat (n + 32)) = f (Char.ofNat n)) (c : Char) : f (asciiLower c) = f c := by
  unfold asciiLower
  split_ifs with hcapital
  · obtain ⟨h1, h2⟩ := hcapital
    rw [Char.le_def, UInt32.le_iff_toNat_le] at h1 h2
    have hmem : c.toNat ∈ List.range' 65 26 := List.mem_range'_1.2 ⟨h1, Nat.lt_succ_of_le h2⟩
    have hc := h c.toNat hmem
    rwa [Char.ofNat_toNat] at hc
  · rfl

theorem sameCase_asciiLower (c : Char) : SameCase (asciiLower c) c where
  cased := apply_asciiLower isCased (by decide +kernel) c
  ignorable := apply_asciiLower isCaseIgnorable (by decide +kernel) c
  lowered := apply_asciiLower lowerChar (by decide +kernel) c
  sigma := decide_eq_decide.1 (apply_asciiLower (fun c => decide (c = 'Σ')) (by decide +kernel) c)

theorem casedAhead_map_asciiLower (s : List Char) : casedAhead (s.map asciiLower) = casedAhead s := by
  induction s with
  | nil => rfl
  | cons c s ih =>
    have hc := sameCase_asciiLower c
    simp only [List.map_cons, casedAhead, hc.cased, hc.ignorable, ih]

theorem lowerFrom_map_asciiLower (before s : List Char) :
    lowerFrom (before.map asciiLower) (s.map asciiLower) = lowerFrom before s := by
  induction s generalizing before with
  | nil => rfl
  | cons c s ih =>
    have hc := sameCase_asciiLower c
    have hs := ih (c :: before)
    rw [List.map_cons] at hs
    simp only [List.map_cons, lowerFrom_cons, hs, lowerAt, lowerSigma, casedAhead_map_asciiLower, hc.lowered, hc.sigma]

theorem lower_map_asciiLower (s : List Char) : lower (s.map asciiLower) = lower s := lowerFrom_map_asciiLower [] s

theorem lowercase_eq_of_eqIgnoreAsciiCase {a b : String} (h : eqIgnoreAsciiCase a b = true) :
    lowercase a = lowercase b := by
  have h' : a.toList.map asciiLower = b.toList.map asciiLower := by simpa [eqIgnoreAsciiCase] using h
  rw [lowercase, lowercase, ← lower_map_asciiLower a.toList, h', lower_map_asciiLower]

end SearchFilter.Text
