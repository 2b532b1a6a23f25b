/-
Whole numbers as 64-bit numbers.

A 64-bit number has 53 bits, so whole numbers up to `2 ^ 53` are exact and greater ones are rounded: to the nearest number
of 53 bits, a tie to the one that needs fewer.
- `roundDiv_cases`, `roundDiv_mono`: dividing to the nearest whole number, and its order.
- `nearest`, `isNearest_nearest`: the rounded number, as multiples of a unit and as the nearest of all.
- `nearest_mono`: rounding never turns two numbers round, though it may make them equal.
- `round_whole`: this is how a whole number becomes a 64-bit number.
- `le_finite`: 64-bit numbers are ordered by value.
-/
import Mathlib.Data.Nat.Dist
import Mathlib.Tactic
import SearchFilter.Number.Binary

namespace SearchFilter.Number

/-! ## Division to the nearest -/

section

variable {n d : ℕ}

/-- the quotient or the number after it, by the remainder, and at a tie the even one -/
theorem roundDiv_cases (n d : ℕ) :
    (roundDiv n d = n / d ∧ 2 * (n % d) ≤ d ∧ (2 * (n % d) = d → n / d % 2 = 0)) ∨
      (roundDiv n d = n / d + 1 ∧ d ≤ 2 * (n % d) ∧ (2 * (n % d) = d → n / d % 2 = 1)) := by
  unfold roundDiv
  dsimp only
  split_ifs with h
  · rw [Bool.or_eq_true, Bool.and_eq_true, decide_eq_true_eq, beq_iff_eq, beq_iff_eq] at h
    exact Or.inl ⟨rfl, by omega, by omega⟩
  · rw [Bool.or_eq_true, Bool.and_eq_true, decide_eq_true_eq, beq_iff_eq, beq_iff_eq] at h
    exact Or.inr ⟨rfl, by omega, by omega⟩

theorem roundDiv_one (n : ℕ) : roundDiv n 1 = n := by
  have hmod := Nat.mod_one n
  have hdiv := Nat.div_one n
  rcases roundDiv_cases n 1 with ⟨hround, -, -⟩ | ⟨-, hrest, -⟩
  · rw [hround, hdiv]
  · omega

theorem roundDiv_mono {m : ℕ} (h : m ≤ n) (d : ℕ) : roundDiv m d ≤ roundDiv n d := by
  have hdiv : m / d ≤ n / d := Nat.div_le_div_right h
  have hm := Nat.div_add_mod m d
  have hn := Nat.div_add_mod n d
  rcases hdiv.lt_or_eq with hlt | heq
  · rcases roundDiv_cases m d with ⟨hround, -, -⟩ | ⟨hround, -, -⟩ <;>
      rcases roundDiv_cases n d with ⟨hround', -, -⟩ | ⟨hround', -, -⟩ <;> omega
  · -- with one quotient the remainders are in order, and a tie goes the same way
    have hmod : m % d ≤ n % d := by
      rw [heq] at hm
      omega
    rcases roundDiv_cases m d with ⟨hround, hrest, htie⟩ | ⟨hround, hrest, htie⟩ <;>
      rcases roundDiv_cases n d with ⟨hround', hrest', htie'⟩ | ⟨hround', hrest', htie'⟩ <;> omega

/-- no multiple is closer, and one as close is the same or leaves the even one -/
theorem dist_roundDiv (hd : 0 < d) (n t : ℕ) :
    Nat.dist n (roundDiv n d * d) ≤ Nat.dist n (t * d) ∧
      (Nat.dist n (t * d) = Nat.dist n (roundDiv n d * d) → t = roundDiv n d ∨ roundDiv n d % 2 = 0) := by
  have hn : n / d * d + n % d = n := Nat.div_add_mod' n d
  have hrest : n % d < d := Nat.mod_lt n hd
  have hnext : (n / d + 1) * d = n / d * d + d := Nat.succ_mul _ _
  -- the multiples are in a row, and `n` is between two of them
  have hmultiples : t * d + d ≤ n / d * d ∨ t = n / d ∨ t = n / d + 1 ∨ n / d * d + 2 * d ≤ t * d := by
    rcases lt_trichotomy t (n / d) with hlt | heq | hgt
    · have hmul := Nat.mul_le_mul_right d hlt
      rw [Nat.succ_mul] at hmul
      exact Or.inl hmul
    · exact Or.inr (Or.inl heq)
    · rcases Nat.eq_or_lt_of_le hgt with heq | hlt
      · exact Or.inr (Or.inr (Or.inl heq.symm))
      · have hmul := Nat.mul_le_mul_right d hlt
        rw [Nat.succ_mul, Nat.succ_mul] at hmul
        exact Or.inr (Or.inr (Or.inr (by omega)))
  unfold Nat.dist
  rcases roundDiv_cases n d with ⟨hround, hhalf, htie⟩ | ⟨hround, hhalf, htie⟩
  · rw [hround]
    rcases hmultiples with hbelow | rfl | rfl | habove <;> omega
  · rw [hround, hnext]
    rcases hmultiples with hbelow | rfl | rfl | habove <;> omega

end

/-! ## Numbers of so many bits -/

/-- a number of so many bits, times a power of two -/
def Fits (bits n : ℕ) : Prop := ∃ s k, s < 2 ^ bits ∧ n = s * 2 ^ k

/-- `x` is the number of 53 bits nearest to `n`, of two the one that needs fewer bits -/
structure IsNearest (n x : ℕ) : Prop where
  fits : Fits 53 x
  closest : ∀ y, Fits 53 y → Nat.dist n x ≤ Nat.dist n y
  tie : ∀ y, Fits 53 y → Nat.dist n y = Nat.dist n x → y = x ∨ Fits 52 x

/-- the last of the 53 bits of a number -/
def lastBit (n : ℕ) : ℕ := 2 ^ (n.log2 - 52)

/-- a whole number, rounded to 53 bits -/
def nearest (n : ℕ) : ℕ := roundDiv n (lastBit n) * lastBit n

theorem lastBit_pos (n : ℕ) : 0 < lastBit n := Nat.two_pow_pos _

theorem fits_of_le {bits s : ℕ} (h : s ≤ 2 ^ bits) (hbits : 0 < bits) (k : ℕ) : Fits bits (s * 2 ^ k) := by
  rcases h.lt_or_eq with hlt | rfl
  · exact ⟨s, k, hlt, rfl⟩
  · refine ⟨1, bits + k, Nat.one_lt_two_pow hbits.ne', ?_⟩
    rw [Nat.one_mul, Nat.pow_add]

section

variable {n : ℕ}

/-- numbers up to `2 ^ 53` are not rounded -/
theorem nearest_of_lastBit (h : lastBit n = 1) : nearest n = n := by
  rw [nearest, h, roundDiv_one, Nat.mul_one]

theorem lastBit_eq_one (h : n < 2 ^ 53) : lastBit n = 1 := by
  have hlog : n.log2 - 52 = 0 := by
    by_cases hn : n = 0
    · rw [hn]
      rfl
    · have := (Nat.log2_lt hn).2 h
      omega
  rw [lastBit, hlog, Nat.pow_zero]

theorem nearest_of_le (h : n ≤ 2 ^ 53) : nearest n = n := by
  rcases h.lt_or_eq with hlt | rfl
  · exact nearest_of_lastBit (lastBit_eq_one hlt)
  · decide +kernel

theorem lt_lastBit (n : ℕ) : n < 2 ^ 53 * lastBit n := by
  by_cases h : n < 2 ^ 53
  · rw [lastBit_eq_one h, Nat.mul_one]
    exact h
  · have hlog : 53 ≤ n.log2 := (Nat.le_log2 (by omega)).2 (Nat.le_of_not_lt h)
    have hexponent : 53 + (n.log2 - 52) = n.log2 + 1 := by omega
    rw [lastBit, ← Nat.pow_add, hexponent]
    exact Nat.lt_log2_self

/-- a number that is rounded has 53 bits from the last on -/
theorem lastBit_le (h : lastBit n ≠ 1) : 2 ^ 52 * lastBit n ≤ n := by
  have hlog : 52 < n.log2 := by
    by_contra hle
    apply h
    rw [lastBit, Nat.sub_eq_zero_of_le (Nat.le_of_not_lt hle), Nat.pow_zero]
  have hn : n ≠ 0 := by
    rintro rfl
    exact absurd hlog (by decide)
  have hexponent : 52 + (n.log2 - 52) = n.log2 := by omega
  rw [lastBit, ← Nat.pow_add, hexponent]
  exact Nat.log2_self_le hn

theorem roundDiv_lastBit_le (n : ℕ) : roundDiv n (lastBit n) ≤ 2 ^ 53 := by
  have hdiv : n / lastBit n < 2 ^ 53 := (Nat.div_lt_iff_lt_mul (lastBit_pos n)).2 (lt_lastBit n)
  rcases roundDiv_cases n (lastBit n) with ⟨hround, -, -⟩ | ⟨hround, -, -⟩ <;> omega

/-- for every number of 53 bits there is a multiple of the last bit that is the number, or closer -/
theorem exists_multiple (n : ℕ) {y : ℕ} (hy : Fits 53 y) :
    ∃ t, t * lastBit n = y ∨ Nat.dist n (t * lastBit n) < Nat.dist n y := by
  obtain ⟨s, j, hs, rfl⟩ := hy
  by_cases hone : lastBit n = 1
  · exact ⟨s * 2 ^ j, Or.inl (by rw [hone, Nat.mul_one])⟩
  rcases Nat.lt_or_ge j (n.log2 - 52) with hlt | hge
  · -- too few bits before the point: the number is below those of as many bits as `n`
    have hbelow : s * 2 ^ j < 2 ^ 52 * lastBit n := by
      calc s * 2 ^ j < 2 ^ 53 * 2 ^ j := Nat.mul_lt_mul_of_pos_right hs (Nat.two_pow_pos j)
        _ = 2 ^ 52 * 2 ^ (j + 1) := by ring
        _ ≤ 2 ^ 52 * lastBit n := Nat.mul_le_mul_left _ (Nat.pow_le_pow_right (by decide) hlt)
    have hle := lastBit_le hone
    refine ⟨2 ^ 52, Or.inr ?_⟩
    unfold Nat.dist
    omega
  · refine ⟨s * 2 ^ (j - (n.log2 - 52)), Or.inl ?_⟩
    rw [lastBit, Nat.mul_assoc, ← Nat.pow_add, Nat.sub_add_cancel hge]

/-- **Rounding.** The rounded number is the nearest of 53 bits. -/
theorem isNearest_nearest (n : ℕ) : IsNearest n (nearest n) where
  fits := fits_of_le (roundDiv_lastBit_le n) (by decide) _
  closest y hy := by
    obtain ⟨t, ht⟩ := exists_multiple n hy
    have hclosest := (dist_roundDiv (lastBit_pos n) n t).1
    rcases ht with rfl | hcloser
    · exact hclosest
    · exact hclosest.trans hcloser.le
  tie y hy hdist := by
    obtain ⟨t, ht⟩ := exists_multiple n hy
    obtain ⟨hclosest, htie⟩ := dist_roundDiv (lastBit_pos n) n t
    rcases ht with rfl | hcloser
    · rcases htie hdist with heq | heven
      · exact Or.inl (congrArg (· * lastBit n) heq)
      · -- the last of the 53 bits is not needed
        have hhalf : roundDiv n (lastBit n) = roundDiv n (lastBit n) / 2 * 2 := by omega
        have hle := roundDiv_lastBit_le n
        have hsplit : nearest n = roundDiv n (lastBit n) / 2 * 2 ^ (n.log2 - 52 + 1) := by
          rw [nearest, hhalf, lastBit, Nat.mul_assoc, Nat.pow_succ']
          congr 1
          omega
        rw [hsplit]
        exact Or.inr (fits_of_le (by omega) (by decide) _)
    · rw [hdist] at hcloser
      exact absurd (hclosest.trans_lt hcloser) (lt_irrefl _)

/-- ties on either side of a number that needs 53 bits -/
example : nearest (2 ^ 53 + 1) = 2 ^ 53 ∧ nearest (2 ^ 53 + 3) = 2 ^ 53 + 4 := by decide +kernel

/-- **Order.** Rounding keeps the order, up to equality. -/
theorem nearest_mono {m : ℕ} (h : m ≤ n) : nearest m ≤ nearest n := by
  have hlog : m.log2 ≤ n.log2 := by
    rw [Nat.log2_eq_log_two, Nat.log2_eq_log_two]
    exact Nat.log_mono_right h
  have hbits : lastBit m = lastBit n ∨ 2 * lastBit m ≤ lastBit n := by
    rcases Nat.eq_or_lt_of_le (Nat.sub_le_sub_right hlog 52) with heq | hlt
    · exact Or.inl (congrArg (2 ^ ·) heq)
    · refine Or.inr ?_
      rw [lastBit, ← Nat.pow_succ']
      exact Nat.pow_le_pow_right (by decide) hlt
  rcases hbits with heq | hlt
  · rw [nearest, nearest, heq]
    exact Nat.mul_le_mul_right _ (roundDiv_mono h _)
  · have hone : lastBit n ≠ 1 := by
      have := lastBit_pos m
      omega
    have hdiv : 2 ^ 52 ≤ n / lastBit n := (Nat.le_div_iff_mul_le (lastBit_pos n)).2 (lastBit_le hone)
    have hround : 2 ^ 52 ≤ roundDiv n (lastBit n) := by
      rcases roundDiv_cases n (lastBit n) with ⟨hround, -, -⟩ | ⟨hround, -, -⟩ <;> omega
    calc nearest m ≤ 2 ^ 53 * lastBit m := Nat.mul_le_mul_right _ (roundDiv_lastBit_le m)
      _ = 2 ^ 52 * (2 * lastBit m) := by ring
      _ ≤ 2 ^ 52 * lastBit n := Nat.mul_le_mul_left _ hlt
      _ ≤ nearest n := Nat.mul_le_mul_right _ hround

end

/-! ## 64-bit numbers -/

theorem twoTo_eq (n : ℕ) : twoTo n = 2 ^ n := rfl

theorem exponentOf_whole {n : ℕ} (h : n ≠ 0) : double.exponentOf n 1 = (n.log2 : ℤ) - 52 := by
  have hlow := Nat.log2_self_le h
  have hleast : max double.least ((n.log2 : ℤ) - (Nat.log2 1 : ℕ) - double.precision) = (n.log2 : ℤ) - 53 := by
    have hone : Nat.log2 1 = 0 := rfl
    rw [hone]
    simp only [double]
    omega
  -- the estimate is one too low, whether it scales up or down
  have hscale : twoTo double.precision ≤ (scaleBy n 1 ((n.log2 : ℤ) - 53)).1 / (scaleBy n 1 ((n.log2 : ℤ) - 53)).2 := by
    simp only [scaleBy, twoTo_eq, double]
    split_ifs with hneg
    · have hsum : 53 = n.log2 + (-((n.log2 : ℤ) - 53)).toNat := by omega
      rw [Nat.div_one]
      calc 2 ^ 53 = 2 ^ n.log2 * 2 ^ (-((n.log2 : ℤ) - 53)).toNat := by rw [← Nat.pow_add, ← hsum]
        _ ≤ n * 2 ^ (-((n.log2 : ℤ) - 53)).toNat := Nat.mul_le_mul_right _ hlow
    · have hsum : 53 + ((n.log2 : ℤ) - 53).toNat = n.log2 := by omega
      rw [Nat.one_mul]
      apply (Nat.le_div_iff_mul_le (Nat.two_pow_pos _)).2
      calc 2 ^ 53 * 2 ^ ((n.log2 : ℤ) - 53).toNat = 2 ^ n.log2 := by rw [← Nat.pow_add, hsum]
        _ ≤ n := hlow
  unfold Format.exponentOf
  simp only [hleast]
  rw [if_pos hscale]
  omega

/-- scaled to its last bit and rounded, a whole number is worth its rounded value -/
theorem roundDiv_scaleBy (n : ℕ) : ((roundDiv (scaleBy n 1 ((n.log2 : ℤ) - 52)).1
    (scaleBy n 1 ((n.log2 : ℤ) - 52)).2 : ℕ) : ℚ) * 2 ^ ((n.log2 : ℤ) - 52) = nearest n := by
  simp only [scaleBy, twoTo_eq]
  split_ifs with hneg
  · have hone : lastBit n = 1 := by
      have hlog : n.log2 - 52 = 0 := by omega
      rw [lastBit, hlog, Nat.pow_zero]
    have hexponent : (n.log2 : ℤ) - 52 = -((-((n.log2 : ℤ) - 52)).toNat : ℤ) := by omega
    have hpos : (2 : ℚ) ^ (-((n.log2 : ℤ) - 52)).toNat ≠ 0 := by positivity
    rw [nearest_of_lastBit hone, roundDiv_one]
    push_cast
    nth_rewrite 2 [hexponent]
    rw [zpow_neg, zpow_natCast, mul_assoc, mul_inv_cancel₀ hpos, mul_one]
  · have hexponent : ((n.log2 : ℤ) - 52).toNat = n.log2 - 52 := by omega
    have hcast : (n.log2 : ℤ) - 52 = ((n.log2 - 52 : ℕ) : ℤ) := by omega
    rw [hexponent, hcast, Nat.one_mul, zpow_natCast, nearest, lastBit]
    push_cast
    rfl

/-- **Whole numbers.** A whole number becomes the 64-bit number of its rounded value. -/
theorem round_whole {n : ℕ} (h : n.log2 < 1000) :
    ∃ (m : ℕ) (e : ℤ), double.round false n 1 = .finite false m e ∧ (m : ℚ) * 2 ^ e = nearest n := by
  by_cases hn : n = 0
  · subst hn
    exact ⟨0, -1074, rfl, by rw [nearest_of_le (Nat.zero_le _)]; simp⟩
  have hvalue := roundDiv_scaleBy n
  unfold Format.round
  rw [if_neg hn, exponentOf_whole hn]
  dsimp only
  generalize roundDiv (scaleBy n 1 ((n.log2 : ℤ) - 52)).1 (scaleBy n 1 ((n.log2 : ℤ) - 52)).2 = m at hvalue ⊢
  have hgreatest : ¬ (n.log2 : ℤ) - 52 + 1 > double.greatest := by
    simp only [double]
    omega
  by_cases hcarry : m = twoTo double.precision
  · rw [if_pos hcarry]
    dsimp only
    rw [if_neg hgreatest]
    refine ⟨_, _, rfl, ?_⟩
    have hdouble : twoTo double.precision = twoTo (double.precision - 1) * 2 := rfl
    rw [← hvalue, hcarry, hdouble, zpow_add_one₀ (by norm_num)]
    push_cast
    ring
  · rw [if_neg hcarry]
    dsimp only
    rw [if_neg (by omega)]
    exact ⟨m, _, rfl, hvalue⟩

/-- **Order.** Numbers without a sign are ordered by value. -/
theorem le_finite (m m' : ℕ) (e e' : ℤ) :
    Binary.le (.finite false m e) (.finite false m' e') = decide ((m : ℚ) * 2 ^ e ≤ m' * 2 ^ e') := by
  have hunits : ∀ (n : ℕ) (x : ℤ), min e e' ≤ x →
      (n : ℚ) * 2 ^ x = (Binary.units (min e e') false n x : ℚ) * 2 ^ min e e' := by
    intro n x hx
    have hsplit : x = ((x - min e e').toNat : ℤ) + min e e' := by omega
    calc (n : ℚ) * 2 ^ x = n * (2 ^ (x - min e e').toNat * 2 ^ min e e') := by
          nth_rewrite 1 [hsplit]
          rw [zpow_add₀ (by norm_num), zpow_natCast]
      _ = (Binary.units (min e e') false n x : ℚ) * 2 ^ min e e' := by
          simp [Binary.units, twoTo, mul_assoc]
  have hpos : (0 : ℚ) < 2 ^ min e e' := by positivity
  rw [Binary.le, Binary.finiteLe, hunits m e (min_le_left e e'), hunits m' e' (min_le_right e e')]
  rw [decide_eq_decide, mul_le_mul_iff_left₀ hpos, Int.cast_le]

theorem lt_finite (m m' : ℕ) (e e' : ℤ) :
    Binary.lt (.finite false m e) (.finite false m' e') = decide ((m : ℚ) * 2 ^ e < m' * 2 ^ e') := by
  have hlt : Binary.lt (.finite false m e) (.finite false m' e') = !Binary.le (.finite false m' e') (.finite false m e) :=
    rfl
  rw [hlt, le_finite, ← decide_not, decide_eq_decide, not_le]

end SearchFilter.Number
