/-
The short cut of wildcard matching.

A call answers yes at once if the two texts are equal ignoring case, and goes to the expression of the pattern otherwise.
The two look through case in different ways: lower-casing a text can make two characters of one and looks at what stands
around a sigma, an expression folds one character after the other. So they differ on some texts, but not on the patterns
of compiled filters, since only `A`-`Z` and the Kelvin sign are lowered to characters that a filter can hold.
- `fold_eq_of_lowers`: what is lowered to a character of a literal is equal to it under folding.
- `covers_lowerFrom`: a pattern of such characters covers every text that is lowered to it.
- `Expr.WellFormed.of_mem_leaves`: the leaves of a predicate have its shape.
- `shortCut_exact`: on the patterns of compiled filters the short cut only saves time.
-/
import Mathlib
import SearchFilter.Proofs.Lossless
import SearchFilter.Proofs.Wildcards

namespace SearchFilter

open SearchFilter.Text

/-! ## Lowered to characters of a literal -/

/-- no run of the lower-case map ends at characters of literals but runs that folding goes along with -/
theorem lowerRuns_fold : (lowerRuns.all fun r => valueCodes.all fun n => Nat.blt n r.image ||
    Nat.blt (r.image + (r.hi - r.lo)) n || Nat.beq (foldRuns.image (r.lo + (n - r.image))) (foldRuns.image n)) = true := by
  decide +kernel

/-- a character that is lowered to one of a literal is equal to it under folding -/
theorem fold_eq_of_lowers {c x : Char} (hx : Tile.isValueChar x = true) (h : lowerRuns.image c.toNat = x.toNat) :
    fold c = fold x := by
  rcases image_cases lowerRuns c.toNat with hsame | ⟨r, hr, hmaps, hrun⟩
  · rw [Char.toNat_inj.1 (hsame.symm.trans h)]
  · have hlo := hmaps.lo
    have hhi := hmaps.hi
    have hcode := List.all_eq_true.1 (List.all_eq_true.1 lowerRuns_fold r hr) x.toNat (mem_valueCodes hx)
    rw [Bool.or_eq_true, Bool.or_eq_true, Nat.blt_eq, Nat.blt_eq, Nat.beq_eq] at hcode
    rcases hcode with (hbelow | habove) | hfold
    · omega
    · omega
    · have hback : r.lo + (x.toNat - r.image) = c.toNat := by omega
      rw [hback] at hfold
      rw [fold, fold, hfold]

/-- a character of a literal, or the sign that stands for a wildcard in a pattern -/
def IsPatternChar (c : Char) : Prop := c = '%' ∨ Tile.isValueChar c = true

instance (c : Char) : Decidable (IsPatternChar c) := inferInstanceAs (Decidable (_ ∨ _))

/-- neither of the small sigmas is such a character, nor is the dot of a capital I -/
theorem lowerAt_eq_of_pattern {before after : List Char} {c : Char}
    (h : ∀ x ∈ lowerAt before c after, IsPatternChar x) :
    lowerAt before c after = [Char.ofNat (lowerRuns.image c.toNat)] := by
  unfold lowerAt lowerChar at h ⊢
  split_ifs at h ⊢ with hsigma hdot
  · have hsmall := h _ (List.mem_singleton.2 rfl)
    unfold lowerSigma at hsmall
    split at hsmall
    · exact absurd hsmall (by decide +kernel)
    · exact absurd hsmall (by decide +kernel)
  · exact absurd (h '\u0307' (by simp)) (by decide +kernel)
  · rfl

/-- **Lowered to a pattern.** A pattern of such characters covers every text that is lowered to it. -/
theorem covers_lowerFrom {before s : List Char} (h : ∀ x ∈ lowerFrom before s, IsPatternChar x) :
    Like.Covers (lowerFrom before s) s := by
  induction s generalizing before with
  | nil => exact .nil
  | cons c s ih =>
    rw [lowerFrom_cons] at h ⊢
    obtain ⟨hc, hs⟩ := List.forall_mem_append.1 h
    have hsingle := lowerAt_eq_of_pattern hc
    rw [hsingle] at hc ⊢
    have hnat := toNat_lowerRuns_image c
    generalize Char.ofNat (lowerRuns.image c.toNat) = x at hc hnat
    by_cases hrun : x = '%'
    · rw [hrun]
      exact .run [c] (ih hs)
    · have hvalue := (hc x (List.mem_singleton.2 rfl)).resolve_left hrun
      have hone : x ≠ '_' := by
        rintro rfl
        exact absurd hvalue (by decide +kernel)
      exact .same hrun hone (fold_eq_of_lowers hvalue hnat.symm) (ih hs)

theorem IsPattern.isPatternChar {pattern : String} (h : IsPattern pattern) : ∀ c ∈ pattern.toList, IsPatternChar c :=
  fun c hc => (h.chars c hc).imp_right fun hvalue => (isValueChar_iff c).2 (Or.inr hvalue)

theorem IsPattern.lower_eq {pattern : String} (h : IsPattern pattern) : lower pattern.toList = pattern.toList := by
  refine lower_eq_self fun c hc => ?_
  rcases h.isPatternChar c hc with rfl | hvalue
  · decide +kernel
  · exact isLower_of_isValueChar hvalue

/-- a subject that equals a pattern ignoring case is one the pattern stands for -/
theorem IsPattern.declared {pattern subject : String} (h : IsPattern pattern)
    (hsame : lowercase subject = lowercase pattern) : Like.Declared pattern.toList subject.toList := by
  rw [lowercase, lowercase, h.lower_eq, String.ofList_inj] at hsame
  have hcovers : Like.Covers (lower subject.toList) subject.toList := by
    refine covers_lowerFrom fun x hx => h.isPatternChar x ?_
    rw [← hsame]
    exact hx
  rw [hsame] at hcovers
  exact ⟨subject.toList, [], (List.append_nil _).symm, by simp, hcovers⟩

/-! ## Leaves -/

/-- the leaves of a predicate have its shape -/
theorem Expr.WellFormed.of_mem_leaves {named : String → Prop} {foldCase : Bool} {e leaf : Expr}
    (h : e.WellFormed named foldCase) (hleaf : leaf ∈ e.leaves) : leaf.WellFormed named foldCase := by
  induction h with
  | present name => exact List.mem_singleton.1 hleaf ▸ .present name
  | absent name => exact List.mem_singleton.1 hleaf ▸ .absent name
  | equals name literal plain => exact List.mem_singleton.1 hleaf ▸ .equals name literal plain
  | like name pieces => exact List.mem_singleton.1 hleaf ▸ .like name pieces
  | approximate name literal => exact List.mem_singleton.1 hleaf ▸ .approximate name literal
  | compare name literal => exact List.mem_singleton.1 hleaf ▸ .compare name literal
  | @and es two parts ih =>
    have hleaves : (Expr.and es).leaves = es.flatMap leaves := leavesAll_eq es
    rw [hleaves] at hleaf
    obtain ⟨e, he, hmem⟩ := List.mem_flatMap.1 hleaf
    exact ih e he hmem
  | @or es two parts ih =>
    have hleaves : (Expr.or es).leaves = es.flatMap leaves := leavesAll_eq es
    rw [hleaves] at hleaf
    obtain ⟨e, he, hmem⟩ := List.mem_flatMap.1 hleaf
    exact ih e he hmem

/-- the patterns of a compiled filter -/
theorem isPattern_of_mem_leaves {o : Options} {schema : Schema} {filter field pattern : String} {e : Expr} {negated : Bool}
    (h : compileExpr o schema filter = .ok e) (hleaf : .like field pattern negated ∈ e.leaves) : IsPattern pattern := by
  cases (compileExpr_shape h).1.of_mem_leaves hleaf with
  | like name pieces => exact pieces

/-! ## With and without the short cut -/

section

variable {Regex : Type} {engine : Like.Engine Regex} {size : String → ℕ}

/-- where texts are equal ignoring case, an answer of the expression is yes -/
theorem matchStep_eq_true (hengine : engine.Implements size) {budget : Duration} {m : Like.Matcher Regex}
    (hm : m.Sound engine budget) {c : Like.Call} (hsubject : c.subject ≠ "") (hpattern : IsPattern c.pattern)
    (hsame : lowercase c.subject = lowercase c.pattern) {b : Bool} (hb : (m.matchStep c).1 = .ok b) : b = true := by
  rw [Like.Matcher.matchStep_eq hm hsubject hpattern.nonempty] at hb
  cases hbuild : engine.build (Like.regexText c.pattern) with
  | none =>
    rw [hbuild] at hb
    cases hb
  | some regex =>
    rw [hbuild] at hb
    obtain ⟨-, rfl⟩ := Like.Matcher.answer_eq_ok.1 hb
    exact (hengine.accepts_iff_declared hbuild _).2 (hpattern.declared hsame)

/-- **The short cut.** For every pattern of a compiled filter and every subject:
- the text of the pattern's expression is read as an expression that matches the subject, if the two are equal ignoring
  case;
- whatever answer a call gives without the short cut it gives with it, over a library that does what it says and at any
  time of a matcher's life;
- if the pattern is within the size limit and the match in time, there is no difference at all. -/
theorem shortCut_exact (hengine : engine.Implements size) {o : Options} {schema : Schema} {filter field pattern : String}
    {e : Expr} {negated : Bool} (h : compileExpr o schema filter = .ok e) (hleaf : .like field pattern negated ∈ e.leaves)
    (subject : String) :
    (lowercase subject = lowercase pattern →
      ∃ p, Like.Denotes (Like.regexText pattern) p ∧ p.Matches subject.toList) ∧
    ∀ (budget elapsed : Duration) (m : Like.Matcher Regex), m.Sound engine budget →
      (∀ b, (m.matchStep ⟨subject, pattern, elapsed⟩).1 = .ok b → (m.step ⟨subject, pattern, elapsed⟩).1 = .ok b) ∧
      (size (Like.regexText pattern) ≤ patternSizeLimit → elapsed.nanoseconds < budget.nanoseconds →
        (m.step ⟨subject, pattern, elapsed⟩).1 = (m.matchStep ⟨subject, pattern, elapsed⟩).1) := by
  have hpattern := isPattern_of_mem_leaves h hleaf
  refine ⟨?_, ?_⟩
  · intro hsame
    exact ⟨_, Like.denotes_regexText.2 rfl, (Like.matches_expression _ _).2 (hpattern.declared hsame)⟩
  · intro budget elapsed m hm
    have hkept : ∀ b, (m.matchStep ⟨subject, pattern, elapsed⟩).1 = .ok b →
        (m.step ⟨subject, pattern, elapsed⟩).1 = .ok b := by
      intro b hb
      rw [Like.Matcher.step_eq_matchStep]
      split_ifs with hcut
      · rw [matchStep_eq_true hengine hm hcut.1 hpattern hcut.2.2 hb]
      · exact hb
    refine ⟨hkept, ?_⟩
    intro hsize htime
    obtain ⟨b, hb, -⟩ := Like.Matcher.matchStep_answer hengine hm (c := ⟨subject, pattern, elapsed⟩) hsize htime
    rw [hb]
    exact hkept b hb

/-- the Kelvin sign is lowered to `k` and equal to it under folding, and a percent sign is one of the texts a wildcard
stands for -/
theorem shortCut_exact_kelvin :
    lowercase "\u212A%" = lowercase "k%" ∧
    (∃ p, Like.Denotes (Like.regexText "k%") p ∧ p.Matches "\u212A%".toList) ∧
    ((Like.Matcher.ofEngine Like.library ⟨5⟩).step ⟨"\u212A%", "k%", ⟨1⟩⟩).1 =
      ((Like.Matcher.ofEngine Like.library ⟨5⟩).matchStep ⟨"\u212A%", "k%", ⟨1⟩⟩).1 := by
  have h : compileExpr (.default Like.library .standard) (.ofNames ["Sn"]) "(sn=k*)" = .ok (.like "Sn" "k%" false) := by cbv
  have hsame : lowercase "\u212A%" = lowercase "k%" := by decide +kernel
  obtain ⟨hmatches, hsteps⟩ := shortCut_exact Like.library_implements h (List.mem_singleton.2 rfl) "\u212A%"
  have hsound := Like.Matcher.sound_ofEngine Like.library ⟨5⟩
  exact ⟨hsame, hmatches hsame, (hsteps ⟨5⟩ ⟨1⟩ _ hsound).2 (by decide +kernel) (by decide)⟩

/-- off the alphabet of filters the two differ: a capital I with dot is lowered to two characters -/
example : lower ['İ'] = lower ['i', '\u0307'] ∧ fold 'İ' ≠ fold 'i' := by
  decide +kernel

end

end SearchFilter
