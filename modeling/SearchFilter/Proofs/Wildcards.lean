/-
What wildcard matching decides.

A pattern says character by character what a subject is made of. A library of regular expressions is given the pattern's
text and decides this, so the answer of a call is known without the library.
- `Engine.Implements`: what is asked of a library, and only on the texts of patterns.
- `library_implements`: the reader of expressions is such a library.
- `Matcher.step_eq_matchStep`, `Matcher.matchStep_eq`: a call, with the short cut and behind it, at any time of a matcher's
  life.
- `Matcher.step_eq_true_iff`: the answer of a call.
-/
import Mathlib
import SearchFilter.Proofs.Translation
import SearchFilter.Strategy.Library

namespace SearchFilter.Like

open SearchFilter.Regex

/-! ## Libraries -/

/-- the expression that a text is read and compiled to -/
def Denotes (text : String) (p : Pattern) : Prop :=
  ∃ f, ((Term.read text).bind fun t => t.compile .initial) = .ok (p, f)

theorem denotes_regexText {pattern : String} {p : Pattern} : Denotes (regexText pattern) p ↔ p = expression pattern := by
  unfold Denotes
  rw [compile_regexText]
  constructor
  · rintro ⟨f, h⟩
    exact (Prod.ext_iff.1 (Except.ok.inj h)).1.symm
  · rintro rfl
    exact ⟨inside, rfl⟩

variable {Regex : Type}

/-- An engine that does what a library of regular expressions says of itself, where `size` is the room that the expression
of a text takes once it is compiled: it builds an expression that is not too large, and what it has built accepts what the
expression matches. Nothing is asked of it but on the texts of wildcard patterns. -/
structure Engine.Implements (engine : Engine Regex) (size : String → ℕ) : Prop where
  builds : ∀ {pattern : String} {p : Pattern}, Denotes (regexText pattern) p → size (regexText pattern) ≤ patternSizeLimit →
    ∃ regex, engine.build (regexText pattern) = some regex
  accepts_iff : ∀ {pattern : String} {p : Pattern} {regex : Regex}, Denotes (regexText pattern) p →
    engine.build (regexText pattern) = some regex →
    ∀ subject, engine.accepts regex subject = true ↔ p.Matches subject

variable {engine : Engine Regex} {size : String → ℕ}

/-- such an engine takes every pattern that is not too large -/
theorem Engine.Implements.exists_regex (h : engine.Implements size) {pattern : String}
    (hsize : size (regexText pattern) ≤ patternSizeLimit) : ∃ regex, engine.build (regexText pattern) = some regex :=
  h.builds (denotes_regexText.2 rfl) hsize

/-- and accepts what the pattern stands for -/
theorem Engine.Implements.accepts_iff_declared (h : engine.Implements size) {pattern : String} {regex : Regex}
    (built : engine.build (regexText pattern) = some regex) (subject : List Char) :
    engine.accepts regex subject = true ↔ Declared pattern.toList subject := by
  rw [h.accepts_iff (denotes_regexText.2 rfl) built, matches_expression]

/-- the room that the compiled expression of a text takes -/
def expressionBytes (text : String) : ℕ := ((expression? text).map Pattern.size).getD 0

theorem expression?_of_denotes {text : String} {p : Pattern} (h : Denotes text p) : expression? text = some p := by
  obtain ⟨f, h⟩ := h
  rw [expression?, h]
  rfl

theorem library_implements : library.Implements expressionBytes where
  builds := by
    intro pattern p hp hsize
    rw [expressionBytes, expression?_of_denotes hp] at hsize
    refine ⟨p, ?_⟩
    unfold library
    simp only [expression?_of_denotes hp, Option.filter_some, decide_eq_true_eq]
    exact if_pos hsize
  accepts_iff := by
    intro pattern p regex hp built subject
    have hregex : regex = p := by
      unfold library at built
      simp only [expression?_of_denotes hp, Option.filter_some] at built
      split_ifs at built
      exact (Option.some.inj built).symm
    have hmatch := p.isMatch_iff (String.ofList subject)
    rw [String.toList_ofList] at hmatch
    rw [hregex]
    exact hmatch

/-! ## Calls -/

namespace Matcher

variable {budget : Duration} {m : Matcher Regex}

/-- a call that goes to the expression even if the texts are equal ignoring case -/
def matchStep (m : Matcher Regex) (c : Call) : Except EvalError Bool × Matcher Regex :=
  if c.subject.isEmpty ∨ c.pattern.isEmpty then (.ok false, m)
  else
    match m.compiled c.pattern with
    | .error e => (.error e, m)
    | .ok (regex, m) => (answer m.budget c.elapsed (m.engine.accepts regex) c.subject c.pattern, m)

/-- what a call is that goes there only if they are not -/
theorem step_eq_matchStep (m : Matcher Regex) (c : Call) : m.step c =
    if c.subject ≠ "" ∧ c.pattern ≠ "" ∧ Text.lowercase c.subject = Text.lowercase c.pattern then (.ok true, m)
    else m.matchStep c := by
  rw [step, matchStep]
  by_cases hempty : c.subject.isEmpty ∨ c.pattern.isEmpty
  · have hcut : ¬ (c.subject ≠ "" ∧ c.pattern ≠ "" ∧ Text.lowercase c.subject = Text.lowercase c.pattern) := by
      rintro ⟨hsubject, hpattern, -⟩
      rw [String.isEmpty_iff, String.isEmpty_iff] at hempty
      exact hempty.elim hsubject hpattern
    rw [if_pos hempty, if_pos hempty, if_neg hcut]
  · rw [if_neg hempty, if_neg hempty]
    rw [String.isEmpty_iff, String.isEmpty_iff, not_or] at hempty
    by_cases hsame : Text.lowercase c.subject = Text.lowercase c.pattern
    · rw [if_pos hsame, if_pos ⟨hempty.1, hempty.2, hsame⟩]
    · exact (if_neg hsame).trans (if_neg fun h => hsame h.2.2).symm

theorem matchStep_of_empty {c : Call} (hempty : c.subject = "" ∨ c.pattern = "") : (m.matchStep c).1 = .ok false := by
  rw [matchStep, if_pos (by rwa [String.isEmpty_iff, String.isEmpty_iff])]

/-- a match of texts that are not empty, whether the pattern is in the cache or not -/
theorem matchStep_eq (h : m.Sound engine budget) {c : Call} (hsubject : c.subject ≠ "") (hpattern : c.pattern ≠ "") :
    (m.matchStep c).1 = match engine.build (regexText c.pattern) with
      | none => .error (.oversizedPattern c.pattern)
      | some regex => answer budget c.elapsed (engine.accepts regex) c.subject c.pattern := by
  have hfull : ¬ (c.subject.isEmpty ∨ c.pattern.isEmpty) := by
    rw [String.isEmpty_iff, String.isEmpty_iff, not_or]
    exact ⟨hsubject, hpattern⟩
  rw [matchStep, if_neg hfull]
  cases hbuild : engine.build (regexText c.pattern) with
  | none => rw [h.compiled_eq_error hbuild]
  | some regex =>
    obtain ⟨m', hcompiled, hsound⟩ := h.compiled_eq_ok hbuild
    simp only [hcompiled, hsound.engine_eq, hsound.budget_eq]

theorem answer_eq_ok {elapsed : Duration} {accept : List Char → Bool} {subject pattern : String} {b : Bool} :
    answer budget elapsed accept subject pattern = .ok b ↔
      elapsed.nanoseconds < budget.nanoseconds ∧ accept subject.toList = b := by
  unfold answer
  split_ifs with hlate
  · simp [Nat.not_lt_of_le hlate]
  · simp [Nat.lt_of_not_le hlate]

/-- the answer of a match that is not refused and in time -/
theorem matchStep_answer (hengine : engine.Implements size) (h : m.Sound engine budget) {c : Call}
    (hsize : size (regexText c.pattern) ≤ patternSizeLimit) (htime : c.elapsed.nanoseconds < budget.nanoseconds) :
    ∃ b, (m.matchStep c).1 = .ok b ∧
      (b = true ↔ c.subject ≠ "" ∧ c.pattern ≠ "" ∧ Declared c.pattern.toList c.subject.toList) := by
  by_cases hempty : c.subject = "" ∨ c.pattern = ""
  · refine ⟨false, matchStep_of_empty hempty, ?_⟩
    simp only [Bool.false_eq_true, false_iff]
    rintro ⟨hsubject, hpattern, -⟩
    exact hempty.elim hsubject hpattern
  · obtain ⟨hsubject, hpattern⟩ := not_or.1 hempty
    obtain ⟨regex, built⟩ := hengine.exists_regex hsize
    refine ⟨engine.accepts regex c.subject.toList, ?_, ?_⟩
    · rw [matchStep_eq h hsubject hpattern, built]
      exact answer_eq_ok.2 ⟨htime, rfl⟩
    · rw [hengine.accepts_iff_declared built]
      exact ⟨fun hdeclared => ⟨hsubject, hpattern, hdeclared⟩, fun hcall => hcall.2.2⟩

/-- the answer of a call that is not refused and in time -/
theorem step_answer (hengine : engine.Implements size) (h : m.Sound engine budget) {c : Call}
    (hsize : size (regexText c.pattern) ≤ patternSizeLimit) (htime : c.elapsed.nanoseconds < budget.nanoseconds) :
    ∃ b, (m.step c).1 = .ok b ∧ (b = true ↔ c.subject ≠ "" ∧ c.pattern ≠ "" ∧
      (Text.lowercase c.subject = Text.lowercase c.pattern ∨ Declared c.pattern.toList c.subject.toList)) := by
  obtain ⟨b, hb, hiff⟩ := matchStep_answer hengine h hsize htime
  rw [step_eq_matchStep]
  split_ifs with hcut
  · exact ⟨true, rfl, fun _ => ⟨hcut.1, hcut.2.1, Or.inl hcut.2.2⟩, fun _ => rfl⟩
  · refine ⟨b, hb, hiff.trans ?_⟩
    constructor
    · rintro ⟨hsubject, hpattern, hdeclared⟩
      exact ⟨hsubject, hpattern, Or.inr hdeclared⟩
    · rintro ⟨hsubject, hpattern, hsame | hdeclared⟩
      · exact absurd ⟨hsubject, hpattern, hsame⟩ hcut
      · exact ⟨hsubject, hpattern, hdeclared⟩

/-- **Wildcards.** Over a library that does what it says, at any time of a matcher's life, a call whose pattern is within
the size limit and whose match is in time has an answer. The answer is yes exactly if neither text is empty and either they
are equal ignoring case, or the subject is a text that the pattern covers character by character and white space. -/
theorem step_eq_true_iff (hengine : engine.Implements size) (h : m.Sound engine budget) (c : Call)
    (hsize : size (regexText c.pattern) ≤ patternSizeLimit) (htime : c.elapsed.nanoseconds < budget.nanoseconds) :
    (∃ b, (m.step c).1 = .ok b) ∧
    ((m.step c).1 = .ok true ↔ c.subject ≠ "" ∧ c.pattern ≠ "" ∧
      (Text.lowercase c.subject = Text.lowercase c.pattern ∨
        ∃ body blanks, c.subject.toList = body ++ blanks ∧ (∀ x ∈ blanks, Text.isBlank x = true) ∧
          Covers c.pattern.toList body)) := by
  obtain ⟨b, hb, hiff⟩ := step_answer hengine h hsize htime
  refine ⟨⟨b, hb⟩, ?_⟩
  rw [hb, Except.ok.injEq]
  exact hiff

/-- a dot that stands for itself, a line break under `%` and another one after the last letter -/
theorem step_eq_true_iff_lines : ((ofEngine library ⟨5⟩).step ⟨"j.\nD\n", "J.%_", ⟨1⟩⟩).1 = .ok true := by
  have hcovers : Covers "J.%_".toList "j.\nD".toList :=
    .same (by decide) (by decide) (by decide +kernel)
      (.same (by decide) (by decide) (by decide +kernel) (.run ['\n'] (.one 'D' .nil)))
  exact (step_eq_true_iff library_implements (sound_ofEngine library ⟨5⟩) ⟨"j.\nD\n", "J.%_", ⟨1⟩⟩ (by decide +kernel)
    (by decide)).2.2 ⟨by decide, by decide,
      Or.inr ⟨"j.\nD".toList, ['\n'], rfl, List.forall_mem_singleton.2 (by decide), hcovers⟩⟩

end Matcher

end SearchFilter.Like
