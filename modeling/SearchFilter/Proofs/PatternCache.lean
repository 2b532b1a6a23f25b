/-
The cache of patterns.

A matcher keeps what the engine made of a pattern and asks the engine again only when the pattern is not there. Nothing of
this can be seen from outside: the engine makes the same of the same text, what is kept under a pattern is what the engine
makes of that pattern, and emptying a full cache only costs time.
- `Matcher.Sound`: the invariant of the cache; `compiled_eq_error` and `compiled_eq_ok` say what looking a pattern up gives
  under it, on a hit and on a miss.
- `Matcher.step_sound`, `Matcher.run_sound`: one call, and all calls of a matcher's life.
- `Matcher.run_cached`: every call answers as the first call of a new matcher would, and the cache stays sound. So the
  strategy that predicates call needs no cache.
-/
import Mathlib
import SearchFilter.Strategy.Like

namespace SearchFilter.Like

/-! ## Sound caches -/

namespace Matcher

variable {Regex : Type} {engine : Engine Regex} {budget : Duration} {m : Matcher Regex}

/-- A matcher in the middle of its life: its cache is within its capacity, holds a pattern once, and holds under each
pattern what the engine makes of that pattern's expression. -/
structure Sound (engine : Engine Regex) (budget : Duration) (m : Matcher Regex) : Prop where
  engine_eq : m.engine = engine
  budget_eq : m.budget = budget
  bounded : m.cache.length ≤ cacheCapacity
  distinct : (m.cache.map Prod.fst).Nodup
  built : ∀ entry ∈ m.cache, engine.build (regexText entry.1) = some entry.2

theorem sound_ofEngine (engine : Engine Regex) (budget : Duration) : (ofEngine engine budget).Sound engine budget where
  engine_eq := rfl
  budget_eq := rfl
  bounded := Nat.zero_le _
  distinct := List.nodup_nil
  built := by simp [ofEngine]

/-- what a hit gives -/
theorem Sound.build_of_lookup (h : m.Sound engine budget) {pattern : String} {regex : Regex}
    (hit : m.cache.lookup pattern = some regex) : engine.build (regexText pattern) = some regex := by
  obtain ⟨before, beyond, hcache, -⟩ := List.lookup_eq_some_iff.1 hit
  refine h.built (pattern, regex) ?_
  rw [hcache]
  exact List.mem_append_right _ List.mem_cons_self

/-- what is kept when a pattern is built that was not there -/
theorem Sound.insert (h : m.Sound engine budget) {pattern : String} {regex : Regex}
    (miss : m.cache.lookup pattern = none) (built : engine.build (regexText pattern) = some regex) :
    Sound engine budget
      { m with cache := (pattern, regex) :: if m.cache.length ≥ cacheCapacity then [] else m.cache } := by
  by_cases hfull : m.cache.length ≥ cacheCapacity
  · -- the cache was emptied, so the new entry is the only one
    rw [if_pos hfull]
    have hroom : 1 ≤ cacheCapacity := by decide
    exact ⟨h.engine_eq, h.budget_eq, hroom, List.nodup_singleton _, List.forall_mem_singleton.2 built⟩
  · rw [if_neg hfull]
    have hnew : pattern ∉ m.cache.map Prod.fst := by
      intro hmem
      obtain ⟨entry, hentry, hkey⟩ := List.mem_map.1 hmem
      have hne := List.lookup_eq_none_iff.1 miss entry hentry
      rw [hkey] at hne
      simp at hne
    refine ⟨h.engine_eq, h.budget_eq, Nat.lt_of_not_le hfull, List.nodup_cons.2 ⟨hnew, h.distinct⟩, ?_⟩
    exact List.forall_mem_cons.2 ⟨built, h.built⟩

/-- a pattern the engine does not take is never in the cache -/
theorem Sound.compiled_eq_error (h : m.Sound engine budget) {pattern : String}
    (refused : engine.build (regexText pattern) = none) : m.compiled pattern = .error (.oversizedPattern pattern) := by
  rw [compiled]
  cases hlookup : m.cache.lookup pattern with
  | some regex => cases refused.symm.trans (h.build_of_lookup hlookup)
  | none => simp only [h.engine_eq, refused]

/-- a pattern the engine takes gives what the engine makes of it, from the cache or not -/
theorem Sound.compiled_eq_ok (h : m.Sound engine budget) {pattern : String} {regex : Regex}
    (built : engine.build (regexText pattern) = some regex) :
    ∃ m', m.compiled pattern = .ok (regex, m') ∧ m'.Sound engine budget := by
  rw [compiled]
  cases hlookup : m.cache.lookup pattern with
  | some kept =>
    obtain rfl := Option.some.inj ((h.build_of_lookup hlookup).symm.trans built)
    exact ⟨m, rfl, h⟩
  | none =>
    refine ⟨_, ?_, h.insert hlookup built⟩
    simp only [h.engine_eq, built]

/-! ## Calls -/

/-- **One call.** It answers as a new matcher would, and leaves a sound cache. -/
theorem step_sound (h : m.Sound engine budget) (c : Call) :
    (m.step c).1 = ((ofEngine engine budget).step c).1 ∧ (m.step c).2.Sound engine budget := by
  have hnew := sound_ofEngine engine budget
  rw [step, step]
  by_cases hempty : c.subject.isEmpty ∨ c.pattern.isEmpty
  · simp only [if_pos hempty]
    exact ⟨trivial, h⟩
  simp only [if_neg hempty]
  by_cases hsame : Text.lowercase c.subject = Text.lowercase c.pattern
  · simp only [if_pos hsame]
    exact ⟨trivial, h⟩
  simp only [if_neg hsame]
  cases hbuild : engine.build (regexText c.pattern) with
  | none =>
    rw [h.compiled_eq_error hbuild, hnew.compiled_eq_error hbuild]
    exact ⟨rfl, h⟩
  | some regex =>
    obtain ⟨m', hm', hsound⟩ := h.compiled_eq_ok hbuild
    obtain ⟨n', hn', hsound'⟩ := hnew.compiled_eq_ok hbuild
    rw [hm', hn']
    simp only [hsound.engine_eq, hsound.budget_eq, hsound'.engine_eq, hsound'.budget_eq]
    exact ⟨trivial, hsound⟩

/-- **All calls.** -/
theorem run_sound (h : m.Sound engine budget) (calls : List Call) :
    (m.run calls).1 = calls.map (fun c => ((ofEngine engine budget).step c).1) ∧
      (m.run calls).2.Sound engine budget := by
  induction calls generalizing m with
  | nil => exact ⟨rfl, h⟩
  | cons c calls ih =>
    obtain ⟨hanswer, hsound⟩ := step_sound h c
    obtain ⟨hanswers, hsound'⟩ := ih hsound
    refine ⟨?_, hsound'⟩
    rw [List.map_cons, ← hanswer, ← hanswers]
    rfl

/-- **The cache is invisible and bounded.** Over any engine, each call of a matcher's life answers as the same call would
as the first one of a new matcher with this budget. After any number of calls the cache holds at most 256 patterns, each
once, and under each of them what the engine makes of that pattern's expression. -/
theorem run_cached (engine : Engine Regex) (budget : Duration) (calls : List Call) :
    ((ofEngine engine budget).run calls).1 = calls.map (fun c => ((ofEngine engine budget).step c).1) ∧
    ∀ n, let cache := ((ofEngine engine budget).run (calls.take n)).2.cache
      cache.length ≤ 256 ∧ (cache.map Prod.fst).Nodup ∧
        ∀ entry ∈ cache, engine.build (regexText entry.1) = some entry.2 := by
  have hnew := sound_ofEngine engine budget
  refine ⟨(run_sound hnew calls).1, fun n => ?_⟩
  have hsound := (run_sound hnew (calls.take n)).2
  exact ⟨hsound.bounded, hsound.distinct, hsound.built⟩

/-- over a library that matches everything, the second call finds the pattern in the cache and runs out of time all the
same; the third never looks for it -/
example :
    let (answers, m) := (ofEngine ⟨some, fun _ _ => true⟩ ⟨9⟩).run
      [⟨"doe", "d%", ⟨1⟩⟩, ⟨"dove", "d%", ⟨9⟩⟩, ⟨"D%", "d%", ⟨9⟩⟩]
    answers = [.ok true, .error (.matchTimeout "d%" ⟨9⟩), .ok true] ∧ m.cache = [("d%", regexText "d%")] := by
  decide +kernel

end Matcher
end SearchFilter.Like
