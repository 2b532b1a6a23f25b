/-
Evaluation does not see the case of `A`-`Z` in records.

Each kind of leaf looks through case in its own way: equality lowers the field, wildcards fold characters one by one,
codes are made of capitals, numbers allow either case in exponents and words. The two runs of a predicate on records that
differ in case only go through the same leaves, and where one fails the other fails too.
- `CaseBlind`: functions of texts that do not see the case; `Like.caseBlind_declared`, `Phonetic.caseBlind_code` and
  `Number.caseBlind_read` are the three that leaves rest on.
- `Like.Matcher.step_caseBlind`: hence two calls on matchers over one library, whatever is in their caches.
- `SameUpToCase`: records that differ in case only, such as objects with the same keys (`Json.Members.SameUpToCase.record`).
- `Expr.RaisedAt`: a failure with the way from the root to the leaf that raised it. It is the outcome of the run
  (`RaisedAt.evaluate_eq`), and no other leaf of the run raises one (`RaisedAt.unique`).
- `Expr.agree_join`, `Expr.WellFormed.agree`: two runs agree on a group if they agree on its parts, and so on every
  predicate that folds case.
- `Options.DefaultsInTime`: the default strategies, over any library that does what it says.
- `evaluate_caseBlind`: a compiled filter on two records that differ in case only.
-/
import Mathlib
import SearchFilter.Proofs.Meaning
import SearchFilter.Proofs.WellFormed
import SearchFilter.Proofs.Wildcards
import SearchFilter.Record.Json

namespace SearchFilter

open SearchFilter.Json (Value Members)
open SearchFilter.Text (asciiLower eqIgnoreAsciiCase apply_asciiLower isBlank isDigit)

/-! ## Functions that do not see the case -/

/-- `f` does not see the case of `A`-`Z` -/
def CaseBlind {α : Type} (f : List Char → α) : Prop := ∀ s, f (s.map asciiLower) = f s

theorem CaseBlind.eq {α : Type} {f : List Char → α} (hf : CaseBlind f) {a b : String}
    (h : eqIgnoreAsciiCase a b = true) : f a.toList = f b.toList := by
  have hmap : a.toList.map asciiLower = b.toList.map asciiLower := by simpa [eqIgnoreAsciiCase] using h
  rw [← hf a.toList, hmap, hf b.toList]

theorem eq_empty_iff_of_eqIgnoreAsciiCase {a b : String} (h : eqIgnoreAsciiCase a b = true) : a = "" ↔ b = "" := by
  have hblind : CaseBlind fun s : List Char => s = [] := fun s => propext List.map_eq_nil_iff
  rw [← String.toList_eq_nil_iff, ← String.toList_eq_nil_iff, hblind.eq h]

namespace Text

theorem isBlank_asciiLower (c : Char) : isBlank (asciiLower c) = isBlank c := apply_asciiLower isBlank (by decide +kernel) c

theorem isDigit_asciiLower (c : Char) : isDigit (asciiLower c) = isDigit c := apply_asciiLower isDigit (by decide +kernel) c

theorem fold_asciiLower (c : Char) : fold (asciiLower c) = fold c := apply_asciiLower fold (by decide +kernel) c

theorem upperHead_asciiLower (c : Char) : upperHead (asciiLower c) = upperHead c :=
  apply_asciiLower upperHead (by decide +kernel) c

theorem asciiLower_asciiLower (c : Char) : asciiLower (asciiLower c) = asciiLower c :=
  apply_asciiLower asciiLower (by decide +kernel) c

theorem trim_map_asciiLower (s : List Char) : trim (s.map asciiLower) = (trim s).map asciiLower := by
  have hblank : isBlank ∘ asciiLower = isBlank := funext isBlank_asciiLower
  rw [trim, trim, trimEnd, trimEnd, trimStart, trimStart, List.dropWhile_map, hblank, ← List.map_reverse,
    List.dropWhile_map, hblank, ← List.map_reverse]

end Text

/-! ## Wildcards -/

namespace Like

/-- what a pattern stands for -/
theorem caseBlind_declared (pattern : List Char) : CaseBlind (Declared pattern) := by
  intro s
  rw [eq_iff_iff]
  induction pattern generalizing s with
  | nil => simp only [declared_nil, List.forall_mem_map, Text.isBlank_asciiLower]
  | cons c pattern ih =>
    by_cases hrun : c = '%'
    · subst hrun
      rw [declared_run, declared_run]
      constructor
      · rintro ⟨any, rest, hsplit, h⟩
        obtain ⟨x, y, rfl, rfl, rfl⟩ := List.map_eq_append_iff.1 hsplit
        exact ⟨x, y, rfl, (ih y).1 h⟩
      · rintro ⟨any, rest, rfl, h⟩
        exact ⟨_, _, List.map_append, (ih rest).2 h⟩
    by_cases hone : c = '_'
    · subst hone
      cases s with
      | nil => simp [declared_one]
      | cons x s => simp [declared_one, ih]
    · cases s with
      | nil => simp [declared_same hrun hone]
      | cons x s => simp [declared_same hrun hone, ih, Text.fold_asciiLower]

variable {Regex : Type} {engine : Engine Regex} {size : String → ℕ}

/-- what the library makes of a pattern -/
theorem Engine.Implements.caseBlind_accepts (h : engine.Implements size) {pattern : String} {regex : Regex}
    (built : engine.build (regexText pattern) = some regex) : CaseBlind (engine.accepts regex) := by
  intro s
  rw [Bool.eq_iff_iff, h.accepts_iff_declared built, h.accepts_iff_declared built, caseBlind_declared]

namespace Matcher

variable {budget elapsed elapsed' : Duration} {m n : Matcher Regex} {a b : String}

theorem matchStep_caseBlind (hengine : engine.Implements size) (hm : m.Sound engine budget) (hn : n.Sound engine budget)
    (hin : elapsed.nanoseconds < budget.nanoseconds) (hin' : elapsed'.nanoseconds < budget.nanoseconds)
    (h : eqIgnoreAsciiCase a b = true) (pattern : String) :
    (m.matchStep ⟨a, pattern, elapsed⟩).1 = (n.matchStep ⟨b, pattern, elapsed'⟩).1 := by
  have hempty := eq_empty_iff_of_eqIgnoreAsciiCase h
  by_cases hnone : a = "" ∨ pattern = ""
  · rw [matchStep_of_empty hnone, matchStep_of_empty (hnone.imp_left hempty.1)]
  · obtain ⟨ha, hpattern⟩ := not_or.1 hnone
    rw [matchStep_eq hm ha hpattern, matchStep_eq hn (mt hempty.2 ha) hpattern]
    cases hbuild : engine.build (regexText pattern) with
    | none => rfl
    | some regex =>
      have hanswer : engine.accepts regex a.toList = engine.accepts regex b.toList :=
        (hengine.caseBlind_accepts hbuild).eq h
      exact (answer_eq_ok.2 ⟨hin, hanswer⟩).trans (answer_eq_ok.2 ⟨hin', rfl⟩).symm

/-- **Calls.** Two calls within their budget, on matchers at any time of their lives, answer the same. -/
theorem step_caseBlind (hengine : engine.Implements size) (hm : m.Sound engine budget) (hn : n.Sound engine budget)
    (hin : elapsed.nanoseconds < budget.nanoseconds) (hin' : elapsed'.nanoseconds < budget.nanoseconds)
    (h : eqIgnoreAsciiCase a b = true) (pattern : String) :
    (m.step ⟨a, pattern, elapsed⟩).1 = (n.step ⟨b, pattern, elapsed'⟩).1 := by
  have hmatch := matchStep_caseBlind hengine hm hn hin hin' h pattern
  have hcut : (a ≠ "" ∧ pattern ≠ "" ∧ Text.lowercase a = Text.lowercase pattern) ↔
      (b ≠ "" ∧ pattern ≠ "" ∧ Text.lowercase b = Text.lowercase pattern) := by
    rw [Ne, eq_empty_iff_of_eqIgnoreAsciiCase h, Text.lowercase_eq_of_eqIgnoreAsciiCase h]
  rw [step_eq_matchStep, step_eq_matchStep]
  by_cases hb : b ≠ "" ∧ pattern ≠ "" ∧ Text.lowercase b = Text.lowercase pattern
  · rw [if_pos (hcut.2 hb), if_pos hb]
  · rw [if_neg (mt hcut.1 hb), if_neg hb, hmatch]

end Matcher

end Like

/-! ## Codes -/

namespace Phonetic

theorem caseBlind_code (locale : Locale) : CaseBlind (code locale) := by
  intro s
  have hupper : Text.upperHead ∘ asciiLower = Text.upperHead := funext Text.upperHead_asciiLower
  rw [code, code, List.map_map, hupper]

theorem encode_eq (locale : Locale) {a b : String} (h : eqIgnoreAsciiCase a b = true) :
    encode locale a = encode locale b := by
  rw [encode, encode, (caseBlind_code locale).eq h]

end Phonetic

/-! ## Numbers -/

namespace Number

theorem map_asciiLower_digits {ds : List Char} (h : ∀ c ∈ ds, isDigit c = true) : ds.map asciiLower = ds := by
  have hdigit : ∀ c, isDigit c = true → asciiLower c = c := by
    intro c hc
    have hcapital : ¬ ('A' ≤ c ∧ c ≤ 'Z') := by
      rintro ⟨hA, -⟩
      rw [isDigit, Bool.and_eq_true, decide_eq_true_eq, decide_eq_true_eq] at hc
      exact absurd (Char.le_trans hA hc.2) (by decide)
    exact if_neg hcapital
  rw [List.map_congr_left fun c hc => hdigit c (h c hc), List.map_id']

@[simp]
theorem takeWhile_digits (s : List Char) : (s.map asciiLower).takeWhile isDigit = s.takeWhile isDigit := by
  have hdigit : isDigit ∘ asciiLower = isDigit := funext Text.isDigit_asciiLower
  rw [List.takeWhile_map, hdigit]
  exact map_asciiLower_digits fun c hc => List.mem_takeWhile_imp hc

@[simp]
theorem dropWhile_digits (s : List Char) :
    (s.map asciiLower).dropWhile isDigit = (s.dropWhile isDigit).map asciiLower := by
  have hdigit : isDigit ∘ asciiLower = isDigit := funext Text.isDigit_asciiLower
  rw [List.dropWhile_map, hdigit]

/-- a character that is no letter is no lower-case form of another one -/
theorem asciiLower_eq_iff {p : Char} (hp : ∀ n ∈ List.range' 65 26, Char.ofNat (n + 32) ≠ p ∧ Char.ofNat n ≠ p) (c : Char) :
    asciiLower c = p ↔ c = p := by
  refine decide_eq_decide.1 (apply_asciiLower (fun c => decide (c = p)) (fun n hn => ?_) c)
  rw [decide_eq_false (hp n hn).1, decide_eq_false (hp n hn).2]

theorem readSign_of_ne {c : Char} (hminus : c ≠ '-') (hplus : c ≠ '+') (s : List Char) :
    readSign (c :: s) = (false, c :: s) := by
  rw [readSign]
  · rintro rest heq
    exact hminus (List.cons.inj heq).1
  · rintro rest heq
    exact hplus (List.cons.inj heq).1

@[simp]
theorem readSign_map_asciiLower (s : List Char) :
    readSign (s.map asciiLower) = ((readSign s).1, (readSign s).2.map asciiLower) := by
  cases s with
  | nil => rfl
  | cons c s =>
    have hminus : asciiLower c = '-' ↔ c = '-' := asciiLower_eq_iff (by decide +kernel) c
    have hplus : asciiLower c = '+' ↔ c = '+' := asciiLower_eq_iff (by decide +kernel) c
    by_cases hc : c = '-'
    · subst hc
      rfl
    · by_cases hc' : c = '+'
      · subst hc'
        rfl
      · rw [List.map_cons, readSign_of_ne hc hc', readSign_of_ne (mt hminus.1 hc) (mt hplus.1 hc'), List.map_cons]

theorem caseBlind_readExponent : CaseBlind readExponent := by
  intro s
  cases s with
  | nil => rfl
  | cons c s =>
    have hletter : (asciiLower c = 'e' ∨ asciiLower c = 'E') ↔ (c = 'e' ∨ c = 'E') :=
      decide_eq_decide.1 (apply_asciiLower (fun c => decide (c = 'e' ∨ c = 'E')) (by decide +kernel) c)
    rw [List.map_cons, readExponent, readExponent, readSign_map_asciiLower, if_congr hletter rfl rfl]
    generalize readSign s = signed
    obtain ⟨negative, ds⟩ := signed
    by_cases hdigits : ds.all isDigit = true
    · have hsame : ds.map asciiLower = ds := map_asciiLower_digits (List.all_eq_true.1 hdigits)
      simp only [hsame]
    · have hdigits' : ¬ (ds.map asciiLower).all isDigit = true := by
        rwa [List.all_map, funext Text.isDigit_asciiLower (f := isDigit ∘ asciiLower)]
      simp only [hdigits, hdigits', Bool.false_eq_true, and_false, if_false]

theorem caseBlind_readMagnitude (negative : Bool) : CaseBlind (readMagnitude negative) := by
  intro s
  rw [readMagnitude, readMagnitude, takeWhile_digits, dropWhile_digits]
  cases s.dropWhile isDigit with
  | nil => rfl
  | cons c rest =>
    have hpoint : asciiLower c = '.' ↔ c = '.' := asciiLower_eq_iff (by decide +kernel) c
    by_cases hc : c = '.'
    · subst hc
      have hlower : asciiLower '.' = '.' := hpoint.2 rfl
      simp [hlower, caseBlind_readExponent _]
    · have hc' : asciiLower c ≠ '.' := mt hpoint.1 hc
      have hexponent := caseBlind_readExponent (c :: rest)
      rw [List.map_cons] at hexponent ⊢
      simp [hexponent, hc, hc']

/-- **Numbers.** Exponents and the words for infinity and not-a-number may be written in either case. -/
theorem caseBlind_read (f : Format) : CaseBlind f.read := by
  intro s
  have hword : ∀ s : List Char, (s.map asciiLower).map asciiLower = s.map asciiLower := by
    intro s
    rw [List.map_map, funext Text.asciiLower_asciiLower (f := asciiLower ∘ asciiLower)]
  simp only [Format.read, readSign_map_asciiLower, hword, caseBlind_readMagnitude _ _]

end Number

/-! ## Records that differ in case -/

/-- the same fields, with values that differ in the case of `A`-`Z` only -/
def SameUpToCase (r s : Record) : Prop := ∀ field, (r field = none ∧ s field = none) ∨
  ∃ a b, r field = some a ∧ s field = some b ∧ eqIgnoreAsciiCase a b = true

/-- what does not see the case of a value does not tell the records apart -/
theorem SameUpToCase.apply {r s : Record} (hrs : SameUpToCase r s) {α : Type} (f : Option String → α)
    (hf : ∀ a b, eqIgnoreAsciiCase a b = true → f (some a) = f (some b)) (field : String) : f (r field) = f (s field) := by
  rcases hrs field with ⟨hr, hs⟩ | ⟨a, b, hr, hs, hab⟩
  · rw [hr, hs]
  · rw [hr, hs, hf a b hab]

/-- values that are the same but for the case of a string -/
inductive Json.Value.SameUpToCase : Value → Value → Prop
  | refl (v : Value) : SameUpToCase v v
  | string {a b : String} (same : eqIgnoreAsciiCase a b = true) : SameUpToCase (.string a) (.string b)

theorem Json.Value.SameUpToCase.field {v w : Value} (h : v.SameUpToCase w) : (v.field = none ∧ w.field = none) ∨
    ∃ a b, v.field = some a ∧ w.field = some b ∧ eqIgnoreAsciiCase a b = true := by
  cases h with
  | refl =>
    cases hfield : v.field with
    | none => exact Or.inl ⟨rfl, rfl⟩
    | some a => exact Or.inr ⟨a, a, rfl, rfl, beq_self_eq_true _⟩
  | @string a b same => exact Or.inr ⟨a, b, rfl, rfl, same⟩

namespace Json.Members

/-- the same keys in the same order, with values that are the same but for the case of strings -/
def SameUpToCase (ms ns : Members) : Prop := List.Forall₂ (fun m n => m.1 = n.1 ∧ m.2.SameUpToCase n.2) ms ns

/-- the first member whose key passes a test stands in the same place -/
theorem SameUpToCase.first {ms ns : Members} (h : ms.SameUpToCase ns) (p : String → Bool) :
    (List.find? (fun m => p m.1) ms = none ∧ List.find? (fun m => p m.1) ns = none) ∨
    ∃ m n, List.find? (fun m => p m.1) ms = some m ∧ List.find? (fun m => p m.1) ns = some n ∧ m.2.SameUpToCase n.2 := by
  induction h with
  | nil => exact Or.inl ⟨rfl, rfl⟩
  | @cons m n ms ns hmember _ ih =>
    obtain ⟨hkey, hvalue⟩ := hmember
    rw [List.find?_cons, List.find?_cons, hkey]
    cases p n.1 with
    | true => exact Or.inr ⟨m, n, rfl, rfl, hvalue⟩
    | false => exact ih

theorem lookup_eq_find? (ms : Members) (name : String) :
    ms.lookup name = (List.find? (fun m => name == m.1) ms).map Prod.snd := by
  induction ms with
  | nil => rfl
  | cons m ms ih =>
    rw [List.lookup_cons, List.find?_cons, ih]
    cases name == m.1 <;> rfl

theorem SameUpToCase.find? {ms ns : Members} (h : ms.SameUpToCase ns) (name : String) :
    (ms.find? name = none ∧ ns.find? name = none) ∨
    ∃ v w, ms.find? name = some v ∧ ns.find? name = some w ∧ v.SameUpToCase w := by
  rw [Members.find?, Members.find?, lookup_eq_find?, lookup_eq_find?]
  rcases h.first (name == ·) with ⟨hm, hn⟩ | ⟨m, n, hm, hn, hvalue⟩
  · -- no exact key in either, so the first that is equal ignoring case
    rw [hm, hn]
    rcases h.first (eqIgnoreAsciiCase · name) with ⟨hm', hn'⟩ | ⟨m, n, hm', hn', hvalue⟩
    · exact Or.inl ⟨congrArg (Option.map Prod.snd) hm', congrArg (Option.map Prod.snd) hn'⟩
    · exact Or.inr ⟨m.2, n.2, congrArg (Option.map Prod.snd) hm', congrArg (Option.map Prod.snd) hn', hvalue⟩
  · rw [hm, hn]
    exact Or.inr ⟨m.2, n.2, rfl, rfl, hvalue⟩

/-- objects with the same keys and values that are the same but for case, as records -/
theorem SameUpToCase.record {ms ns : Members} (h : ms.SameUpToCase ns) :
    SearchFilter.SameUpToCase (Members.record ms) (Members.record ns) := by
  intro field
  rcases h.find? field with ⟨hm, hn⟩ | ⟨v, w, hm, hn, hvalue⟩
  · exact Or.inl ⟨by rw [Members.record, hm]; rfl, by rw [Members.record, hn]; rfl⟩
  · rw [Members.record, Members.record, hm, hn]
    exact hvalue.field

end Json.Members

/-- failures of one kind: the same failure, or numbers that could not be read and differ in case only -/
inductive EvalError.SameKind : EvalError → EvalError → Prop
  | refl (x : EvalError) : SameKind x x
  | conversion (field : String) {v w : String} (same : eqIgnoreAsciiCase v w = true) :
      SameKind (.conversion field v) (.conversion field w)

namespace Expr

/-- A failure and the way to the leaf that raised it: at each group the number of the part that was taken, all parts
before it having let the group go on. -/
inductive RaisedAt (o : Options) (r : Record) : List ℕ → EvalError → Expr → Prop
  | leaf {e : Expr} {x : EvalError} (single : e.nesting = 0) (failed : e.evaluate o r = .error x) : RaisedAt o r [] x e
  | group (conjunctive : Bool) {before after : List Expr} {e : Expr} {path : List ℕ} {x : EvalError}
      (passed : ∀ f ∈ before, f.evaluate o r = .ok conjunctive) (raised : RaisedAt o r path x e) :
      RaisedAt o r (before.length :: path) x (join conjunctive (before ++ e :: after))

/-- two runs with the same truth value, or with failures of one kind raised by one leaf -/
inductive Agree (o : Options) (r s : Record) (e : Expr) : Prop
  | ok (b : Bool) (left : e.evaluate o r = .ok b) (right : e.evaluate o s = .ok b)
  | error {path : List ℕ} {x y : EvalError} (left : RaisedAt o r path x e) (right : RaisedAt o s path y e)
      (kind : x.SameKind y)

variable {o : Options} {r s : Record}

/-! ## Groups -/

theorem together_ok (conjunctive b : Bool) (xs : List (Except EvalError Bool)) :
    together conjunctive (.ok b :: xs) = if b = conjunctive then together conjunctive xs else .ok b := by
  cases conjunctive <;> cases b <;> rfl

theorem together_error (conjunctive : Bool) {before : List (Except EvalError Bool)}
    (h : ∀ y ∈ before, y = .ok conjunctive) (x : EvalError) (after : List (Except EvalError Bool)) :
    together conjunctive (before ++ .error x :: after) = .error x := by
  induction before with
  | nil => cases conjunctive <;> rfl
  | cons y before ih =>
    obtain ⟨rfl, hbefore⟩ := List.forall_mem_cons.1 h
    rw [List.cons_append, together_ok, if_pos rfl, ih hbefore]

/-- the failure raised is the outcome -/
theorem RaisedAt.evaluate_eq {path : List ℕ} {x : EvalError} {e : Expr} (h : RaisedAt o r path x e) :
    e.evaluate o r = .error x := by
  induction h with
  | leaf _ failed => exact failed
  | group conjunctive passed _ ih =>
    rw [evaluate_join, List.map_append, List.map_cons, ih]
    refine together_error conjunctive (fun y hy => ?_) _ _
    obtain ⟨f, hf, rfl⟩ := List.mem_map.1 hy
    exact passed f hf

theorem join_inj {conjunctive conjunctive' : Bool} {es fs : List Expr} (h : join conjunctive es = join conjunctive' fs) :
    conjunctive = conjunctive' ∧ es = fs := by
  cases conjunctive <;> cases conjunctive' <;> simp [join] at h ⊢
  · exact h
  · exact h

theorem nesting_join_ne_zero (conjunctive : Bool) (es : List Expr) : (join conjunctive es).nesting ≠ 0 := by
  cases conjunctive with
  | false => exact Nat.succ_ne_zero _
  | true => exact Nat.succ_ne_zero _

/-- a list is cut in one way only at the first member without a property -/
theorem first_unique {p : Expr → Prop} {es fs after after' : List Expr} {e f : Expr} (hes : ∀ x ∈ es, p x) (he : ¬ p e)
    (hfs : ∀ x ∈ fs, p x) (hf : ¬ p f) (h : es ++ e :: after = fs ++ f :: after') : es = fs ∧ e = f := by
  induction es generalizing fs with
  | nil =>
    cases fs with
    | nil => exact ⟨rfl, (List.cons.inj h).1⟩
    | cons y fs =>
      obtain rfl := (List.cons.inj h).1
      exact absurd (hfs e List.mem_cons_self) he
  | cons x es ih =>
    cases fs with
    | nil =>
      obtain rfl := (List.cons.inj h).1
      exact absurd (hes x List.mem_cons_self) hf
    | cons y fs =>
      obtain ⟨rfl, hrest⟩ := List.cons.inj h
      obtain ⟨rfl, rfl⟩ := ih (List.forall_mem_cons.1 hes).2 (List.forall_mem_cons.1 hfs).2 hrest
      exact ⟨rfl, rfl⟩

/-- **One leaf.** In a run at most one leaf raises a failure. -/
theorem RaisedAt.unique {path path' : List ℕ} {x x' : EvalError} {e : Expr} (h : RaisedAt o r path x e)
    (h' : RaisedAt o r path' x' e) : path = path' := by
  induction h generalizing path' with
  | leaf single _ =>
    cases h' with
    | leaf _ _ => rfl
    | group conjunctive _ _ => exact absurd single (nesting_join_ne_zero _ _)
  | @group conjunctive before after e path x passed raised ih =>
    generalize hjoin : join conjunctive (before ++ e :: after) = f at h'
    cases h' with
    | leaf single _ => exact absurd single (hjoin ▸ nesting_join_ne_zero _ _)
    | group conjunctive' passed' raised' =>
      obtain ⟨rfl, hparts⟩ := join_inj hjoin
      have hfails : ∀ {path x e}, RaisedAt o r path x e → ¬ e.evaluate o r = .ok conjunctive := by
        intro path x e hraised hok
        rw [hraised.evaluate_eq] at hok
        cases hok
      obtain ⟨rfl, rfl⟩ := first_unique passed (hfails raised) passed' (hfails raised') hparts
      rw [ih raised']

/-- a row of parts of a group, those before it having let the group go on in both runs -/
theorem agree_row (conjunctive : Bool) (before : List Expr) {es : List Expr}
    (hleft : ∀ f ∈ before, f.evaluate o r = .ok conjunctive) (hright : ∀ f ∈ before, f.evaluate o s = .ok conjunctive)
    (h : ∀ e ∈ es, Agree o r s e) :
    (∃ b, together conjunctive (es.map (evaluate o r)) = .ok b ∧ together conjunctive (es.map (evaluate o s)) = .ok b) ∨
    ∃ path x y, RaisedAt o r path x (join conjunctive (before ++ es)) ∧
      RaisedAt o s path y (join conjunctive (before ++ es)) ∧ x.SameKind y := by
  induction es generalizing before with
  | nil => exact Or.inl ⟨conjunctive, by cases conjunctive <;> rfl, by cases conjunctive <;> rfl⟩
  | cons e es ih =>
    obtain ⟨he, hes⟩ := List.forall_mem_cons.1 h
    cases he with
    | ok b left right =>
      rw [List.map_cons, List.map_cons, left, right, together_ok, together_ok]
      by_cases hb : b = conjunctive
      · -- the group goes on, in both runs
        subst hb
        have hleft' : ∀ f ∈ before ++ [e], f.evaluate o r = .ok b :=
          List.forall_mem_append.2 ⟨hleft, List.forall_mem_singleton.2 left⟩
        have hright' : ∀ f ∈ before ++ [e], f.evaluate o s = .ok b :=
          List.forall_mem_append.2 ⟨hright, List.forall_mem_singleton.2 right⟩
        have hrow := ih (before ++ [e]) hleft' hright' hes
        rw [List.append_assoc, List.singleton_append] at hrow
        rwa [if_pos rfl, if_pos rfl]
      · rw [if_neg hb, if_neg hb]
        exact Or.inl ⟨b, rfl, rfl⟩
    | error left right kind => exact Or.inr ⟨_, _, _, .group conjunctive hleft left, .group conjunctive hright right, kind⟩

theorem agree_join (conjunctive : Bool) {es : List Expr} (h : ∀ e ∈ es, Agree o r s e) :
    Agree o r s (join conjunctive es) := by
  rcases agree_row conjunctive [] (by simp) (by simp) h with ⟨b, left, right⟩ | ⟨path, x, y, left, right, kind⟩
  · exact .ok b (evaluate_join conjunctive es ▸ left) (evaluate_join conjunctive es ▸ right)
  · exact .error left right kind

/-! ## Leaves -/

/-- a leaf that gives the same in both runs -/
theorem agree_of_eq {e : Expr} (single : e.nesting = 0) (h : e.evaluate o r = e.evaluate o s) : Agree o r s e := by
  cases hr : e.evaluate o r with
  | ok b => exact .ok b hr (h ▸ hr)
  | error x => exact .error (.leaf single hr) (.leaf single (h ▸ hr)) (.refl x)

end Expr

/-- operands that differ in case only are the same number, or neither is a number -/
theorem toDecimal_cases {r s : Record} (hrs : SameUpToCase r s) (field : String) :
    (∃ n, toDecimal field (r field) = .ok n ∧ toDecimal field (s field) = .ok n) ∨
    ∃ v w, eqIgnoreAsciiCase v w = true ∧ toDecimal field (r field) = .error (.conversion field v) ∧
      toDecimal field (s field) = .error (.conversion field w) := by
  rcases hrs field with ⟨hr, hs⟩ | ⟨v, w, hr, hs, hvw⟩
  · rw [hr, hs]
    exact Or.inl ⟨.zero, rfl, rfl⟩
  · have hblind : CaseBlind (Number.double.read ∘ Text.trim) := by
      intro t
      rw [Function.comp_apply, Text.trim_map_asciiLower, Number.caseBlind_read, Function.comp_apply]
    have hread := hblind.eq hvw
    rw [Function.comp_apply, Function.comp_apply] at hread
    rw [hr, hs, toDecimal, toDecimal, hread]
    cases Number.double.read (Text.trim w.toList) with
    | none => exact Or.inr ⟨v, w, hvw, rfl, rfl⟩
    | some n =>
      by_cases hfinite : n.isFinite = true
      · exact Or.inl ⟨n, if_pos hfinite, if_pos hfinite⟩
      · exact Or.inr ⟨v, w, hvw, if_neg hfinite, if_neg hfinite⟩

section

variable {Regex : Type} {engine : Like.Engine Regex} {size : String → ℕ}

/-- The default strategies over a library: a wildcard match is a call on a matcher at some time of its life, and takes less
time than its budget. -/
structure Options.DefaultsInTime (engine : Like.Engine Regex) (o : Options) : Prop where
  like : ∃ budget : Duration, ∀ subject pattern, ∃ (m : Like.Matcher Regex) (elapsed : Duration), m.Sound engine budget ∧
    elapsed.nanoseconds < budget.nanoseconds ∧ o.like.isLike subject pattern = (m.step ⟨subject, pattern, elapsed⟩).1
  approximate : ∃ locale, o.approximate.encode = Phonetic.encode locale

/-- the options of a fresh process -/
theorem Options.defaultsInTime_default (engine : Like.Engine Regex) (locale : Locale) :
    (Options.default engine locale).DefaultsInTime engine where
  like := ⟨Like.defaultBudget, fun _ _ =>
    ⟨.ofEngine engine Like.defaultBudget, ⟨0⟩, Like.Matcher.sound_ofEngine engine Like.defaultBudget, by decide, rfl⟩⟩
  approximate := ⟨locale, rfl⟩

namespace Expr

variable {o : Options} {r s : Record}

theorem isLike_eq (hengine : engine.Implements size) (ho : o.DefaultsInTime engine) {a b : String}
    (h : eqIgnoreAsciiCase a b = true) (pattern : String) : o.like.isLike a pattern = o.like.isLike b pattern := by
  obtain ⟨budget, hcalls⟩ := ho.like
  obtain ⟨m, elapsed, hm, hin, ha⟩ := hcalls a pattern
  obtain ⟨n, elapsed', hn, hin', hb⟩ := hcalls b pattern
  rw [ha, hb, Like.Matcher.step_caseBlind hengine hm hn hin hin' h]

/-- **Predicates that fold case.** Two runs on records that differ in case only agree. -/
theorem WellFormed.agree {named : String → Prop} {e : Expr} (h : e.WellFormed named true)
    (hengine : engine.Implements size) (ho : o.DefaultsInTime engine) (hrs : SameUpToCase r s) : Agree o r s e := by
  induction h with
  | @present field _ =>
    have hsome := hrs.apply Option.isSome (fun _ _ _ => rfl) field
    refine agree_of_eq rfl ?_
    rw [evaluate, evaluate, hsome]
  | @absent field _ =>
    have hnone := hrs.apply Option.isNone (fun _ _ _ => rfl) field
    refine agree_of_eq rfl ?_
    rw [evaluate, evaluate, hnone]
  | @equals field value negated _ _ _ =>
    have hequals : fieldEquals value true (r field) = fieldEquals value true (s field) := by
      refine hrs.apply (fieldEquals value true) (fun a b hab => ?_) field
      simp only [fieldEquals, if_true, Text.lowercase_eq_of_eqIgnoreAsciiCase hab]
    refine agree_of_eq rfl ?_
    rw [evaluate, evaluate, hequals]
  | @like field pattern negated _ _ =>
    refine agree_of_eq rfl ?_
    rcases hrs field with ⟨hr, hs⟩ | ⟨a, b, hr, hs, hab⟩
    · simp only [evaluate, hr, hs]
    · simp only [evaluate, hr, hs, isLike_eq hengine ho hab]
  | @approximate field value negated _ _ =>
    obtain ⟨locale, hencode⟩ := ho.approximate
    have hcode : Phonetic.encode locale ((r field).getD "") = Phonetic.encode locale ((s field).getD "") :=
      hrs.apply (fun x => Phonetic.encode locale (x.getD "")) (fun _ _ => Phonetic.encode_eq locale) field
    refine agree_of_eq rfl ?_
    rw [evaluate, evaluate, hencode, hcode]
  | @compare field value op _ _ =>
    rcases toDecimal_cases hrs field with ⟨n, hr, hs⟩ | ⟨v, w, hvw, hr, hs⟩
    · refine agree_of_eq rfl ?_
      rw [evaluate, evaluate, hr, hs]
    · have left : (Expr.compare field op value).evaluate o r = .error (.conversion field v) := by rw [evaluate, hr]; rfl
      have right : (Expr.compare field op value).evaluate o s = .error (.conversion field w) := by rw [evaluate, hs]; rfl
      exact .error (.leaf rfl left) (.leaf rfl right) (.conversion field hvw)
  | and _ _ ih => exact agree_join true ih
  | or _ _ ih => exact agree_join false ih

end Expr

/-! ## Compiled filters -/

/-- **Case of records.** A filter compiled with the default strategies and without a case-insensitive store, on two records
that differ in the case of `A`-`Z` only: the truth value is the same, or one leaf raises failures of one kind in both runs.
The library is any that does what it says; which patterns are too large for it does not matter. -/
theorem evaluate_caseBlind (hengine : engine.Implements size) {o : Options} {schema : Schema} {filter : String} {e : Expr}
    {r s : Record} (ho : o.DefaultsInTime engine) (hstore : o.caseInsensitiveStore = false)
    (h : compileExpr o schema filter = .ok e) (hrs : SameUpToCase r s) :
    (∃ b, e.evaluate o r = .ok b ∧ e.evaluate o s = .ok b) ∨
    ∃ path x y, e.RaisedAt o r path x ∧ e.RaisedAt o s path y ∧ x.SameKind y ∧
      e.evaluate o r = .error x ∧ e.evaluate o s = .error y := by
  have hshape : e.WellFormed (fun _ => True) (!o.caseInsensitiveStore) :=
    wellFormed_of_compileExpr h fun _ _ _ _ => trivial
  rw [hstore] at hshape
  cases hshape.agree hengine ho hrs with
  | ok b left right => exact Or.inl ⟨b, left, right⟩
  | error left right kind => exact Or.inr ⟨_, _, _, left, right, kind, left.evaluate_eq, right.evaluate_eq⟩

/-- the wildcard holds in both runs, then neither age can be read -/
theorem evaluate_caseBlind_unreadable :
    compileExpr (.default Like.library .standard) (.ofNames ["Sn", "Age"]) "(&(sn=d*)(age<18))" =
      .ok (.and [.like "Sn" "d%" false, .compare "Age" .less "18"]) ∧
    ∃ path x y,
      (Expr.and [.like "Sn" "d%" false, .compare "Age" .less "18"]).RaisedAt (.default Like.library .standard)
        (Members.record [("Sn", .string "DOE"), ("Age", .string "N/A")]) path x ∧
      (Expr.and [.like "Sn" "d%" false, .compare "Age" .less "18"]).RaisedAt (.default Like.library .standard)
        (Members.record [("Sn", .string "doe"), ("Age", .string "n/a")]) path y ∧ x.SameKind y := by
  have hrecords : SameUpToCase (Members.record [("Sn", .string "DOE"), ("Age", .string "N/A")])
      (Members.record [("Sn", .string "doe"), ("Age", .string "n/a")]) :=
    Members.SameUpToCase.record (.cons ⟨rfl, .string (by decide)⟩ (.cons ⟨rfl, .string (by decide)⟩ .nil))
  have hdefaults := Options.defaultsInTime_default Like.library .standard
  have hcompiled : compileExpr (.default Like.library .standard) (.ofNames ["Sn", "Age"]) "(&(sn=d*)(age<18))" =
      .ok (.and [.like "Sn" "d%" false, .compare "Age" .less "18"]) := by cbv
  have hdeclared : Like.Declared "d%".toList "DOE".toList :=
    ⟨"DOE".toList, [], rfl, by simp, .same (by decide) (by decide) (by decide +kernel) (.run "OE".toList .nil)⟩
  obtain ⟨b, hb, hiff⟩ := Like.Matcher.step_answer Like.library_implements
    (Like.Matcher.sound_ofEngine Like.library Like.defaultBudget) (c := ⟨"DOE", "d%", ⟨0⟩⟩) (by decide +kernel) (by decide)
  obtain rfl : b = true := hiff.2 ⟨by decide, by decide, Or.inr hdeclared⟩
  have hlike : (Options.default Like.library .standard).like.isLike "DOE" "d%" = .ok true := hb
  have hsn : (Expr.like "Sn" "d%" false).evaluate (.default Like.library .standard)
      (Members.record [("Sn", .string "DOE"), ("Age", .string "N/A")]) = .ok true := by
    have hfield : Members.record [("Sn", .string "DOE"), ("Age", .string "N/A")] "Sn" = some "DOE" := by decide +kernel
    simp only [Expr.evaluate, hfield, hlike]
    rfl
  have hage : (Expr.compare "Age" .less "18").evaluate (.default Like.library .standard)
      (Members.record [("Sn", .string "DOE"), ("Age", .string "N/A")]) = .error (.conversion "Age" "N/A") := by
    decide +kernel
  have hfailed : (Expr.and [.like "Sn" "d%" false, .compare "Age" .less "18"]).evaluate (.default Like.library .standard)
      (Members.record [("Sn", .string "DOE"), ("Age", .string "N/A")]) = .error (.conversion "Age" "N/A") := by
    rw [Expr.evaluate, Expr.evaluateAll, hsn, Expr.evaluateAll, hage]
    rfl
  rcases evaluate_caseBlind Like.library_implements hdefaults rfl hcompiled hrecords with
    ⟨b, hok, -⟩ | ⟨path, x, y, left, right, kind, -⟩
  · rw [hfailed] at hok
    cases hok
  · exact ⟨hcompiled, path, x, y, left, right, kind⟩

end

end SearchFilter
