/-
All matches or none.

Two loops walk over records: the iterator, which puts a failure in the place of the record that caused it and goes on, and the
command, which stops at the first failure it may not skip and prints nothing then. They are written apart and select the same
records.
- `yielded_eq`: the iterator, run to its end, gives one item for each outcome but a miss.
- `StopsAt`: the first failure that may not be skipped, with its number; `selected_eq_ok_iff` and `selected_eq_error_iff` say
  exactly when selecting succeeds, when it fails, and what it gives.
- `selected_agrees_yielded`: without skipping, selecting gives what the iterator yields up to its first failure.
- `Command.Prepared`: the command has read its records and compiled its filter; what it leaves behind then, and otherwise.
- `Command.filterRecords_all_or_none`: standard output has all matches or nothing, and agrees with the iterator.
-/
import Mathlib
import SearchFilter.Command.Run
import SearchFilter.Strategy.Library

namespace SearchFilter

variable {α : Type} {test : α → Except EvalError Bool} {policy : TimeoutPolicy} {source : List α}

/-! ## The iterator -/

/-- what the iterator gives for one item of its source -/
def yield? (test : α → Except EvalError Bool) (a : α) : Option (Except EvalError α) :=
  match test a with
  | .ok true => some (.ok a)
  | .ok false => none
  | .error e => some (.error e)

theorem next?_cons_of_none {a : α} (h : yield? test a = none) (source : List α) :
    next? test (a :: source) = next? test source := by
  rw [yield?] at h
  rw [next?]
  split at h <;> simp_all

theorem next?_cons_of_some {a : α} {item : Except EvalError α} (h : yield? test a = some item) :
    next? test (a :: source) = some (item, source) := by
  rw [yield?] at h
  rw [next?]
  split at h <;> simp_all

theorem yielded_of_next?_none (h : next? test source = none) : yielded test source = [] := by
  rw [yielded]
  split <;> simp_all

theorem yielded_of_next?_some {item : Except EvalError α} {rest : List α} (h : next? test source = some (item, rest)) :
    yielded test source = item :: yielded test rest := by
  rw [yielded]
  split <;> simp_all

/-- **The iterator run to its end.** One item for each outcome that is not a miss, in the order of the source. -/
theorem yielded_eq (test : α → Except EvalError Bool) (source : List α) :
    yielded test source = source.filterMap (yield? test) := by
  induction source with
  | nil => exact yielded_of_next?_none rfl
  | cons a source ih =>
    cases hitem : yield? test a with
    | some item => rw [List.filterMap_cons_some hitem, yielded_of_next?_some (next?_cons_of_some hitem), ih]
    | none =>
      rw [List.filterMap_cons_none hitem, ← ih]
      -- the next item of the longer source is that of the shorter one
      have hnext := next?_cons_of_none hitem source
      cases hrest : next? test source with
      | none => rw [yielded_of_next?_none hrest, yielded_of_next?_none (hnext.trans hrest)]
      | some found => rw [yielded_of_next?_some hrest, yielded_of_next?_some (hnext.trans hrest)]

/-! ## Selecting -/

/-- a failure that may not be skipped -/
def Stops (policy : TimeoutPolicy) (e : EvalError) : Prop := e.isTimeout = false ∨ policy = .fail

theorem not_stops_iff {e : EvalError} : ¬ Stops policy e ↔ e.isTimeout = true ∧ policy = .skip := by
  cases policy <;> simp [Stops]

theorem skips_iff {e : EvalError} : (e.isTimeout && policy == .skip) = true ↔ ¬ Stops policy e := by
  rw [not_stops_iff, Bool.and_eq_true, beq_iff_eq]

/-- no item of a source fails in a way that may not be skipped -/
def Clean (test : α → Except EvalError Bool) (policy : TimeoutPolicy) (source : List α) : Prop :=
  ∀ a ∈ source, ∀ e, test a = .error e → ¬ Stops policy e

/-- Item `k` is the first of a source to fail in a way that may not be skipped. -/
def StopsAt (test : α → Except EvalError Bool) (policy : TimeoutPolicy) (source : List α) (k : ℕ) (e : EvalError) :
    Prop :=
  ∃ before a after, source = before ++ a :: after ∧ before.length = k ∧ Clean test policy before ∧
    test a = .error e ∧ Stops policy e

/-- the items that pass, in order -/
def passing (test : α → Except EvalError Bool) (source : List α) : List α := source.filter fun a => test a = .ok true

/-- the failures with their numbers, the first item having number `n` -/
def failures (test : α → Except EvalError Bool) (n : ℕ) (source : List α) : List (ℕ × EvalError) :=
  (source.zipIdx n).filterMap fun (a, k) =>
    match test a with
    | .ok _ => none
    | .error e => some (k, e)

@[simp]
theorem clean_cons {a : α} : Clean test policy (a :: source) ↔
    (∀ e, test a = .error e → ¬ Stops policy e) ∧ Clean test policy source :=
  List.forall_mem_cons

theorem clean_or_stopsAt (test : α → Except EvalError Bool) (policy : TimeoutPolicy) (source : List α) :
    Clean test policy source ∨ ∃ k e, StopsAt test policy source k e := by
  induction source with
  | nil => exact .inl (by simp [Clean])
  | cons a source ih =>
    by_cases ha : ∀ e, test a = .error e → ¬ Stops policy e
    · rcases ih with hclean | ⟨k, e, before, b, after, rfl, rfl, hbefore, hb, hstops⟩
      · exact .inl (clean_cons.2 ⟨ha, hclean⟩)
      · exact .inr ⟨_, e, a :: before, b, after, rfl, rfl, clean_cons.2 ⟨ha, hbefore⟩, hb, hstops⟩
    · push Not at ha
      obtain ⟨e, he, hstops⟩ := ha
      exact .inr ⟨0, e, [], a, source, rfl, rfl, by simp [Clean], he, hstops⟩

theorem StopsAt.not_clean {k : ℕ} {e : EvalError} (h : StopsAt test policy source k e) : ¬ Clean test policy source := by
  obtain ⟨before, a, after, rfl, -, -, ha, hstops⟩ := h
  intro hclean
  exact hclean a (List.mem_append_right _ List.mem_cons_self) e ha hstops

theorem passing_cons {a : α} {b : Bool} (ha : test a = .ok b) :
    passing test (a :: source) = if b then a :: passing test source else passing test source := by
  simp [passing, List.filter_cons, ha]

theorem passing_cons_error {a : α} {e : EvalError} (ha : test a = .error e) :
    passing test (a :: source) = passing test source := by
  simp [passing, ha]

theorem failures_cons (test : α → Except EvalError Bool) (n : ℕ) {a : α} {b : Bool} (ha : test a = .ok b) :
    failures test n (a :: source) = failures test (n + 1) source := by
  simp [failures, ha]

theorem failures_cons_error (n : ℕ) {a : α} {e : EvalError} (ha : test a = .error e) :
    failures test n (a :: source) = (n, e) :: failures test (n + 1) source := by
  simp [failures, ha]

/-- what a row of items does that does not stop the loop -/
theorem selected_append {before : List α} (h : Clean test policy before) (n : ℕ) (rest : List α) :
    selected test policy n (before ++ rest) = (selected test policy (n + before.length) rest).map fun s =>
      ⟨passing test before ++ s.records, failures test n before ++ s.skipped⟩ := by
  induction before generalizing n with
  | nil => cases hrest : selected test policy n rest <;> simp [hrest, passing, failures, Except.map]
  | cons a before ih =>
    obtain ⟨ha, hbefore⟩ := clean_cons.1 h
    have hnumber : n + (a :: before).length = n + 1 + before.length := by
      rw [List.length_cons]
      omega
    rw [List.cons_append, selected, hnumber, ih hbefore (n + 1)]
    generalize selected test policy (n + 1 + before.length) rest = result
    cases houtcome : test a with
    | ok b =>
      rw [passing_cons houtcome, failures_cons test n houtcome]
      cases b <;> cases result <;> rfl
    | error e =>
      rw [passing_cons_error houtcome, failures_cons_error n houtcome]
      simp only [if_pos (skips_iff.2 (ha e houtcome))]
      cases result <;> rfl

theorem selected_of_clean (h : Clean test policy source) (n : ℕ) :
    selected test policy n source = .ok ⟨passing test source, failures test n source⟩ := by
  have hall := selected_append h n []
  rw [List.append_nil] at hall
  rw [hall]
  simp [selected, Except.map]

theorem selected_of_stopsAt {k : ℕ} {e : EvalError} (h : StopsAt test policy source k e) (n : ℕ) :
    selected test policy n source = .error (n + k, e) := by
  obtain ⟨before, a, after, rfl, rfl, hbefore, ha, hstops⟩ := h
  have hskips : ¬ (e.isTimeout && policy == .skip) = true := fun hskips => skips_iff.1 hskips hstops
  rw [selected_append hbefore, selected]
  simp only [ha, if_neg hskips, Except.map]

/-- **Success.** Selecting succeeds exactly when nothing stops it, and gives all matches in their order and all failures that
were skipped. -/
theorem selected_eq_ok_iff (n : ℕ) (s : Selection α) : selected test policy n source = .ok s ↔
    Clean test policy source ∧ s = ⟨passing test source, failures test n source⟩ := by
  rcases clean_or_stopsAt test policy source with hclean | ⟨k, e, hstops⟩
  · rw [selected_of_clean hclean n, Except.ok.injEq]
    exact ⟨fun h => ⟨hclean, h.symm⟩, fun h => h.2.symm⟩
  · rw [selected_of_stopsAt hstops n]
    exact ⟨nofun, fun h => absurd h.1 hstops.not_clean⟩

/-- **Failure.** Selecting fails exactly at the first item that stops it. -/
theorem selected_eq_error_iff (n j : ℕ) (e : EvalError) : selected test policy n source = .error (j, e) ↔
    ∃ k, StopsAt test policy source k e ∧ j = n + k := by
  constructor
  · intro h
    rcases clean_or_stopsAt test policy source with hclean | ⟨k, e', hstops⟩
    · cases (selected_of_clean hclean n).symm.trans h
    · obtain ⟨rfl, rfl⟩ := Prod.mk.inj (Except.error.inj ((selected_of_stopsAt hstops n).symm.trans h))
      exact ⟨k, hstops, rfl⟩
  · rintro ⟨k, hstops, rfl⟩
    exact selected_of_stopsAt hstops n

/-! ## Both loops -/

/-- Without skipping a row goes on only as long as nothing fails. -/
theorem yielded_of_clean (h : Clean test .fail source) : yielded test source = (passing test source).map .ok := by
  rw [yielded_eq]
  induction source with
  | nil => rfl
  | cons a source ih =>
    obtain ⟨ha, hrest⟩ := clean_cons.1 h
    cases houtcome : test a with
    | error e => exact absurd (Or.inr rfl) (ha e houtcome)
    | ok b =>
      rw [passing_cons houtcome]
      cases b <;> simp [yield?, houtcome, ih hrest]

/-- **The same records.** Without skipping, what is selected is what the iterator yields, and selecting fails with the first
failure the iterator yields. -/
theorem selected_agrees_yielded (test : α → Except EvalError Bool) (source : List α) :
    (∀ s, selected test .fail 0 source = .ok s → yielded test source = s.records.map .ok) ∧
    ∀ k e, selected test .fail 0 source = .error (k, e) →
      ∃ (before : List α) (after : List (Except EvalError α)),
        yielded test source = before.map .ok ++ .error e :: after := by
  constructor
  · intro s hs
    obtain ⟨hclean, rfl⟩ := (selected_eq_ok_iff 0 s).1 hs
    exact yielded_of_clean hclean
  · intro j e he
    obtain ⟨k, ⟨before, a, after, rfl, -, hbefore, ha, -⟩, -⟩ := (selected_eq_error_iff 0 j e).1 he
    refine ⟨passing test before, yielded test after, ?_⟩
    rw [← yielded_of_clean hbefore, yielded_eq, yielded_eq, yielded_eq, List.filterMap_append,
      List.filterMap_cons_some (by rw [yield?, ha])]

/-! ## The command -/

namespace Command

open SearchFilter.Json (Members)
open SearchFilter.Text (braced)

variable {env : Environment} {o : Options} {filter : String} {file : Option String} {fields : List String}
  {format : OutputFormat} {policy : TimeoutPolicy} {records : List Members} {p : Predicate}

/-- what a predicate says of the records of a file -/
def outcome (p : Predicate) (r : Members) : Except EvalError Bool := p.evaluate r.record

/-- The command has read its records and compiled its filter over their schema. -/
structure Prepared (env : Environment) (o : Options) (filter : String) (file : Option String) (fields : List String)
    (records : List Members) (p : Predicate) : Prop where
  read : ∃ content, inputText env file = .ok content ∧ parseRecords content = .ok records
  compiled : Predicate.compile o (schemaFor records fields) filter = .ok p

def recordReport (k : ℕ) (e : EvalError) : Report := .of ("Failed to evaluate record " ++ toString k) (evalCauses e)

/-- Without records or a predicate there is a failure and no output. -/
theorem filterRecords_cases (env : Environment) (o : Options) (filter : String) (file : Option String)
    (fields : List String) (format : OutputFormat) (policy : TimeoutPolicy) :
    (∃ records p, Prepared env o filter file fields records p) ∨
    ((filterRecords env o filter file fields format policy).failure ≠ none ∧
      (filterRecords env o filter file fields format policy).stdout = "") := by
  cases hinput : inputText env file with
  | error r => exact .inr (by simp [filterRecords, hinput, Result.failed])
  | ok content =>
    cases hrecords : parseRecords content with
    | error e => exact .inr (by simp [filterRecords, hinput, hrecords, Result.failed])
    | ok records =>
      cases hcompiled : Predicate.compile o (schemaFor records fields) filter with
      | error e => exact .inr (by simp [filterRecords, hinput, hrecords, hcompiled, Result.failed])
      | ok p => exact .inl ⟨records, p, ⟨content, hinput, hrecords⟩, hcompiled⟩

/-- All matches are printed, and the log ends with a line for each record that was skipped. -/
theorem filterRecords_of_clean (h : Prepared env o filter file fields records p)
    (hclean : Clean (outcome p) policy records) :
    (filterRecords env o filter file fields format policy).failure = none ∧
    (filterRecords env o filter file fields format policy).stdout =
      printed format (schemaFor records fields) (passing (outcome p) records) ∧
    (failures (outcome p) 0 records).map (fun (k, e) => skippedLine k e) <:+
      (filterRecords env o filter file fields format policy).log := by
  obtain ⟨⟨content, hinput, hrecords⟩, hcompiled⟩ := h
  have hselect : p.select policy Members.record 0 records = _ := selected_of_clean hclean 0
  simp only [filterRecords, hinput, hrecords, hcompiled, hselect, List.suffix_append, and_self]

/-- Nothing is printed, and the report names the record. -/
theorem filterRecords_of_stopsAt (h : Prepared env o filter file fields records p) {k : ℕ} {e : EvalError}
    (hstops : StopsAt (outcome p) policy records k e) :
    (filterRecords env o filter file fields format policy).failure = some (recordReport k e) ∧
    (filterRecords env o filter file fields format policy).stdout = "" := by
  obtain ⟨⟨content, hinput, hrecords⟩, hcompiled⟩ := h
  have hselect : p.select policy Members.record 0 records = _ := selected_of_stopsAt hstops 0
  rw [Nat.zero_add] at hselect
  simp only [filterRecords, hinput, hrecords, hcompiled, hselect, Result.failed, recordReport, and_self]

theorem stdout_of_failure (h : (filterRecords env o filter file fields format policy).failure ≠ none) :
    (filterRecords env o filter file fields format policy).stdout = "" := by
  rcases filterRecords_cases env o filter file fields format policy with ⟨records, p, hprepared⟩ | ⟨-, hout⟩
  · rcases clean_or_stopsAt (outcome p) policy records with hclean | ⟨k, e, hstops⟩
    · exact absurd (filterRecords_of_clean hprepared hclean).1 h
    · exact (filterRecords_of_stopsAt hprepared hstops).2
  · exact hout

theorem failure_eq_none_iff (h : Prepared env o filter file fields records p) :
    (filterRecords env o filter file fields format policy).failure = none ↔ Clean (outcome p) policy records := by
  constructor
  · intro hnone
    rcases clean_or_stopsAt (outcome p) policy records with hclean | ⟨k, e, hstops⟩
    · exact hclean
    · cases (filterRecords_of_stopsAt h hstops).1.symm.trans hnone
  · exact fun hclean => (filterRecords_of_clean h hclean).1

/-- Without skipping the command fails exactly when the iterator yields a failure. -/
theorem failure_iff_yields (h : Prepared env o filter file fields records p) :
    (filterRecords env o filter file fields format .fail).failure ≠ none ↔
      ∃ e, .error e ∈ p.filtered Members.record records := by
  rw [Ne, failure_eq_none_iff h]
  change _ ↔ ∃ e, .error e ∈ yielded (outcome p) records
  constructor
  · intro hunclean
    obtain ⟨k, e, hstops⟩ := (clean_or_stopsAt (outcome p) .fail records).resolve_left hunclean
    obtain ⟨before, after, hyielded⟩ := (selected_agrees_yielded (outcome p) records).2 _ e (selected_of_stopsAt hstops 0)
    exact ⟨e, by simp [hyielded]⟩
  · rintro ⟨e, he⟩ hclean
    rw [yielded_of_clean hclean] at he
    simp at he

/-- **All matches or none.** The command prints nothing when it fails. It succeeds over records and a predicate only, exactly
when all failures of the predicate are timeouts to be skipped, and then prints the records the predicate holds of, in their
order. Otherwise its report names the first record that may not be skipped. Without skipping it prints what the iterator yields
over the same records, and fails exactly when the iterator yields a failure. Over outcomes of any kind the iterator yields one
item for each but a miss, and the loop of the command agrees with it. -/
theorem filterRecords_all_or_none (env : Environment) (o : Options) (filter : String) (file : Option String)
    (fields : List String) (policy : TimeoutPolicy) :
    let result := filterRecords env o filter file fields .json policy
    (result.failure ≠ none → result.stdout = "") ∧
    (result.failure = none → ∃ records p, Prepared env o filter file fields records p) ∧
    (∀ records p, Prepared env o filter file fields records p →
      (result.failure = none →
        result.stdout = String.join ((passing (outcome p) records).map fun r => r.text ++ "\n")) ∧
      (result.failure = none ↔
        ∀ r ∈ records, ∀ e, outcome p r = .error e → e.isTimeout = true ∧ policy = .skip) ∧
      ((∃ r ∈ records, ∃ e, outcome p r = .error e ∧ (e.isTimeout = false ∨ policy = .fail)) →
        ∃ k e, StopsAt (outcome p) policy records k e ∧ result.failure = some (recordReport k e)) ∧
      (policy = .fail →
        (result.failure = none → p.filtered Members.record records = (passing (outcome p) records).map .ok) ∧
        (result.failure ≠ none ↔ ∃ e, .error e ∈ p.filtered Members.record records))) ∧
    ∀ (α : Type) (test : α → Except EvalError Bool) (source : List α),
      yielded test source = source.filterMap (yield? test) ∧
      (∀ s, selected test .fail 0 source = .ok s → yielded test source = s.records.map .ok) ∧
      ∀ k e, selected test .fail 0 source = .error (k, e) →
        ∃ (before : List α) (after : List (Except EvalError α)),
          yielded test source = before.map .ok ++ .error e :: after := by
  intro result
  refine ⟨stdout_of_failure, fun hnone => ?_, fun records p h => ⟨fun hnone => ?_, ?_, ?_, ?_⟩,
    fun α test source => ⟨yielded_eq test source, selected_agrees_yielded test source⟩⟩
  · rcases filterRecords_cases env o filter file fields .json policy with hprepared | ⟨hfails, -⟩
    · exact hprepared
    · exact absurd hnone hfails
  · exact (filterRecords_of_clean h ((failure_eq_none_iff h).1 hnone)).2.1
  · simp only [← not_stops_iff]
    exact failure_eq_none_iff h
  · rintro ⟨r, hr, e, he, hstops⟩
    have hunclean : ¬ Clean (outcome p) policy records := fun hclean => hclean r hr e he hstops
    obtain ⟨k, e', hfirst⟩ := (clean_or_stopsAt (outcome p) policy records).resolve_left hunclean
    exact ⟨k, e', hfirst, (filterRecords_of_stopsAt h hfirst).1⟩
  · rintro rfl
    exact ⟨fun hnone => yielded_of_clean ((failure_eq_none_iff h).1 hnone), failure_iff_yields h⟩

/-- a strategy that runs out of time on one text and takes every other -/
def slowOn (slow : String) : LikeStrategy where
  descriptor := .ofSlots "store::like" 2
  isLike subject pattern := if subject = slow then .error (.matchTimeout pattern ⟨5⟩) else .ok true

/-- the second of three records is skipped under one policy and ends the run under the other -/
theorem filterRecords_all_or_none_timeout :
    let env : Environment := ⟨[], fun _ => none, fun _ => .missing,
      .text ("[" ++ braced "\"sn\":\"doe\"" ++ "," ++ braced "\"sn\":\"roe\"" ++ "," ++ braced "\"sn\":\"dove\"" ++ "]")⟩
    let o := (Options.default Like.library .standard).withLike (slowOn "roe")
    let result := filterRecords env o "(sn=d*)" none [] .json
    (result .skip).stdout = braced "\"sn\":\"doe\"" ++ "\n" ++ braced "\"sn\":\"dove\"" ++ "\n" ∧
    (result .fail).stdout = "" ∧ (result .fail).failure = some (recordReport 1 (.matchTimeout "d%" ⟨5⟩)) := by
  intro env o result
  let records : List Members := [[("sn", .string "doe")], [("sn", .string "roe")], [("sn", .string "dove")]]
  let p : Predicate := ⟨"(sn=d*)", .like "sn" "d%" false, o⟩
  have hprepared : Prepared env o "(sn=d*)" none [] records p := ⟨⟨_, rfl, by cbv⟩, by cbv⟩
  have houtcomes : records.map (outcome p) = [.ok true, .error (.matchTimeout "d%" ⟨5⟩), .ok true] := by decide +kernel
  obtain ⟨-, -, hskip, -⟩ := filterRecords_all_or_none env o "(sn=d*)" none [] .skip
  obtain ⟨hout, hsucceeds, -⟩ := hskip records p hprepared
  obtain ⟨hnothing, -, hfail, -⟩ := filterRecords_all_or_none env o "(sn=d*)" none [] .fail
  obtain ⟨-, -, hreport, -⟩ := hfail records p hprepared
  have hskipped : ∀ r ∈ records, ∀ e, outcome p r = .error e → e.isTimeout = true ∧ TimeoutPolicy.skip = .skip := by
    intro r hr e he
    have hmem : .error e ∈ records.map (outcome p) := List.mem_map.2 ⟨r, hr, he⟩
    rw [houtcomes] at hmem
    obtain rfl : e = .matchTimeout "d%" ⟨5⟩ := by simpa using hmem
    exact ⟨rfl, rfl⟩
  have hlate : ∃ r ∈ records, ∃ e, outcome p r = .error e ∧ (e.isTimeout = false ∨ TimeoutPolicy.fail = .fail) :=
    ⟨[("sn", .string "roe")], .tail _ (.head _), .matchTimeout "d%" ⟨5⟩, by decide +kernel, .inr rfl⟩
  obtain ⟨k, e, hstops, hfailure⟩ := hreport hlate
  have hselected : selected (outcome p) .fail 0 records = .error (1, .matchTimeout "d%" ⟨5⟩) := rfl
  obtain ⟨hk, rfl⟩ := Prod.mk.inj (Except.error.inj ((selected_of_stopsAt hstops 0).symm.trans hselected))
  rw [Nat.zero_add] at hk
  rw [hk] at hfailure
  exact ⟨(hout (hsucceeds.2 hskipped)).trans (by decide +kernel), hnothing (by simp [hfailure]), hfailure⟩

end Command
end SearchFilter
