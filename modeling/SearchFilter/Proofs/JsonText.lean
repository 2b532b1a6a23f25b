/-
Compact texts of JSON values stay on one line.

Nothing in a compact text is a line feed: between the tokens nothing is written, a string writes its line feeds as
escapes, and numbers are written with digits, signs, points and exponent marks. So one value may stand on each line of a
file.
- `Number.newline_notMem_write`: numbers, in both layouts.
- `Json.newline_notMem_stringText`: strings.
- `Json.newline_notMem_text`: values, by recursion on the value with its items and members.
- `Json.text_object`: an object stands between its braces.
-/
import Mathlib.Tactic
import SearchFilter.Proofs.Calls
import SearchFilter.Record.Json

namespace SearchFilter

/-! ## Numbers -/

namespace Number

theorem newline_notMem_toDigits (n : ℕ) : '\n' ∉ Nat.toDigits 10 n := by
  intro h
  exact absurd (Descriptor.isDigit_of_mem_toDigits h) (by decide)

theorem newline_notMem_repr (n : ℕ) : '\n' ∉ n.repr.toList := by
  rw [Nat.toList_repr]
  exact newline_notMem_toDigits n

section

variable {ds : List Char} (h : '\n' ∉ ds)

include h

theorem newline_notMem_positional (l : Layout) (point : ℤ) : '\n' ∉ (l.positional ds point).toList := by
  have htake : ∀ n, '\n' ∉ ds.take n := fun n hmem => h (List.mem_of_mem_take hmem)
  have hdrop : ∀ n, '\n' ∉ ds.drop n := fun n hmem => h (List.mem_of_mem_drop hmem)
  unfold Layout.positional
  dsimp only
  split_ifs
  all_goals simp [zeros, h, htake, hdrop]

theorem newline_notMem_scientific (point : ℤ) : '\n' ∉ (scientific ds point).toList := by
  have htake : '\n' ∉ ds.take 1 := fun hmem => h (List.mem_of_mem_take hmem)
  have hdrop : '\n' ∉ ds.drop 1 := fun hmem => h (List.mem_of_mem_drop hmem)
  unfold scientific
  dsimp only
  split_ifs
  all_goals simp only [String.toList_append, String.toList_ofList, List.mem_append, not_or, toString, hdrop, htake,
    newline_notMem_repr, not_false_eq_true, and_true, true_and]
  all_goals decide

end

theorem newline_notMem_write (f : Format) (x : Binary) : '\n' ∉ (Json.numberLayout.write f x).toList := by
  cases x with
  | nan => exact (by decide : '\n' ∉ "null".toList)
  | infinite negative =>
    cases negative with
    | false => exact (by decide : '\n' ∉ ("" ++ "null").toList)
    | true => exact (by decide : '\n' ∉ ("-" ++ "null").toList)
  | finite negative m e =>
    have hdigits := newline_notMem_toDigits (f.shortest Json.numberLayout.tie m e).1
    have hsign : '\n' ∉ (if negative then "-" else "").toList := by cases negative <;> decide
    unfold Layout.write
    dsimp only
    rw [String.toList_append, List.mem_append, not_or]
    refine ⟨hsign, ?_⟩
    split_ifs
    · decide
    · decide
    · split
      · exact newline_notMem_positional hdigits _ _
      · split_ifs
        · exact newline_notMem_positional hdigits _ _
        · exact newline_notMem_scientific hdigits _

end Number

/-! ## Values -/

namespace Json

theorem newline_notMem_number (n : Number) : '\n' ∉ n.text.toList := by
  cases n with
  | whole n =>
    cases n with
    | ofNat n => exact Number.newline_notMem_repr n
    | negSucc n =>
      have htext : (Number.whole (Int.negSucc n)).text = "-" ++ (n + 1).repr := rfl
      rw [htext, String.toList_append, List.mem_append, not_or]
      exact ⟨by decide, Number.newline_notMem_repr (n + 1)⟩
  | real x => exact Number.newline_notMem_write Number.double x

theorem newline_notMem_escapeChar (c : Char) : '\n' ∉ escapeChar c := by
  by_cases hc : c.toNat < 32
  · have hcontrol : ∀ n < 32, '\n' ∉ escapeChar (Char.ofNat n) := by decide
    simpa using hcontrol c.toNat hc
  · have hne : '\n' ≠ c := by
      intro heq
      exact hc (heq ▸ by decide)
    unfold escapeChar
    rw [if_neg hc]
    split_ifs
    all_goals simp [hne]

theorem newline_notMem_stringText (s : String) : '\n' ∉ (stringText s).toList := by
  simp [stringText, newline_notMem_escapeChar]

theorem newline_notMem_intercalate {texts : List String} (h : ∀ t ∈ texts, '\n' ∉ t.toList) :
    '\n' ∉ (",".intercalate texts).toList := by
  induction texts with
  | nil => decide
  | cons t texts ih =>
    obtain ⟨ht, htexts⟩ := List.forall_mem_cons.1 h
    cases texts with
    | nil => simpa using ht
    | cons u texts =>
      rw [String.intercalate_cons_cons, String.toList_append, String.toList_append, List.mem_append, List.mem_append,
        not_or, not_or]
      exact ⟨⟨ht, by decide⟩, ih htexts⟩

mutual

/-- **One line.** The compact text of a value has no line feed. -/
theorem newline_notMem_text : (v : Value) → '\n' ∉ v.text.toList
  | .null => by decide
  | .bool true => by decide
  | .bool false => by decide
  | .number n => newline_notMem_number n
  | .string s => newline_notMem_stringText s
  | .array items => by
    have hitems := newline_notMem_intercalate (newline_notMem_texts items)
    rw [Value.text]
    simpa using hitems
  | .object members => by
    have hmembers := newline_notMem_intercalate (newline_notMem_memberTexts members)
    rw [Value.text]
    simpa using hmembers

theorem newline_notMem_texts : (vs : List Value) → ∀ t ∈ Value.texts vs, '\n' ∉ t.toList
  | [] => by simp [Value.texts]
  | v :: vs => by
    rw [Value.texts]
    exact List.forall_mem_cons.2 ⟨newline_notMem_text v, newline_notMem_texts vs⟩

theorem newline_notMem_memberTexts : (ms : List (String × Value)) → ∀ t ∈ Value.memberTexts ms, '\n' ∉ t.toList
  | [] => by simp [Value.memberTexts]
  | (k, v) :: ms => by
    have hkey := newline_notMem_stringText k
    have hvalue := newline_notMem_text v
    rw [Value.memberTexts]
    refine List.forall_mem_cons.2 ⟨?_, newline_notMem_memberTexts ms⟩
    simp [hkey, hvalue]

end

theorem text_object (ms : Members) : ∃ inner, ms.text.toList = '{' :: (inner ++ ['}']) := by
  refine ⟨(",".intercalate (Value.memberTexts ms)).toList, ?_⟩
  simp [Members.text, Value.text]

@[simp]
theorem texts_eq_map (vs : List Value) : Value.texts vs = vs.map Value.text := by
  induction vs with
  | nil => rfl
  | cons v vs ih => simp [Value.texts, ih]

end Json

end SearchFilter
