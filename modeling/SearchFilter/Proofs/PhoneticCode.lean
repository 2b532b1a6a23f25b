/-
What a phonetic code says.

The coder goes through the characters after the first with the letter and the digit of the one before, emits a digit only
if neither repeats, and stops when the code is full. Seen from outside it does something simpler: it maps every character
to its digit or to none, collapses each run of one result, drops the nones, and keeps three.
- `Sound`: the digit that is carried is that of the letter that is carried. Under it the test on letters adds
  nothing to the test on digits (`Sound.emits_iff`).
- `digitsAfter_eq`: what is emitted from any point on, for any room that is left.
- `code_eq_declared`: the code of every text.
- `encode_eq_declared`: the same for strings, with the length of codes and their digits behind different first characters.
- `code_eq_zeros`: the texts that cannot be told from the empty one.
-/
import Mathlib.Data.List.Destutter
import Mathlib.Data.List.ReduceOption
import Mathlib.Tactic
import SearchFilter.Strategy.Phonetic

namespace SearchFilter.Phonetic

/-! ## The code as it is declared -/

/-- the digits of the characters after the first: each is mapped to its digit or to none, runs of one result are
collapsed, and the nones are dropped -/
def digits (locale : Locale) (cs : List Char) : List Char :=
  ((cs.map fun c => digit locale (Text.upperHead c)).destutter (· ≠ ·)).reduceOption

/-- four zeros for the empty text; else the first character in upper case and the first three digits, filled up with zeros -/
def declared (locale : Locale) : List Char → List Char
  | [] => ['0', '0', '0', '0']
  | c :: cs => Text.upperHead c :: ((digits locale cs).take 3).rightpad 3 '0'

/-! ## Runs of one result -/

/-- the results of characters behind one with result `d`, without the ones that go on with a run -/
def fresh (d : Option Char) (ds : List (Option Char)) : List (Option Char) := (ds.destutter' (· ≠ ·) d).tail

theorem destutter'_eq_cons (d : Option Char) (ds : List (Option Char)) : ds.destutter' (· ≠ ·) d = d :: fresh d ds := by
  unfold fresh
  induction ds generalizing d with
  | nil => rfl
  | cons e ds ih =>
    rw [List.destutter'_cons]
    split_ifs with h
    · rfl
    · exact ih d

theorem fresh_cons (d e : Option Char) (ds : List (Option Char)) :
    fresh d (e :: ds) = if d ≠ e then e :: fresh e ds else fresh d ds := by
  rw [fresh, List.destutter'_cons]
  split_ifs with h
  · rw [List.tail_cons, destutter'_eq_cons]
  · rfl

/-- a run that nothing comes before is not one that goes on: the first character of a text carries no result -/
theorem reduceOption_fresh_none (ds : List (Option Char)) :
    (fresh none ds).reduceOption = (ds.destutter (· ≠ ·)).reduceOption := by
  cases ds with
  | nil => rfl
  | cons d ds =>
    rw [fresh_cons, List.destutter_cons', destutter'_eq_cons]
    split_ifs with h
    · rfl
    · rw [← not_not.1 h, List.reduceOption_cons_of_none]

theorem fresh_subset (d : Option Char) (ds : List (Option Char)) : fresh d ds ⊆ ds := by
  have hsublist := List.destutter'_sublist ds (· ≠ ·) d
  rw [destutter'_eq_cons] at hsublist
  exact (List.cons_sublist_cons.1 hsublist).subset

/-- collapsing runs loses no result -/
theorem mem_fresh (d : Option Char) {e : Option Char} {ds : List (Option Char)} (h : e ∈ ds) : e = d ∨ e ∈ fresh d ds := by
  induction ds generalizing d with
  | nil => cases h
  | cons x ds ih =>
    rw [fresh_cons]
    by_cases hx : d = x
    · rw [if_neg (not_not.2 hx)]
      rcases List.mem_cons.1 h with rfl | h
      · exact Or.inl hx.symm
      · exact ih d h
    · rw [if_pos hx, List.mem_cons]
      rcases List.mem_cons.1 h with rfl | h
      · exact Or.inr (Or.inl rfl)
      · exact Or.inr (ih x h)

/-! ## The loop -/

/-- the digit that is carried is that of the letter that is carried -/
structure Sound (locale : Locale) (p : Previous) : Prop where
  digit_eq : p.digit = p.letter.bind (digit locale)

theorem sound_first (locale : Locale) : Sound locale ⟨none, none⟩ := ⟨rfl⟩

theorem sound_next (locale : Locale) (c : Char) : Sound locale ⟨some c, digit locale c⟩ := ⟨rfl⟩

/-- a letter that repeats has a digit that repeats -/
theorem Sound.emits_iff {locale : Locale} {p : Previous} (hp : Sound locale p) (c : Char) :
    (some c ≠ p.letter ∧ digit locale c ≠ p.digit) ↔ p.digit ≠ digit locale c := by
  constructor
  · rintro ⟨-, hdigit⟩
    exact Ne.symm hdigit
  · intro hdigit
    refine ⟨?_, Ne.symm hdigit⟩
    intro hletter
    apply hdigit
    rw [hp.digit_eq, ← hletter]
    rfl

/-- **The loop.** From any point on, the digits emitted are the first ones that do not go on with a run. -/
theorem digitsAfter_eq {locale : Locale} (room : ℕ) {p : Previous} (hp : Sound locale p) (cs : List Char) :
    digitsAfter locale room p cs = (fresh p.digit (cs.map (digit locale))).reduceOption.take room := by
  induction cs generalizing room p with
  | nil => rw [digitsAfter]; simp [fresh]
  | cons c cs ih =>
    cases room with
    | zero => rw [digitsAfter, List.take_zero]
    | succ room =>
      have hnext := sound_next locale c
      have hemits := hp.emits_iff c
      rw [List.map_cons, fresh_cons, digitsAfter]
      cases hd : digit locale c with
      | none =>
        -- whether the run of nones goes on or starts here, nothing is emitted
        rw [hd] at hnext
        simp only [ih _ hnext]
        by_cases hrun : p.digit = none
        · rw [if_neg (not_not.2 hrun), hrun]
        · rw [if_pos hrun, List.reduceOption_cons_of_none]
      | some x =>
        rw [hd] at hnext hemits
        simp only [ih _ hnext]
        by_cases hrun : p.digit = some x
        · rw [if_neg (mt hemits.1 (not_not.2 hrun)), if_neg (not_not.2 hrun), hrun]
        · rw [if_pos (hemits.2 hrun), if_pos hrun, List.reduceOption_cons_of_some, List.take_succ_cons]

/-! ## Whole codes -/

theorem pad_cons (c : Char) (ds : List Char) : pad (c :: ds) = c :: ds.rightpad 3 '0' := by
  rw [pad, List.rightpad, List.length_cons, List.cons_append]
  congr 3
  exact Nat.add_sub_add_right 3 1 ds.length

/-- **The coder.** Codes are what they are declared to be. -/
theorem code_eq_declared (locale : Locale) (s : List Char) : code locale s = declared locale s := by
  cases s with
  | nil => rfl
  | cons c cs =>
    have hdigits : digitsAfter locale (codeLength - 1) ⟨none, none⟩ (cs.map Text.upperHead) =
        (digits locale cs).take 3 := by
      rw [digitsAfter_eq _ (sound_first locale), List.map_map, reduceOption_fresh_none]
      rfl
    rw [code, List.map_cons, declared, ← hdigits]
    exact pad_cons _ _

theorem length_declared (locale : Locale) (s : List Char) : (declared locale s).length = 4 := by
  cases s with
  | nil => rfl
  | cons c cs =>
    have htake : ((digits locale cs).take 3).length ≤ 3 := List.length_take_le 3 _
    rw [declared, List.length_cons, List.rightpad, List.length_append, List.length_replicate]
    omega

/-- **Phonetic codes.** A code has four characters and is the one declared for the text. What stands behind its first
character does not depend on the first character of the text, so the digit of that one suppresses nothing. -/
theorem encode_eq_declared (locale : Locale) (s : String) :
    (encode locale s).length = 4 ∧ encode locale s = String.ofList (declared locale s.toList) ∧
    ∀ first first' rest, (encode locale (String.ofList (first :: rest))).toList.tail =
      (encode locale (String.ofList (first' :: rest))).toList.tail := by
  refine ⟨?_, ?_, ?_⟩
  · rw [encode, String.length_ofList, code_eq_declared, length_declared]
  · rw [encode, code_eq_declared]
  · intro first first' rest
    simp only [encode, String.toList_ofList, code_eq_declared, declared, List.tail_cons]

/-- equal digits are told apart by a vowel between them, and the second `b` is one sound with the `p` -/
example : declared .standard "bbobpn".toList = "B115".toList := by decide +kernel

/-! ## Codes of zeros -/

/-- a zero is nobody's digit -/
theorem digit_ne_zero (locale : Locale) (c : Char) : digit locale c ≠ some '0' := by
  have hite : ∀ {p : Prop} [Decidable p] {a b : Option Char}, a ≠ some '0' → b ≠ some '0' →
      (if p then a else b) ≠ some '0' := by
    intro p _ a b ha hb
    by_cases hp : p
    · rwa [if_pos hp]
    · rwa [if_neg hp]
  cases locale with
  | standard => repeat' first | apply hite | decide
  | french => repeat' first | apply hite | decide

theorem mem_digits {locale : Locale} {cs : List Char} {x : Char} :
    x ∈ digits locale cs ↔ ∃ c ∈ cs, digit locale (Text.upperHead c) = some x := by
  rw [digits, ← reduceOption_fresh_none, List.reduceOption_mem_iff]
  constructor
  · intro hx
    exact List.mem_map.1 (fresh_subset none _ hx)
  · rintro ⟨c, hc, hx⟩
    have hmem : some x ∈ cs.map fun c => digit locale (Text.upperHead c) := List.mem_map.2 ⟨c, hc, hx⟩
    rcases mem_fresh none hmem with hnone | hfresh
    · cases hnone
    · exact hfresh

theorem digits_eq_nil {locale : Locale} {cs : List Char} :
    digits locale cs = [] ↔ ∀ c ∈ cs, digit locale (Text.upperHead c) = none := by
  simp only [List.eq_nil_iff_forall_not_mem, mem_digits, Option.eq_none_iff_forall_ne_some, not_exists, not_and]
  exact ⟨fun h c hc x => h x c hc, fun h x c hc => h c hc x⟩

/-- **Codes of zeros.** A text is coded like the empty one exactly if it is empty, or starts with a zero and goes on with
characters that have no digit. -/
theorem code_eq_zeros {locale : Locale} {s : List Char} : code locale s = ['0', '0', '0', '0'] ↔
    s = [] ∨ ∃ c cs, s = c :: cs ∧ Text.upperHead c = '0' ∧ ∀ x ∈ cs, digit locale (Text.upperHead x) = none := by
  rw [code_eq_declared]
  cases s with
  | nil => simp [declared]
  | cons c cs =>
    rw [declared, List.cons.injEq]
    have hzeros : ((digits locale cs).take 3).rightpad 3 '0' = ['0', '0', '0'] ↔ digits locale cs = [] := by
      cases hdigits : digits locale cs with
      | nil => simp [List.rightpad]
      | cons x xs =>
        -- a digit that is emitted is never a zero
        obtain ⟨y, -, hy⟩ := mem_digits.1 (hdigits ▸ List.mem_cons_self : x ∈ digits locale cs)
        have hx : x ≠ '0' := by
          rintro rfl
          exact digit_ne_zero locale _ hy
        simp [List.rightpad, hx]
    rw [hzeros, digits_eq_nil]
    simp

end SearchFilter.Phonetic
