/-
Calls of strategies.

A descriptor writes a call with numbered slots and reads the slots again when operands are put in. The number of a slot is
written in decimal digits, and its digits give the number back however many there are. Behind a slot filling goes on with
what is left of the pattern, never with the operand, so an operand is written out as it is, whatever it looks like.
- `fill_plain`, `fill_digits`: what filling does outside of a slot, and inside of one.
- `fill_slot`, `fill_slots`: one slot and a row of slots, each with the operand of its number or left as it stands.
- `fill_ofSlots`: the pattern of a call, and `render_ofSlots` with an operand for every slot.
- `render_call`: the text of a call with any number of slots and of operands.
-/
import Mathlib.Tactic
import SearchFilter.Strategy.Descriptor

namespace SearchFilter.Descriptor

open SearchFilter.Text (isDigit braced)

/-! ## Slots -/

/-- what stands in slot `i`: the operand of this number, or the slot itself if there is none -/
def argument (operands : List String) (i : ℕ) : String := operands[i]?.getD (slot i)

@[simp]
theorem toList_slot (i : ℕ) : (slot i).toList = '{' :: (Nat.toDigits 10 i ++ ['}']) := by
  simp [slot, Nat.toList_repr]

theorem isDigit_of_mem_toDigits {i : ℕ} {c : Char} (h : c ∈ Nat.toDigits 10 i) : isDigit c = true := by
  have hdigit := Nat.isDigit_of_mem_toDigits (by decide) (by decide) h
  simpa [Char.isDigit, isDigit, Char.le_def] using hdigit

/-- the digits of a number are read as this number -/
theorem natOfDigits_toDigits (i : ℕ) : Number.natOfDigits 0 (Nat.toDigits 10 i) = i :=
  Nat.ofDigitChars_toDigits (by decide) (by decide)

/-! ## Filling -/

theorem fill_plain (operands : List String) {text : List Char} (h : '{' ∉ text) (rest : List Char) :
    fill operands none (text ++ rest) = text ++ fill operands none rest := by
  induction text with
  | nil => rfl
  | cons c text ih =>
    obtain ⟨hc, htext⟩ := not_or.1 (mt List.mem_cons.2 h)
    rw [List.cons_append, fill, ih htext, List.cons_append]
    · exact hc ∘ Eq.symm

/-- digits after an opening brace wait for the closing one -/
theorem fill_digits (operands : List String) {digits : List Char} (h : ∀ c ∈ digits, isDigit c = true)
    (before rest : List Char) :
    fill operands (some before) (digits ++ rest) = fill operands (some (before ++ digits)) rest := by
  induction digits generalizing before with
  | nil => simp
  | cons c digits ih =>
    obtain ⟨hc, hdigits⟩ := List.forall_mem_cons.1 h
    have hbrace : c ≠ '{' := by
      intro heq
      subst heq
      exact absurd hc (by decide)
    rw [List.cons_append, fill, if_pos hc, ih hdigits, List.append_assoc, List.singleton_append]
    · exact hbrace

/-- a slot is filled or stays as it is, and reading goes on after it -/
theorem fill_slot (operands : List String) (i : ℕ) (rest : List Char) :
    fill operands none ((slot i).toList ++ rest) = (argument operands i).toList ++ fill operands none rest := by
  have hdigits : ∀ c ∈ Nat.toDigits 10 i, isDigit c = true := by
    intro c hc
    exact isDigit_of_mem_toDigits hc
  have hclosed : fill operands (some (Nat.toDigits 10 i)) ('}' :: rest) =
      (argument operands i).toList ++ fill operands none rest := by
    rw [fill, if_neg (by decide), if_pos ⟨rfl, Nat.toDigits_ne_nil⟩, natOfDigits_toDigits, argument]
    · cases operands[i]? with
      | none => simp
      | some operand => rfl
    · decide
  calc fill operands none ((slot i).toList ++ rest)
      = fill operands none ('{' :: (Nat.toDigits 10 i ++ '}' :: rest)) := by simp
    _ = fill operands (some []) (Nat.toDigits 10 i ++ '}' :: rest) := by rw [fill, unfilled, List.nil_append]
    _ = fill operands (some (Nat.toDigits 10 i)) ('}' :: rest) := by
        rw [fill_digits operands hdigits, List.nil_append]
    _ = (argument operands i).toList ++ fill operands none rest := hclosed

/-- slots in a row are filled one by one, whatever their numbers are -/
theorem fill_slots (operands : List String) (numbers : List ℕ) (rest : List Char) :
    fill operands none ((", ".intercalate (numbers.map slot)).toList ++ rest) =
      (", ".intercalate (numbers.map (argument operands))).toList ++ fill operands none rest := by
  induction numbers with
  | nil => rfl
  | cons i numbers ih =>
    cases numbers with
    | nil => simpa using fill_slot operands i rest
    | cons j numbers =>
      have hcomma : '{' ∉ ", ".toList := by decide
      rw [List.map_cons, List.map_cons] at ih ⊢
      rw [List.map_cons, List.map_cons, String.intercalate_cons_cons, String.intercalate_cons_cons, String.toList_append,
        String.toList_append, String.toList_append, String.toList_append, List.append_assoc, List.append_assoc, fill_slot,
        fill_plain operands hcomma, ih, List.append_assoc, List.append_assoc]

/-! ## Calls -/

theorem fill_ofSlots {function : String} (h : '{' ∉ function.toList) (n : ℕ) (operands : List String) :
    fill operands none (ofSlots function n).pattern.toList =
      (function ++ "(" ++ ", ".intercalate ((List.range n).map (argument operands)) ++ ")").toList := by
  have hopening : '{' ∉ (function ++ "(").toList := by simpa using h
  have hpattern : (ofSlots function n).pattern.toList =
      (function ++ "(").toList ++ ((", ".intercalate ((List.range n).map slot)).toList ++ ")".toList) := by
    simp [ofSlots]
  have hclosing : fill operands none ")".toList = ")".toList := rfl
  rw [hpattern, fill_plain operands hopening, fill_slots, hclosing]
  simp

/-- a call with as many operands as it has slots holds them in order -/
theorem render_ofSlots {function : String} (h : '{' ∉ function.toList) (operands : List String) :
    (ofSlots function operands.length).render operands = function ++ "(" ++ ", ".intercalate operands ++ ")" := by
  have hall : (List.range operands.length).map (argument operands) = operands := by
    apply List.ext_getElem
    · simp
    · intro i hi hi'
      simp [argument, List.getElem?_eq_getElem hi']
  rw [render, fill_ofSlots h, hall, String.ofList_toList]

/-- **Calls.** Each slot of a call holds the operand of its number as that was given, or stands as it is when there is no
such operand. What an operand looks like does not count, and operands beyond the last slot are not written. -/
theorem render_call {function : String} (h : '{' ∉ function.toList) (n : ℕ) (operands : List String) :
    (ofSlots function n).render operands = function ++ "(" ++
      ", ".intercalate ((List.range n).map fun i => operands[i]?.getD (braced (toString i))) ++ ")" := by
  have hargument : (fun i => operands[i]?.getD (braced (toString i))) = argument operands := rfl
  rw [hargument, render, fill_ofSlots h, String.ofList_toList]

/-- operands that look like slots, and a slot without an operand -/
theorem render_call_braces : '{' ∉ "store::like".toList ∧
    (ofSlots "store::like" 3).render [braced "1", braced "0" ++ " " ++ braced "2"] =
      "store::like(" ++ braced "1" ++ ", " ++ braced "0" ++ " " ++ braced "2" ++ ", " ++ braced "2" ++ ")" := by
  have hplain : '{' ∉ "store::like".toList := by decide
  refine ⟨hplain, ?_⟩
  rw [render_call hplain 3 [braced "1", braced "0" ++ " " ++ braced "2"]]
  decide

end SearchFilter.Descriptor
