/-
Null fields under comparisons that are not negated.

Equality and wildcards ask whether the field is there, and a null field has no match. The approximate comparison does not
ask: it takes a null field for the empty text and compares codes, so it matches where the literal is coded like the empty
text.
- `Phonetic.IsSilent`: a zero, and characters that carry no digit after it.
- `Phonetic.encode_eq_empty_iff`: these are the literals coded like the empty text, in either locale.
- `evaluate_null`: a filter of one comparison on a record where its field is null.
-/
import Mathlib
import SearchFilter.Proofs.PhoneticCode
import SearchFilter.Proofs.WellFormed
import SearchFilter.Record.Json

namespace SearchFilter

/-! ## Literals coded like the empty text -/

namespace Phonetic

/-- the small letters that carry a digit -/
def voiced : List Char := "bcdfgjklmnpqrstvxz".toList

/-- a zero, and characters that carry no digit after it -/
def IsSilent (literal : List Char) : Prop := ∃ rest, literal = '0' :: rest ∧ ∀ c ∈ rest, c ∉ voiced

/-- the characters of literals that carry a digit are these letters, and only a zero is a zero in upper case -/
theorem digit_eq_none_iff {c : Char} (h : Tile.isValueChar c = true) (locale : Locale) :
    digit locale (Text.upperHead c) = none ↔ c ∉ voiced := by
  refine of_isValueChar (p := fun c => digit locale (Text.upperHead c) = none ↔ c ∉ voiced) ?_ h
  cases locale with
  | standard => decide +kernel
  | french => decide +kernel

theorem upperHead_eq_zero_iff {c : Char} (h : Tile.isValueChar c = true) : Text.upperHead c = '0' ↔ c = '0' :=
  of_isValueChar (p := fun c => Text.upperHead c = '0' ↔ c = '0') (by decide +kernel) h

/-- **Coded like the empty text.** These are the silent literals, whatever the locale. -/
theorem encode_eq_empty_iff {literal : List Char} (hne : literal ≠ [])
    (hchars : ∀ c ∈ literal, Tile.isValueChar c = true) (locale : Locale) :
    encode locale "" = encode locale (String.ofList literal) ↔ IsSilent literal := by
  have hempty : encode locale "" = String.ofList ['0', '0', '0', '0'] := rfl
  rw [hempty, encode, String.ofList_inj, String.toList_ofList, eq_comm, code_eq_zeros]
  constructor
  · rintro (rfl | ⟨c, cs, rfl, hzero, hnone⟩)
    · exact absurd rfl hne
    · obtain ⟨hc, hcs⟩ := List.forall_mem_cons.1 hchars
      rw [(upperHead_eq_zero_iff hc).1 hzero]
      exact ⟨cs, rfl, fun x hx => (digit_eq_none_iff (hcs x hx) locale).1 (hnone x hx)⟩
  · rintro ⟨cs, rfl, hsilent⟩
    obtain ⟨hc, hcs⟩ := List.forall_mem_cons.1 hchars
    exact Or.inr ⟨'0', cs, rfl, (upperHead_eq_zero_iff hc).2 rfl,
      fun x hx => (digit_eq_none_iff (hcs x hx) locale).2 (hsilent x hx)⟩

end Phonetic

/-! ## One comparison -/

theorem Atom.comparison_eq {schema : Schema} {a : Atom} {field : String}
    (known : schema.resolve (String.ofList a.property) = some field) (negated : Bool) :
    a.comparison schema negated = ⟨field, a.operator, String.ofList a.literal, negated⟩ := by
  rw [Atom.comparison, known]
  rfl

/-- a filter of one comparison is compiled to the leaf of that comparison -/
theorem compileExpr_atom (o : Options) {schema : Schema} {a : Atom} (legal : a.Legal) {field : String}
    (known : schema.resolve (String.ofList a.property) = some field) {filter : String}
    (htext : Text.lower filter.toList = a.text) :
    compileExpr o schema filter = .ok ((⟨field, a.operator, String.ofList a.literal, false⟩ : Comparison).toExpr o) := by
  have hknown : (schema.resolve (String.ofList a.property)).isSome = true := by rw [known]; rfl
  rw [Sentence.compileExpr_eq (.comparison legal hknown) (Nat.zero_le _) htext.symm, Sentence.expr,
    Atom.comparison_eq known]

section

variable {o : Options} {field : String} {literal : List Char} {r : Record}

/-- equality and wildcards do not match a field that is not there -/
theorem evaluate_equal_null (hwild : literal ≠ [wildcard]) (hnull : r field = none) :
    ((⟨field, .equal, String.ofList literal, false⟩ : Comparison).toExpr o).evaluate o r = .ok false := by
  have hpresence : (⟨field, .equal, String.ofList literal, false⟩ : Comparison).isPresence = false := by
    simp [Comparison.isPresence, hwild]
  rw [Comparison.toExpr, hpresence]
  by_cases hlike : (⟨field, .equal, String.ofList literal, false⟩ : Comparison).hasWildcard = true
  · simp [NumericOp.ofOperator?, hlike, Expr.evaluate, hnull]
  · simp [NumericOp.ofOperator?, hlike, Expr.evaluate, hnull, Expr.fieldEquals]

/-- the approximate comparison codes a field that is not there like the empty text -/
theorem evaluate_approximate_null (hnull : r field = none) :
    ((⟨field, .approximate, String.ofList literal, false⟩ : Comparison).toExpr o).evaluate o r =
      .ok (o.approximate.encode "" == o.approximate.encode (String.ofList literal)) := by
  simp [Comparison.toExpr, Comparison.isPresence, NumericOp.ofOperator?, Expr.evaluate, hnull]

end

/-- **Null fields.** A filter that is one comparison, not negated, on a record where its field is null:
- equality with a literal other than `*`, with wildcards in it or without, does not match;
- the approximate comparison under the coder of either locale matches if the literal is silent, and only then. -/
theorem evaluate_null {o : Options} {locale : Locale} (hcodes : o.approximate = Phonetic.strategy locale)
    {schema : Schema} {a : Atom} (legal : a.Legal) {field : String}
    (known : schema.resolve (String.ofList a.property) = some field) {filter : String}
    (htext : Text.lower filter.toList = a.text) {r : Record} (hnull : r field = none) :
    ∃ e, compileExpr o schema filter = .ok e ∧
      (a.operator = .equal → a.literal ≠ ['*'] → e.evaluate o r = .ok false) ∧
      (a.operator = .approximate → ¬ Phonetic.IsSilent a.literal → e.evaluate o r = .ok false) ∧
      (a.operator = .approximate → Phonetic.IsSilent a.literal → e.evaluate o r = .ok true) := by
  have hcode := Phonetic.encode_eq_empty_iff legal.valued legal.value_chars locale
  have hencode : o.approximate.encode = Phonetic.encode locale := by rw [hcodes]; rfl
  refine ⟨_, compileExpr_atom o legal known htext, ?_, ?_, ?_⟩
  · intro hoperator hwild
    rw [hoperator]
    exact evaluate_equal_null hwild hnull
  · intro hoperator hsilent
    rw [hoperator, evaluate_approximate_null hnull, hencode, beq_eq_false_iff_ne.2 (mt hcode.1 hsilent)]
  · intro hoperator hsilent
    rw [hoperator, evaluate_approximate_null hnull, hencode, beq_iff_eq.2 (hcode.2 hsilent)]

/-- an approximate comparison that matches a null field -/
theorem evaluate_null_zero :
    compileExpr (.default Like.library .standard) (.ofNames ["Sn"]) "(sn~=0)" = .ok (.approximate "Sn" "0" false) ∧
    Json.Members.record [("Sn", .null)] "Sn" = none ∧
    (Expr.approximate "Sn" "0" false).evaluate (.default Like.library .standard) (Json.Members.record [("Sn", .null)]) = .ok true :=
  ⟨by cbv, rfl, by cbv⟩

/-- a zero and a letter that carries a digit -/
theorem evaluate_null_voiced : ∃ e,
    compileExpr (.default Like.library .french) (.ofNames ["Sn"]) "(sn~=0B)" = .ok e ∧
    e.evaluate (.default Like.library .french) (Json.Members.record [("Sn", .null)]) = .ok false := by
  have legal : Atom.Legal ⟨['s', 'n'], .approximate, ['0', 'b']⟩ := by
    refine ⟨by decide, List.forall_iff_forall_mem.1 ?_, by decide, List.forall_iff_forall_mem.1 ?_⟩
    · decide +kernel
    · decide +kernel
  have hvoiced : ¬ Phonetic.IsSilent ['0', 'b'] := by
    rintro ⟨rest, hrest, hsilent⟩
    obtain rfl := (List.cons.inj hrest).2
    exact hsilent 'b' (List.mem_singleton.2 rfl) (by decide)
  have known : (Schema.ofNames ["Sn"]).resolve (String.ofList ['s', 'n']) = some "Sn" := by cbv
  have htext : Text.lower "(sn~=0B)".toList = Atom.text ⟨['s', 'n'], .approximate, ['0', 'b']⟩ := by decide +kernel
  have hnull : Json.Members.record [("Sn", .null)] "Sn" = none := rfl
  obtain ⟨e, he, -, happroximate, -⟩ := evaluate_null (o := .default Like.library .french) rfl legal known htext hnull
  exact ⟨e, he, happroximate rfl hvoiced⟩

end SearchFilter
