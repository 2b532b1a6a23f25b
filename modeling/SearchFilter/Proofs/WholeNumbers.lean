/-
Ordering comparisons of whole numbers.

The operands are read as 64-bit numbers, so what is compared are whole numbers rounded to 53 bits. Up to `2 ^ 53` nothing is
rounded. Beyond, numbers that round to one are compared as equal, and only such numbers are compared wrongly.
- `read_digits`: digits are read as the number they denote, rounded.
- `holds_of_values`: 64-bit numbers stand in an ordering as the whole numbers they are worth do.
- `compares_nearest_iff`: when rounding changes nothing in what an ordering says.
- `compileExpr_not_atom`: one comparison under a NOT.
- `evaluate_whole`: ordering comparisons over texts of digits, and the filters that compile to them.
-/
import Mathlib
import SearchFilter.Proofs.CaseBlind
import SearchFilter.Proofs.NullFields
import SearchFilter.Proofs.Rounding

namespace SearchFilter

open SearchFilter.Number (IsNearest nearest isNearest_nearest nearest_mono nearest_of_le)
open SearchFilter.Text (asciiLower isBlank isDigit)

/-! ## Texts of digits -/

/-- up to 300 digits, and at least one -/
structure IsWhole (ds : List Char) : Prop where
  nonempty : ds ≠ []
  digits : ∀ c ∈ ds, isDigit c = true
  length_le : ds.length ≤ 300

def whole (ds : List Char) : ℕ := Nat.ofDigitChars 10 ds 0

namespace Number

/-- what is true of the ten digits -/
theorem of_isDigit {p : Char → Prop} (h : ∀ n < 10, p (Char.ofNat (48 + n))) {c : Char} (hc : isDigit c = true) :
    p c := by
  rw [isDigit, Bool.and_eq_true, decide_eq_true_eq, decide_eq_true_eq] at hc
  have hlow : 48 ≤ c.toNat := hc.1
  have hhigh : c.toNat ≤ 57 := hc.2
  have hdigit := h (c.toNat - 48) (by omega)
  rwa [Nat.add_sub_cancel' hlow, Char.ofNat_toNat] at hdigit

theorem natOfDigits_lt {ds : List Char} (h : ∀ c ∈ ds, isDigit c = true) (n : ℕ) :
    natOfDigits n ds < (n + 1) * 10 ^ ds.length := by
  induction ds generalizing n with
  | nil => simp [natOfDigits]
  | cons c ds ih =>
    obtain ⟨hc, hds⟩ := List.forall_mem_cons.1 h
    have hvalue : digitValue c < 10 := of_isDigit (p := fun c => digitValue c < 10) (by decide) hc
    calc natOfDigits n (c :: ds) = natOfDigits (10 * n + digitValue c) ds := rfl
      _ < (10 * n + digitValue c + 1) * 10 ^ ds.length := ih hds _
      _ ≤ (n + 1) * 10 * 10 ^ ds.length := Nat.mul_le_mul_right _ (by omega)
      _ = (n + 1) * 10 ^ (c :: ds).length := by rw [List.length_cons, Nat.pow_succ', Nat.mul_assoc]

theorem dropWhile_isBlank_digits {ds : List Char} (h : ∀ c ∈ ds, isDigit c = true) : ds.dropWhile isBlank = ds := by
  cases ds with
  | nil => rfl
  | cons c ds =>
    have hc : isBlank c = false := of_isDigit (p := fun c => isBlank c = false) (by decide) (h c List.mem_cons_self)
    rw [List.dropWhile_cons, hc, if_neg Bool.false_ne_true]

theorem trim_digits {ds : List Char} (h : ∀ c ∈ ds, isDigit c = true) : Text.trim ds = ds := by
  have hreverse : ∀ c ∈ ds.reverse, isDigit c = true := fun c hc => h c (List.mem_reverse.1 hc)
  rw [Text.trim, Text.trimStart, dropWhile_isBlank_digits h, Text.trimEnd, dropWhile_isBlank_digits hreverse,
    List.reverse_reverse]

theorem readMagnitude_digits {ds : List Char} (hne : ds ≠ []) (h : ∀ c ∈ ds, isDigit c = true) :
    readMagnitude false ds = some ⟨false, natOfDigits 0 ds, 0⟩ := by
  have htake : ds.takeWhile isDigit = ds := List.takeWhile_eq_self_iff.2 h
  have hdrop : ds.dropWhile isDigit = [] := List.dropWhile_eq_nil_iff.2 h
  unfold readMagnitude
  rw [htake, hdrop]
  dsimp only
  rw [if_neg (fun hnil => hne hnil.1)]
  rfl

theorem ofDecimal_whole (f : Format) (n : ℕ) : f.ofDecimal ⟨false, n, 0⟩ = f.round false n 1 := by
  unfold Format.ofDecimal
  dsimp only
  by_cases hn : n = 0
  · rw [if_pos hn, hn]
  · have hgreat : ¬ (0 : ℤ) > exponentLimit := by decide
    have hsmall : ¬ (0 : ℤ) + (n.log2 / 3 : ℕ) + 2 < -exponentLimit := by
      unfold exponentLimit
      omega
    have hten : n * tenTo (0 : ℤ).toNat = n := Nat.mul_one n
    rw [if_neg hn, if_neg hgreat, if_neg hsmall, if_neg (lt_irrefl _), hten]

/-- **Reading.** Digits are read as the number they denote, rounded. -/
theorem read_digits {ds : List Char} (hne : ds ≠ []) (h : ∀ c ∈ ds, isDigit c = true) :
    double.read ds = some (double.round false (whole ds) 1) := by
  have hword : ∀ c w, isDigit c = false → ds.map asciiLower ≠ c :: w := by
    intro c w hc heq
    rw [map_asciiLower_digits h] at heq
    exact Bool.false_ne_true (hc.symm.trans (h c (heq ▸ List.mem_cons_self)))
  have hsign : readSign ds = (false, ds) := by
    obtain ⟨c, rest, rfl⟩ := List.exists_cons_of_ne_nil hne
    have hc : c ≠ '-' ∧ c ≠ '+' := of_isDigit (p := fun c => c ≠ '-' ∧ c ≠ '+') (by decide) (h c List.mem_cons_self)
    exact readSign_of_ne hc.1 hc.2 rest
  have hinfinite : ¬ (ds.map asciiLower = "inf".toList ∨ ds.map asciiLower = "infinity".toList) :=
    not_or.2 ⟨hword 'i' _ (by decide), hword 'i' _ (by decide)⟩
  have hnan : ds.map asciiLower ≠ "nan".toList := hword 'n' _ (by decide)
  unfold Format.read
  rw [hsign]
  dsimp only
  rw [if_neg hinfinite, if_neg hnan, readMagnitude_digits hne h, Option.map_some, ofDecimal_whole]
  rfl

/-- three decimal digits are less than ten bits -/
theorem log2_whole_lt {ds : List Char} (h : ∀ c ∈ ds, isDigit c = true) {k : ℕ} (hk : 0 < k)
    (hlength : ds.length ≤ 3 * k) : (whole ds).log2 < 10 * k := by
  by_cases hzero : whole ds = 0
  · rw [hzero]
    exact Nat.mul_pos (by decide) hk
  apply (Nat.log2_lt hzero).2
  calc whole ds < (0 + 1) * 10 ^ ds.length := natOfDigits_lt h 0
    _ = 10 ^ ds.length := by rw [Nat.zero_add, Nat.one_mul]
    _ ≤ 10 ^ (3 * k) := Nat.pow_le_pow_right (by decide) hlength
    _ = (10 ^ 3) ^ k := Nat.pow_mul _ _ _
    _ ≤ (2 ^ 10) ^ k := Nat.pow_le_pow_left (by decide) _
    _ = 2 ^ (10 * k) := (Nat.pow_mul _ _ _).symm

end Number

/-- **Operands.** Digits are an operand worth the number they denote, rounded. -/
theorem toDecimal_whole {ds : List Char} (h : IsWhole ds) (field : String) : ∃ (m : ℕ) (e : ℤ),
    toDecimal field (some (String.ofList ds)) = .ok (.finite false m e) ∧ (m : ℚ) * 2 ^ e = nearest (whole ds) := by
  obtain ⟨m, e, hround, hvalue⟩ := Number.round_whole (Number.log2_whole_lt (k := 100) h.digits (by decide) h.length_le)
  refine ⟨m, e, ?_, hvalue⟩
  rw [toDecimal, String.toList_ofList, Number.trim_digits h.digits, Number.read_digits h.nonempty h.digits, hround]
  rfl

/-! ## Orderings of whole numbers -/

namespace NumericOp

/-- whether two whole numbers stand in the ordering -/
def compares (op : NumericOp) (m n : ℕ) : Bool :=
  match op with
  | less => m < n
  | lessOrEqual => m ≤ n
  | greater => n < m
  | greaterOrEqual => n ≤ m

theorem holds_of_values (op : NumericOp) {m m' x y : ℕ} {e e' : ℤ} (hx : (m : ℚ) * 2 ^ e = x)
    (hy : (m' : ℚ) * 2 ^ e' = y) : op.holds (.finite false m e) (.finite false m' e') = op.compares x y := by
  cases op <;> simp [holds, compares, Number.lt_finite, Number.le_finite, hx, hy]

/-- an ordering looks at no more than which number is greater -/
theorem compares_of_lt (op : NumericOp) {m n x y : ℕ} (h : m < n) (h' : x < y) :
    op.compares m n = op.compares x y ∧ op.compares n m = op.compares y x := by
  cases op <;> simp [compares] <;> omega

/-- **Rounding and orderings.** Rounding changes nothing unless two numbers become equal that the ordering tells from
equal ones. -/
theorem compares_nearest_iff (op : NumericOp) (m n : ℕ) : op.compares (nearest m) (nearest n) = op.compares m n ↔
    (nearest m = nearest n → op.compares m n = op.compares m m) := by
  rcases lt_trichotomy (nearest m) (nearest n) with hlt | heq | hgt
  · have hmn : m < n := lt_of_not_ge fun hle => hlt.not_ge (nearest_mono hle)
    exact iff_of_true (op.compares_of_lt hlt hmn).1 (fun heq => absurd heq hlt.ne)
  · have hself : op.compares (nearest n) (nearest n) = op.compares m m := by cases op <;> simp [compares]
    rw [heq, hself, eq_comm]
    simp
  · have hnm : n < m := lt_of_not_ge fun hle => hgt.not_ge (nearest_mono hle)
    exact iff_of_true (op.compares_of_lt hgt hnm).2 (fun heq => absurd heq hgt.ne')

end NumericOp

theorem Comparison.truth_eq_ordered {c : Comparison} {op : NumericOp} (h : NumericOp.ofOperator? c.operator = some op)
    (foldCase : Bool) (p : Options) (r : Record) : c.truth foldCase p r = c.ordered r op.holds := by
  rcases c with ⟨property, operator, value, negated⟩
  cases operator <;> cases h <;> rfl

theorem ordered_whole (c : Comparison) (op : NumericOp) {r : Record} {ds literal : List Char}
    (hfield : r c.property = some (String.ofList ds)) (hds : IsWhole ds) (hvalue : c.value = String.ofList literal)
    (hliteral : IsWhole literal) :
    c.ordered r op.holds = .ok (op.compares (nearest (whole ds)) (nearest (whole literal))) := by
  obtain ⟨m, e, hleft, hm⟩ := toDecimal_whole hds c.property
  obtain ⟨m', e', hright, hm'⟩ := toDecimal_whole hliteral c.property
  rw [Comparison.ordered, hfield, hvalue, hleft, hright, Except.bind, Except.map, op.holds_of_values hm hm']

/-! ## Filters of one ordering comparison -/

/-- one comparison under a NOT is compiled to its leaf, negated -/
theorem compileExpr_not_atom (o : Options) {schema : Schema} {a : Atom} (legal : a.Legal) {field : String}
    (known : schema.resolve (String.ofList a.property) = some field) {filter : String}
    (htext : Text.lower filter.toList = '(' :: '!' :: (a.text ++ [')'])) :
    compileExpr o schema filter = .ok ((⟨field, a.operator, String.ofList a.literal, true⟩ : Comparison).toExpr o) := by
  have hknown : (schema.resolve (String.ofList a.property)).isSome = true := by rw [known]; rfl
  have hgrammatical : (Sentence.group .not [.comparison a]).Grammatical schema :=
    Sentence.grammatical_group.2 ⟨rfl, List.forall_mem_singleton.2 (.comparison legal hknown)⟩
  have hdepth : (Sentence.group .not [.comparison a]).depth ≤ maxDepth :=
    Sentence.depth_group_le.2 (List.forall_mem_singleton.2 (Nat.zero_le _))
  have hsentence : (Sentence.group .not [.comparison a]).text = Text.lower filter.toList := by
    rw [htext, Sentence.text_group, List.flatMap_singleton]
    rfl
  rw [Sentence.compileExpr_eq hgrammatical hdepth hsentence, Sentence.expr_group,
    ← Atom.comparison_eq known]
  rfl

/-- **Ordering comparisons.** An ordering comparison, negated or not, between a field and a literal that are digits compares
the two numbers rounded to 53 bits:
- the answer is that of the numbers themselves, unless they round to one number and the ordering tells them from equal
  ones;
- numbers up to `2 ^ 53` are not rounded;
- filters of this comparison, by itself or under a NOT, compile to it. -/
theorem evaluate_whole {o p : Options} {field : String} {operator : Operator} {op : NumericOp}
    (hop : NumericOp.ofOperator? operator = some op) (negated : Bool) {literal : List Char} (hliteral : IsWhole literal)
    {r : Record} {ds : List Char} (hfield : r field = some (String.ofList ds)) (hds : IsWhole ds) :
    let e := (⟨field, operator, String.ofList literal, negated⟩ : Comparison).toExpr o
    IsNearest (whole ds) (nearest (whole ds)) ∧ IsNearest (whole literal) (nearest (whole literal)) ∧
      e.evaluate p r = .ok (op.compares (nearest (whole ds)) (nearest (whole literal)) != negated) ∧
      (e.evaluate p r = .ok (op.compares (whole ds) (whole literal) != negated) ↔
        (nearest (whole ds) = nearest (whole literal) →
          op.compares (whole ds) (whole literal) = op.compares (whole ds) (whole ds))) ∧
      (whole ds ≤ 2 ^ 53 → whole literal ≤ 2 ^ 53 →
        e.evaluate p r = .ok (op.compares (whole ds) (whole literal) != negated)) ∧
      ∀ (schema : Schema) (property : List Char) (filter : String), Atom.Legal ⟨property, operator, literal⟩ →
        schema.resolve (String.ofList property) = some field →
        Text.lower filter.toList =
          (if negated then '(' :: '!' :: (Atom.text ⟨property, operator, literal⟩ ++ [')'])
            else Atom.text ⟨property, operator, literal⟩) →
        compileExpr o schema filter = .ok e := by
  intro e
  have hevaluate : e.evaluate p r = .ok (op.compares (nearest (whole ds)) (nearest (whole literal)) != negated) := by
    rw [Comparison.evaluate_toExpr, Comparison.truth_eq_ordered hop, ordered_whole _ op hfield hds rfl hliteral]
    rfl
  refine ⟨isNearest_nearest _, isNearest_nearest _, hevaluate, ?_, ?_, ?_⟩
  · rw [hevaluate, ← op.compares_nearest_iff, Except.ok.injEq, Bool.bne_left_inj]
  · intro hsmall hsmall'
    rw [hevaluate, nearest_of_le hsmall, nearest_of_le hsmall']
  · intro schema property filter legal known htext
    cases negated with
    | false => exact compileExpr_atom o legal known htext
    | true => exact compileExpr_not_atom o legal known htext

/-- The first number that is rounded is not greater than the number before it. -/
theorem evaluate_whole_rounded :
    compileExpr (.default Like.library .standard) (.ofNames ["Version"]) "(version>9007199254740992)" =
      .ok (.compare "Version" .greater "9007199254740992") ∧
    Json.Members.record [("Version", .string "9007199254740993")] "Version" = some "9007199254740993" ∧
    NumericOp.greater.compares (whole "9007199254740993".toList) (whole "9007199254740992".toList) = true ∧
    (Expr.compare "Version" .greater "9007199254740992").evaluate (.default Like.library .standard)
      (Json.Members.record [("Version", .string "9007199254740993")]) = .ok false := by
  refine ⟨by cbv, rfl, by decide, ?_⟩
  have hliteral : IsWhole "9007199254740992".toList :=
    ⟨by decide, List.forall_iff_forall_mem.1 (by decide +kernel), by decide⟩
  have hds : IsWhole "9007199254740993".toList :=
    ⟨by decide, List.forall_iff_forall_mem.1 (by decide +kernel), by decide⟩
  have hordered := ordered_whole ⟨"Version", .greater, "9007199254740992", false⟩ .greater
    (r := Json.Members.record [("Version", .string "9007199254740993")]) rfl hds rfl hliteral
  have hrounded : NumericOp.greater.compares (nearest (whole "9007199254740993".toList))
      (nearest (whole "9007199254740992".toList)) = false := by
    decide +kernel
  exact hordered.trans (congrArg Except.ok hrounded)

/-- numbers of more than 53 bits that are told apart, under a NOT -/
theorem evaluate_whole_apart : ∃ e,
    compileExpr (.default Like.library .french) (.ofNames ["Version"]) "(!(VERSION<=9007199254740993))" = .ok e ∧
    e.evaluate (.default Like.library .french) (Json.Members.record [("Version", .string "18446744073709551615")]) = .ok true := by
  have legal : Atom.Legal ⟨"version".toList, .lessOrEqual, "9007199254740993".toList⟩ := by
    refine ⟨by decide, List.forall_iff_forall_mem.1 ?_, by decide, List.forall_iff_forall_mem.1 ?_⟩
    · decide +kernel
    · decide +kernel
  have known : (Schema.ofNames ["Version"]).resolve (String.ofList "version".toList) = some "Version" := by cbv
  have htext : Text.lower "(!(VERSION<=9007199254740993))".toList =
      if true then '(' :: '!' :: (Atom.text ⟨"version".toList, .lessOrEqual, "9007199254740993".toList⟩ ++ [')'])
      else Atom.text ⟨"version".toList, .lessOrEqual, "9007199254740993".toList⟩ := by
    decide +kernel
  have hliteral : IsWhole "9007199254740993".toList :=
    ⟨by decide, List.forall_iff_forall_mem.1 (by decide +kernel), by decide⟩
  have hds : IsWhole "18446744073709551615".toList :=
    ⟨by decide, List.forall_iff_forall_mem.1 (by decide +kernel), by decide⟩
  have hop : NumericOp.ofOperator? .lessOrEqual = some .lessOrEqual := rfl
  have hfield : Json.Members.record [("Version", .string "18446744073709551615")] "Version" =
      some (String.ofList "18446744073709551615".toList) := rfl
  obtain ⟨-, -, -, hexact, -, hcompiled⟩ :=
    evaluate_whole (o := .default Like.library .french) (p := .default Like.library .french) hop true hliteral hfield hds
  have hapart : nearest (whole "18446744073709551615".toList) ≠ nearest (whole "9007199254740993".toList) := by
    decide +kernel
  exact ⟨_, hcompiled _ _ _ legal known htext, hexact.2 fun heq => absurd heq hapart⟩

end SearchFilter
