/-
Compiling does not see the case of a filter.

The outer parentheses and their numbers are checked on the filter as it was given, and everything behind on its lower-case
form. Lowering makes, loses and moves no parenthesis, so two filters with one lower-case form pass or fail the first check
together; behind it a stage asks for the filter itself only to quote it.
- `SameOutcome`: the same result, or the same fault with each filter quoting itself. It goes through `bind`, so the stages
  are compared one by one.
- `enclosed_iff_of_lower_eq`, `balanced_iff_of_lower_eq`: the first check.
- `extract_sameOutcome`, `skeleton_sameOutcome`, `resolve_sameOutcome`: the stages behind it.
- `compileExpr_recased`: the whole compilation.
-/
import Mathlib
import SearchFilter.Proofs.Diagnosis

namespace SearchFilter

variable {f g : String}

/-! ## Runs that end alike -/

/-- two runs with one result, or with one fault that quotes `f` in the first run and `g` in the second -/
inductive SameOutcome {α : Type} (f g : String) : Except FilterError α → Except FilterError α → Prop
  | ok (a : α) : SameOutcome f g (.ok a) (.ok a)
  | error (fault : Fault) : SameOutcome f g (.error ⟨fault, f⟩) (.error ⟨fault, g⟩)

theorem SameOutcome.bind {α β : Type} {x y : Except FilterError α} {k l : α → Except FilterError β}
    (hxy : SameOutcome f g x y) (hkl : ∀ a, SameOutcome f g (k a) (l a)) : SameOutcome f g (x.bind k) (y.bind l) := by
  cases hxy with
  | ok a => exact hkl a
  | error fault => exact .error fault

/-! ## Stages -/

theorem lower_eq_of_lowercase_eq (h : Text.lowercase f = Text.lowercase g) :
    Text.lower f.toList = Text.lower g.toList := by
  have htexts := congrArg String.toList h
  rwa [Text.lowercase, Text.lowercase, String.toList_ofList, String.toList_ofList] at htexts

section

variable (h : Text.lower f.toList = Text.lower g.toList)

include h

theorem enclosed_iff_of_lower_eq : Enclosed f ↔ Enclosed g := by
  have hfirst : f.toList.head? = some '(' ↔ g.toList.head? = some '(' := by
    rw [← Text.head_lower Text.isFixed_opening, h, Text.head_lower Text.isFixed_opening]
  have hlast : f.toList.getLast? = some ')' ↔ g.toList.getLast? = some ')' := by
    rw [← Text.getLast_lower Text.isFixed_closing, h, Text.getLast_lower Text.isFixed_closing]
  constructor
  · exact fun hf => ⟨hfirst.1 hf.first, hlast.1 hf.last⟩
  · exact fun hg => ⟨hfirst.2 hg.first, hlast.2 hg.last⟩

theorem balanced_iff_of_lower_eq : Balanced f ↔ Balanced g := by
  rw [Balanced, Balanced, ← Text.count_lower Text.isFixed_opening f.toList, ← Text.count_lower Text.isFixed_closing f.toList,
    h, Text.count_lower Text.isFixed_opening, Text.count_lower Text.isFixed_closing]

theorem validate_sameOutcome : SameOutcome f g (validate f) (validate g) := by
  have henclosed := enclosed_iff_of_lower_eq h
  have hbalanced := balanced_iff_of_lower_eq h
  by_cases hf : Enclosed f
  swap
  · rw [validate_of_not_enclosed hf, validate_of_not_enclosed (mt henclosed.2 hf)]
    exact .error _
  by_cases hb : Balanced f
  swap
  · rw [validate_of_not_balanced hf hb, validate_of_not_balanced (henclosed.1 hf) (mt hbalanced.2 hb)]
    exact .error _
  rw [validate_of_balanced hf hb, validate_of_balanced (henclosed.1 hf) (hbalanced.1 hb)]
  exact .ok ()

theorem extract_sameOutcome (schema : Schema) : SameOutcome f g (extract schema f) (extract schema g) := by
  rw [extract, extract, h]
  obtain ⟨raw, rest⟩ := Tile.scan (Text.lower g.toList)
  simp only
  cases resolveTiles schema raw with
  | error fault => exact .error fault
  | ok tiles =>
    by_cases huncovered : rest ≠ [] ∨ tiles = []
    · simp only [if_pos huncovered]
      exact .error .malformed
    · simp only [if_neg huncovered]
      exact .ok tiles

end

theorem skeleton_sameOutcome (f g : String) (tiles : List Tile) : SameOutcome f g (skeleton f tiles) (skeleton g tiles) := by
  rw [skeleton, skeleton]
  cases (Builder.start.run 0 tiles).bind Builder.finish with
  | error fault => exact .error fault
  | ok node => exact .ok node

theorem resolve_sameOutcome (f g : String) (node : Node) (leaves : List Expr) :
    SameOutcome f g (resolve f node leaves) (resolve g node leaves) := by
  rw [resolve, resolve]
  cases node.collapse false (leaves.map some) with
  | error fault => exact .error fault
  | ok collapsed =>
    simp only
    cases collapsed.2.single? with
    | none => exact .error .unresolvable
    | some e => exact .ok e

/-! ## Whole filters -/

theorem compileExpr_sameOutcome (o : Options) (schema : Schema) (h : Text.lower f.toList = Text.lower g.toList) :
    SameOutcome f g (compileExpr o schema f) (compileExpr o schema g) := by
  rw [compileExpr, compileExpr]
  refine (validate_sameOutcome h).bind fun _ => ?_
  refine (extract_sameOutcome h schema).bind fun tiles => ?_
  refine (skeleton_sameOutcome f g tiles).bind fun node => ?_
  exact resolve_sameOutcome f g node _

/-- **Case of filters.** Two filters with one lower-case form compile to the same predicate, or both are refused for the
same fault, the name of an unknown property included, and each refusal quotes the filter it was given. -/
theorem compileExpr_recased (o : Options) (schema : Schema) (h : Text.lowercase f = Text.lowercase g) :
    (∃ e, compileExpr o schema f = .ok e ∧ compileExpr o schema g = .ok e) ∨
    ∃ fault, compileExpr o schema f = .error ⟨fault, f⟩ ∧ compileExpr o schema g = .error ⟨fault, g⟩ := by
  have hsame := compileExpr_sameOutcome o schema (lower_eq_of_lowercase_eq h)
  generalize compileExpr o schema f = x at hsame ⊢
  generalize compileExpr o schema g = y at hsame ⊢
  cases hsame with
  | ok e => exact Or.inl ⟨e, rfl, rfl⟩
  | error fault => exact Or.inr ⟨fault, rfl, rfl⟩

/-- the sign for kelvin is lowered to the letter `k`, which a literal may hold -/
theorem compileExpr_recased_kelvin :
    Text.lowercase "(!(Sn=DOE \u212A*))" = Text.lowercase "(!(sN=doe k*))" ∧
    compileExpr (.default Like.library .standard) (.ofNames ["Sn"]) "(!(Sn=DOE \u212A*))" = .ok (.like "Sn" "doe k%" true) ∧
    compileExpr (.default Like.library .standard) (.ofNames ["Sn"]) "(!(sN=doe k*))" = .ok (.like "Sn" "doe k%" true) := by
  have hsame : Text.lowercase "(!(Sn=DOE \u212A*))" = Text.lowercase "(!(sN=doe k*))" := by decide +kernel
  have hleft : compileExpr (.default Like.library .standard) (.ofNames ["Sn"]) "(!(Sn=DOE \u212A*))" = .ok (.like "Sn" "doe k%" true) := by
    cbv
  rcases compileExpr_recased (.default Like.library .standard) (.ofNames ["Sn"]) hsame with ⟨e, hf, hg⟩ | ⟨fault, hf, -⟩
  · obtain rfl := Except.ok.inj (hf.symm.trans hleft)
    exact ⟨hsame, hleft, hg⟩
  · cases hleft.symm.trans hf

/-- a capital sigma before the operator is the last letter of its word, so the property is named with a final sigma -/
example :
    compileExpr (.default Like.library .standard) (.ofNames ["Sn"]) "(ΟΔΟΣ=A)" = .error ⟨.unknownProperty "οδος", "(ΟΔΟΣ=A)"⟩ ∧
    compileExpr (.default Like.library .standard) (.ofNames ["Sn"]) "(οδος=a)" = .error ⟨.unknownProperty "οδος", "(οδος=a)"⟩ := by
  constructor
  · cbv
  · cbv

end SearchFilter
