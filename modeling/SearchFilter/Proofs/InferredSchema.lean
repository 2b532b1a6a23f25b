/-
The schema inferred from records.

A schema keeps the last of several spellings, so the order of its names counts. The schema of records is made from names
that were sorted before, so of the records nothing counts but which names occur: the spelling kept is the greatest one,
in the order of bytes.
- `resolve_schemaFor_eq_some`: what a property resolves to, both ways.
- `Regrouped`: other records and extra names with the same names, by the ways in which names can be moved about.
- `Regrouped.mem_namesOf`: each of these ways keeps the names, and `schemaFor_congr`: the names determine the schema.
- `schemaFor_spelling`: these together, with what is compiled over such schemas.
-/
import Mathlib.Data.List.Perm.Basic
import SearchFilter.Proofs.ByteOrder
import SearchFilter.Proofs.Spelling
import SearchFilter.Filter.Compile
import SearchFilter.Strategy.Library

namespace SearchFilter

open SearchFilter.Json (Value Members)

/-! ## Greatest spellings -/

/-- there is one greatest spelling at most -/
theorem Canonical.unique {names : List String} {k c c' : String} (h : Canonical names k c) (h' : Canonical names k c') :
    c = c' := by
  apply le_antisymm
  · exact h'.greatest c h.mem h.same
  · exact h.greatest c' h'.mem h'.same

theorem resolve_schemaFor_eq_some {records : List Members} {extra : List String} {k c : String} :
    (schemaFor records extra).resolve k = some c ↔ Canonical (namesOf records extra) k c := by
  constructor
  · intro h
    exact canonical_of_resolve h
  · intro h
    cases hresolve : (schemaFor records extra).resolve k with
    | none => exact absurd h.same (resolve_schemaFor_eq_none.1 hresolve c h.mem)
    | some c' => rw [h.unique (canonical_of_resolve hresolve)]

/-- `c` is the byte-wise greatest of the names equal to `k` in lower case -/
structure BytewiseGreatest (names : List String) (k c : String) : Prop where
  mem : c ∈ names
  same : Text.lowercase c = Text.lowercase k
  greatest : ∀ name ∈ names, Text.lowercase name = Text.lowercase k → Text.utf8 name ≤ Text.utf8 c

theorem bytewiseGreatest_iff {names : List String} {k c : String} :
    BytewiseGreatest names k c ↔ Canonical names k c := by
  constructor
  · intro h
    exact ⟨h.mem, h.same, fun name hname hsame => (Text.utf8_le_iff _ _).1 (h.greatest name hname hsame)⟩
  · intro h
    exact ⟨h.mem, h.same, fun name hname hsame => (Text.utf8_le_iff _ _).2 (h.greatest name hname hsame)⟩

/-! ## The same names elsewhere -/

/-- Records with extra names, and other ones that come from moving names about: records and extra names change places or
occur once more, and a member of a record makes room for an extra name. -/
inductive Regrouped : List Members → List String → List Members → List String → Prop
  | records {records records' : List Members} {extra : List String} (h : records.Perm records') :
      Regrouped records extra records' extra
  | extra {records : List Members} {extra extra' : List String} (h : extra.Perm extra') :
      Regrouped records extra records extra'
  | recordAgain {records : List Members} {extra : List String} {ms : Members} (h : ms ∈ records) :
      Regrouped records extra (ms :: records) extra
  | extraAgain {records : List Members} {extra : List String} {name : String} (h : name ∈ extra) :
      Regrouped records extra records (name :: extra)
  | key {records : List Members} {extra : List String} (before : Members) (name : String) (v : Value) (after : Members) :
      Regrouped ((before ++ (name, v) :: after) :: records) extra ((before ++ after) :: records) (name :: extra)
  | symm {records records' : List Members} {extra extra' : List String} (h : Regrouped records extra records' extra') :
      Regrouped records' extra' records extra
  | trans {records records' records'' : List Members} {extra extra' extra'' : List String}
      (h : Regrouped records extra records' extra') (h' : Regrouped records' extra' records'' extra'') :
      Regrouped records extra records'' extra''

theorem mem_namesOf {records : List Members} {extra : List String} {name : String} :
    name ∈ namesOf records extra ↔ (∃ ms ∈ records, name ∈ ms.map Prod.fst) ∨ name ∈ extra := by
  rw [namesOf, List.mem_append, List.mem_flatMap]

/-- moving names about keeps them -/
theorem Regrouped.mem_namesOf {records records' : List Members} {extra extra' : List String}
    (h : Regrouped records extra records' extra') (name : String) :
    name ∈ namesOf records extra ↔ name ∈ namesOf records' extra' := by
  induction h with
  | records h => rw [SearchFilter.mem_namesOf, SearchFilter.mem_namesOf]; simp only [h.mem_iff]
  | extra h => rw [SearchFilter.mem_namesOf, SearchFilter.mem_namesOf, h.mem_iff]
  | recordAgain h =>
    rw [SearchFilter.mem_namesOf, SearchFilter.mem_namesOf, List.exists_mem_cons_iff]
    constructor
    · rintro (hrecord | hextra)
      · exact Or.inl (Or.inr hrecord)
      · exact Or.inr hextra
    · rintro ((hagain | hrecord) | hextra)
      · exact Or.inl ⟨_, h, hagain⟩
      · exact Or.inl hrecord
      · exact Or.inr hextra
  | extraAgain h =>
    rw [SearchFilter.mem_namesOf, SearchFilter.mem_namesOf, List.mem_cons]
    constructor
    · rintro (hrecord | hextra)
      · exact Or.inl hrecord
      · exact Or.inr (Or.inr hextra)
    · rintro (hrecord | rfl | hextra)
      · exact Or.inl hrecord
      · exact Or.inr h
      · exact Or.inr hextra
  | key before key v after =>
    rw [SearchFilter.mem_namesOf, SearchFilter.mem_namesOf, List.exists_mem_cons_iff, List.exists_mem_cons_iff]
    simp only [List.map_append, List.map_cons, List.mem_append, List.mem_cons]
    grind
  | symm h ih => exact ih.symm
  | trans h h' ih ih' => exact ih.trans ih'

/-- the names determine the schema -/
theorem schemaFor_congr {records records' : List Members} {extra extra' : List String}
    (h : ∀ name, name ∈ namesOf records extra ↔ name ∈ namesOf records' extra') :
    schemaFor records extra = schemaFor records' extra' := by
  have hsorted : sortedNames (namesOf records extra) = sortedNames (namesOf records' extra') := by
    apply List.Pairwise.eq_of_mem_iff (sortedNames_strict _) (sortedNames_strict _)
    intro name
    rw [mem_sortedNames, mem_sortedNames, h]
  rw [schemaFor_eq, schemaFor_eq, hsorted]

/-- **Inferred schemas.** A property resolves to the byte-wise greatest spelling of it among the keys of the records and
the extra names, and to nothing when it has none. However names are moved about between records and extra names, the
schema is the same, and so is what a filter compiles to over it. -/
theorem schemaFor_spelling (records : List Members) (extra : List String) :
    (∀ p c, (schemaFor records extra).resolve p = some c ↔ BytewiseGreatest (namesOf records extra) p c) ∧
    (∀ p, (schemaFor records extra).resolve p = none ↔
      ∀ name ∈ namesOf records extra, Text.lowercase name ≠ Text.lowercase p) ∧
    ∀ records' extra', Regrouped records extra records' extra' →
      schemaFor records' extra' = schemaFor records extra ∧
      ∀ o filter, compileExpr o (schemaFor records' extra') filter = compileExpr o (schemaFor records extra) filter := by
  refine ⟨?_, ?_, ?_⟩
  · intro p c
    rw [resolve_schemaFor_eq_some, bytewiseGreatest_iff]
  · intro p
    exact resolve_schemaFor_eq_none
  · intro records' extra' h
    have hschema : schemaFor records' extra' = schemaFor records extra := (schemaFor_congr h.mem_namesOf).symm
    refine ⟨hschema, fun o filter => ?_⟩
    rw [hschema]

/-- a key moved to the extra names, which are listed twice, with the records the other way round -/
theorem schemaFor_spelling_moved :
    Regrouped [[("É", .null)], [("SN", .null), ("é", .null)]] ["sn"] [[("SN", .null)], [("É", .null)]] ["sn", "é", "sn"] ∧
    BytewiseGreatest (namesOf [[("É", .null)], [("SN", .null), ("é", .null)]] ["sn"]) "É" "é" ∧
    (schemaFor [[("SN", .null)], [("É", .null)]] ["sn", "é", "sn"]).resolve "É" = some "é" ∧
    compileExpr (.default Like.library .standard) (schemaFor [[("SN", .null)], [("É", .null)]] ["sn", "é", "sn"]) "(É=*)" =
      compileExpr (.default Like.library .standard) (schemaFor [[("É", .null)], [("SN", .null), ("é", .null)]] ["sn"]) "(É=*)" := by
  have hmoved : Regrouped [[("É", .null)], [("SN", .null), ("é", .null)]] ["sn"]
      [[("SN", .null)], [("É", .null)]] ["sn", "é", "sn"] := by
    apply Regrouped.trans (.records (List.Perm.swap _ _ _))
    apply Regrouped.trans (.key [("SN", .null)] "é" .null [])
    exact .extraAgain (by simp)
  obtain ⟨hresolve, -, hsame⟩ := schemaFor_spelling [[("É", .null)], [("SN", .null), ("é", .null)]] ["sn"]
  obtain ⟨hschema, hcompile⟩ := hsame _ _ hmoved
  have hspelling : (schemaFor [[("É", .null)], [("SN", .null), ("é", .null)]] ["sn"]).resolve "É" = some "é" := by cbv
  refine ⟨hmoved, (hresolve "É" "é").1 hspelling, ?_, hcompile _ _⟩
  rw [hschema, hspelling]

end SearchFilter
