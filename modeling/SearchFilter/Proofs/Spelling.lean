/-
Spellings of a key, in the schema and in the records.

A schema keeps one spelling for all names equal in lower case; a record is then asked for that spelling, and looks it up
exactly or ignoring the case of `a`-`z`.
- `Schema.resolve_ofNames`: of the names equal in lower case the last one counts.
- `Schema.mem_names_ofNames`: the canonical names are those that resolve to themselves.
- `sortedNames_strict`: the schema of records is made from their names in order, each once.
- `canonical_of_resolve`, `resolve_schemaFor`: over records, the last spelling is the greatest of any record or extra name.
- `Json.Members.record_spelling`: what a record whose keys differ in lower case answers to another spelling of a key.
- `record_canonical_iff`: the exact condition under which a record is read through the schema as by its own key.
-/
import Mathlib
import SearchFilter.Proofs.LowerCase
import SearchFilter.Record.Json

namespace SearchFilter

open SearchFilter.Json (Value Members)

/-! ## The schema's spelling -/

namespace Schema

theorem lookup_put (fields : List (String × String)) (key name k : String) :
    (put fields key name).lookup k = if k = key then some name else fields.lookup k := by
  induction fields with
  | nil =>
    rw [put, List.lookup_cons]
    by_cases hk : k = key
    · rw [if_pos hk, beq_iff_eq.2 hk]
    · rw [if_neg hk, beq_false_of_ne hk]
  | cons x rest ih =>
    obtain ⟨k', n⟩ := x
    rw [put]
    by_cases hkey : k' = key
    · rw [if_pos hkey, List.lookup_cons, List.lookup_cons, hkey]
      by_cases hk : k = key
      · rw [if_pos hk, beq_iff_eq.2 hk]
      · rw [if_neg hk, beq_false_of_ne hk]
    · rw [if_neg hkey, List.lookup_cons, List.lookup_cons, ih]
      by_cases hk : k = k'
      · have hne : k ≠ key := hk ▸ hkey
        simp only [beq_iff_eq.2 hk, if_neg hne]
      · rw [beq_false_of_ne hk]

/-- of several spellings the last one counts -/
theorem resolve_ofNames (names : List String) (property : String) : (ofNames names).resolve property =
    (names.filter fun name => Text.lowercase name = Text.lowercase property).getLast? := by
  induction names using List.reverseRecOn with
  | nil => rfl
  | append_singleton names name ih =>
    rw [resolve, ofNames] at ih ⊢
    rw [List.foldl_concat, lookup_put, ih, List.filter_append]
    by_cases hname : Text.lowercase name = Text.lowercase property
    · simp [hname]
    · simp [hname, Ne.symm hname]

theorem mem_names_of_resolve {schema : Schema} {property field : String} (h : schema.resolve property = some field) :
    field ∈ schema.names := by
  obtain ⟨before, after, hfields, -⟩ := List.lookup_eq_some_iff.1 h
  rw [names, List.mem_mergeSort, hfields]
  simp

theorem mem_put {fields : List (String × String)} {key name : String} {x : String × String} (h : x ∈ put fields key name) :
    x = (key, name) ∨ x ∈ fields := by
  fun_induction put fields key name with
  | case1 => exact Or.inl (List.mem_singleton.1 h)
  | case2 n rest =>
    rcases List.mem_cons.1 h with h | h
    · exact Or.inl h
    · exact Or.inr (List.mem_cons_of_mem _ h)
  | case3 k n rest hne ih =>
    rcases List.mem_cons.1 h with h | h
    · exact Or.inr (h ▸ List.mem_cons_self)
    · exact (ih h).imp_right (List.mem_cons_of_mem _)

theorem nodup_put {fields : List (String × String)} (key name : String) (h : (fields.map Prod.fst).Nodup) :
    ((put fields key name).map Prod.fst).Nodup := by
  fun_induction put fields key name with
  | case1 => exact List.nodup_singleton key
  | case2 n rest => exact h
  | case3 k n rest hne ih =>
    rw [List.map_cons, List.nodup_cons] at h ⊢
    refine ⟨fun hmem => ?_, ih h.2⟩
    obtain ⟨x, hx, hk⟩ := List.mem_map.1 hmem
    rcases mem_put hx with rfl | hx
    · exact hne hk.symm
    · exact h.1 (List.mem_map.2 ⟨x, hx, hk⟩)

/-- every name lies under its own lower-case form, and nothing else does -/
structure Keyed (fields : List (String × String)) : Prop where
  nodup : (fields.map Prod.fst).Nodup
  key : ∀ x ∈ fields, x.1 = Text.lowercase x.2

theorem keyed_ofNames (names : List String) : Keyed (ofNames names).fields := by
  induction names using List.reverseRecOn with
  | nil => exact ⟨List.nodup_nil, by simp [ofNames]⟩
  | append_singleton names name ih =>
    rw [ofNames] at ih ⊢
    rw [List.foldl_concat]
    refine ⟨nodup_put _ _ ih.nodup, fun x hx => ?_⟩
    rcases mem_put hx with rfl | hx
    · rfl
    · exact ih.key x hx

/-- the canonical names are the names that resolve to themselves -/
theorem mem_names_ofNames {names : List String} {name : String} :
    name ∈ (ofNames names).names ↔ (ofNames names).resolve name = some name := by
  refine ⟨fun h => ?_, mem_names_of_resolve⟩
  rw [Schema.names, List.mem_mergeSort] at h
  obtain ⟨⟨key, field⟩, hx, rfl⟩ := List.mem_map.1 h
  have hkeyed := keyed_ofNames names
  obtain rfl : key = Text.lowercase field := hkeyed.key _ hx
  obtain ⟨before, after, hfields⟩ := List.append_of_mem hx
  have hnodup := hkeyed.nodup
  rw [hfields, List.map_append, List.map_cons] at hnodup
  refine List.lookup_eq_some_iff.2 ⟨before, after, hfields, fun x hx => ?_⟩
  rw [bne_iff_ne]
  rintro heq
  exact (List.nodup_append.1 hnodup).2.2 _ (List.mem_map_of_mem hx) _ List.mem_cons_self heq.symm

end Schema

/-! ## Sorting and deduplication -/

theorem mem_dedup {names : List String} {name : String} : name ∈ dedup names ↔ name ∈ names := by
  fun_induction dedup names with
  | case1 b rest ih => simp [ih]
  | case2 a b rest hne ih => simp [ih]
  | case3 s => rfl

/-- in a sorted list equal names are neighbours, so that none is left twice -/
theorem dedup_strict {names : List String} (h : names.Pairwise (· ≤ ·)) : (dedup names).Pairwise (· < ·) := by
  fun_induction dedup names with
  | case1 b rest ih => exact ih (List.pairwise_cons.1 h).2
  | case2 a b rest hne ih =>
    obtain ⟨hleast, hrest⟩ := List.pairwise_cons.1 h
    apply List.pairwise_cons.2 ⟨?_, ih hrest⟩
    intro name hname
    have hb : b ≤ name := by
      rcases List.mem_cons.1 (mem_dedup.1 hname) with rfl | hname
      · exact String.le_refl name
      · exact (List.pairwise_cons.1 hrest).1 name hname
    exact lt_of_lt_of_le (lt_of_le_of_ne (hleast b List.mem_cons_self) hne) hb
  | case3 s hshort =>
    rcases s with - | ⟨a, - | ⟨b, rest⟩⟩
    · exact List.Pairwise.nil
    · exact List.pairwise_singleton _ a
    · exact (hshort a b rest rfl).elim

def sortedNames (names : List String) : List String := dedup (names.mergeSort fun a b => !decide (b < a))

theorem mem_sortedNames {names : List String} {name : String} : name ∈ sortedNames names ↔ name ∈ names := by
  rw [sortedNames, mem_dedup, List.mem_mergeSort]

theorem sortedNames_strict (names : List String) : (sortedNames names).Pairwise (· < ·) := by
  have htrans : ∀ a b c : String, (!decide (b < a)) = true → (!decide (c < b)) = true → (!decide (c < a)) = true := by
    intro a b c hab hbc
    simp only [Bool.not_eq_true', decide_eq_false_iff_not, String.not_lt] at hab hbc ⊢
    exact String.le_trans hab hbc
  have htotal : ∀ a b : String, ((!decide (b < a)) || !decide (a < b)) = true := by
    intro a b
    simp only [Bool.or_eq_true, Bool.not_eq_true', decide_eq_false_iff_not, String.not_lt]
    exact String.le_total a b
  apply dedup_strict
  refine (List.pairwise_mergeSort htrans htotal names).imp fun {a b} h => ?_
  simpa only [Bool.not_eq_true', decide_eq_false_iff_not, String.not_lt] using h

/-! ## The spelling over records -/

/-- every name the schema of the records is made of -/
def namesOf (records : List Members) (extra : List String) : List String :=
  records.flatMap (fun ms => ms.map Prod.fst) ++ extra

/-- `c` is the greatest of the names equal to `k` in lower case -/
structure Canonical (names : List String) (k c : String) : Prop where
  mem : c ∈ names
  same : Text.lowercase c = Text.lowercase k
  greatest : ∀ name ∈ names, Text.lowercase name = Text.lowercase k → name ≤ c

theorem getLast_greatest {names : List String} {c : String} (hsorted : names.Pairwise (· ≤ ·))
    (hlast : names.getLast? = some c) : ∀ name ∈ names, name ≤ c := by
  obtain ⟨before, rfl⟩ := List.getLast?_eq_some_iff.1 hlast
  intro name hname
  rcases List.mem_append.1 hname with hname | hname
  · exact (List.pairwise_append.1 hsorted).2.2 name hname c (List.mem_singleton.2 rfl)
  · exact List.mem_singleton.1 hname ▸ String.le_refl _

theorem schemaFor_eq (records : List Members) (extra : List String) :
    schemaFor records extra = .ofNames (sortedNames (namesOf records extra)) := rfl

/-- what a property resolves to is the greatest spelling of it -/
theorem canonical_of_resolve {records : List Members} {extra : List String} {k c : String}
    (h : (schemaFor records extra).resolve k = some c) : Canonical (namesOf records extra) k c := by
  rw [schemaFor_eq, Schema.resolve_ofNames] at h
  obtain ⟨hmem, hsame⟩ := List.mem_filter.1 (List.mem_of_getLast? h)
  have hsorted : (sortedNames (namesOf records extra)).Pairwise (· ≤ ·) := (sortedNames_strict _).imp le_of_lt
  refine ⟨mem_sortedNames.1 hmem, of_decide_eq_true hsame, fun name hname hequal => ?_⟩
  apply getLast_greatest (hsorted.filter _) h name
  exact List.mem_filter.2 ⟨mem_sortedNames.2 hname, decide_eq_true hequal⟩

theorem resolve_schemaFor_eq_none {records : List Members} {extra : List String} {k : String} :
    (schemaFor records extra).resolve k = none ↔
      ∀ name ∈ namesOf records extra, Text.lowercase name ≠ Text.lowercase k := by
  rw [schemaFor_eq, Schema.resolve_ofNames, List.getLast?_eq_none_iff, List.filter_eq_nil_iff]
  simp [mem_sortedNames]

/-- over records, the schema keeps the greatest spelling -/
theorem resolve_schemaFor (records : List Members) (extra : List String) {k : String} (hk : k ∈ namesOf records extra) :
    ∃ c, (schemaFor records extra).resolve k = some c ∧ Canonical (namesOf records extra) k c := by
  cases hresolve : (schemaFor records extra).resolve k with
  | none => exact absurd rfl (resolve_schemaFor_eq_none.1 hresolve k hk)
  | some c => exact ⟨c, rfl, canonical_of_resolve hresolve⟩

/-! ## The record's answer -/

theorem Json.Value.field_eq_none {v : Value} : v.field = none ↔ v = .null := by
  cases v <;> simp [Value.field]

/-- in a record whose keys differ in lower case, a key's lower-case form tells the member -/
theorem eq_of_lowercase_eq {ms : Members} (hkeys : (ms.map fun m => Text.lowercase m.1).Nodup) {m m' : String × Value}
    (hm : m ∈ ms) (hm' : m' ∈ ms) (h : Text.lowercase m.1 = Text.lowercase m'.1) : m = m' :=
  List.inj_on_of_nodup_map hkeys hm hm' h

theorem Text.eqIgnoreAsciiCase_refl (s : String) : eqIgnoreAsciiCase s s = true := beq_self_eq_true _

/-- **Another spelling.** A record whose keys differ in lower case, asked for another spelling of one of its keys, gives
the value of that key if the spellings differ in the case of `a`-`z` only, and nothing otherwise. -/
theorem Json.Members.record_spelling {ms : Members} (hkeys : (ms.map fun m => Text.lowercase m.1).Nodup) {k c : String}
    {v : Value} (hk : (k, v) ∈ ms) (hsame : Text.lowercase c = Text.lowercase k) :
    ms.record c = if Text.eqIgnoreAsciiCase k c then v.field else none := by
  have hmember : ∀ m ∈ ms, Text.lowercase m.1 = Text.lowercase c → m = (k, v) := fun m hm h =>
    eq_of_lowercase_eq hkeys hm hk (h.trans hsame)
  rw [record, find?]
  cases hlookup : ms.lookup c with
  | some w =>
    -- the exact key is the only one with its lower-case form
    obtain ⟨before, beyond, hms, -⟩ := List.lookup_eq_some_iff.1 hlookup
    have hmem : (c, w) ∈ ms := by rw [hms]; exact List.mem_append_right _ List.mem_cons_self
    obtain ⟨rfl, rfl⟩ := Prod.mk.inj (hmember (c, w) hmem rfl)
    rw [if_pos (Text.eqIgnoreAsciiCase_refl c)]
    rfl
  | none =>
    cases hfind : List.find? (fun m => Text.eqIgnoreAsciiCase m.1 c) ms with
    | some m =>
      have hcase := List.find?_some hfind
      obtain rfl := hmember m (List.mem_of_find?_eq_some hfind) (Text.lowercase_eq_of_eqIgnoreAsciiCase hcase)
      rw [if_pos hcase]
      rfl
    | none =>
      rw [if_neg (List.find?_eq_none.1 hfind (k, v) hk)]
      rfl

/-- **Read through the schema.** Let the keys of a record differ in lower case. Every key of it resolves to the greatest
spelling of that key in any record or among the extra names, and the record gives its own value at that spelling exactly
when the two spellings differ in the case of `a`-`z` only, or the value is null. Otherwise it reads as null. -/
theorem record_canonical_iff (records : List Members) (extra : List String) {ms : Members} (hms : ms ∈ records)
    (hkeys : (ms.map fun m => Text.lowercase m.1).Nodup) {k : String} {v : Value} (hk : (k, v) ∈ ms) :
    ∃ c, (schemaFor records extra).resolve k = some c ∧ Canonical (namesOf records extra) k c ∧
      ms.record c = (if Text.eqIgnoreAsciiCase k c then v.field else none) ∧
      (ms.record c = v.field ↔ Text.eqIgnoreAsciiCase k c = true ∨ v = .null) := by
  have hname : k ∈ namesOf records extra := by
    refine List.mem_append_left _ (List.mem_flatMap.2 ⟨ms, hms, ?_⟩)
    exact List.mem_map.2 ⟨(k, v), hk, rfl⟩
  obtain ⟨c, hresolve, hcanonical⟩ := resolve_schemaFor records extra hname
  have hrecord := Json.Members.record_spelling hkeys hk hcanonical.same
  refine ⟨c, hresolve, hcanonical, hrecord, ?_⟩
  rw [hrecord]
  by_cases hcase : Text.eqIgnoreAsciiCase k c = true
  · rw [if_pos hcase]
    exact ⟨fun _ => Or.inl hcase, fun _ => rfl⟩
  · rw [if_neg hcase, eq_comm, Json.Value.field_eq_none]
    exact ⟨Or.inr, fun h => h.resolve_left hcase⟩

/-- three spellings, all read through the greatest -/
theorem record_canonical_ascii :
    (schemaFor [[("Sn", .string "doe")], [("sn", .string "doe")], [("SN", .string "roe")]] []).resolve "SN" = some "sn" ∧
      Json.Members.record [("SN", .string "roe")] "sn" = some "roe" := by
  obtain ⟨c, hc, -, -, hiff⟩ := record_canonical_iff
    [[("Sn", .string "doe")], [("sn", .string "doe")], [("SN", .string "roe")]] []
    (List.mem_cons_of_mem _ (List.mem_cons_of_mem _ List.mem_cons_self)) (List.nodup_singleton _) List.mem_cons_self
  have hresolve : (schemaFor [[("Sn", .string "doe")], [("sn", .string "doe")], [("SN", .string "roe")]] []).resolve "SN" =
      some "sn" := by cbv
  obtain rfl := Option.some.inj (hresolve.symm.trans hc)
  exact ⟨hresolve, hiff.2 (Or.inl (by decide))⟩

/-- spellings that differ in the case of another letter: the first record loses its value -/
theorem record_canonical_accented :
    ¬ ∀ (records : List Members) (extra : List String), ∀ ms ∈ records,
      (ms.map fun m => Text.lowercase m.1).Nodup → ∀ k v, (k, v) ∈ ms →
        ∃ c, (schemaFor records extra).resolve k = some c ∧ ms.record c = v.field := by
  intro h
  obtain ⟨c, hc, hrecord⟩ := h [[("É", .string "x")], [("é", .string "x")]] [] _ List.mem_cons_self
    (List.nodup_singleton _) "É" (.string "x") List.mem_cons_self
  have hresolve : (schemaFor [[("É", .string "x")], [("é", .string "x")]] []).resolve "É" = some "é" := by
    cbv
  obtain rfl := Option.some.inj (hresolve.symm.trans hc)
  have hnone : Json.Members.record [("É", .string "x")] "é" = none := by cbv
  rw [hnone] at hrecord
  cases hrecord

end SearchFilter
