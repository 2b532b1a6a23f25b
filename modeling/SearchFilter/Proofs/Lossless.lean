/-
Extraction loses nothing.

A tile is written as its markers, its property in lower case, its operator, its literal and its closing parentheses.
Extraction and writing meet at the tiles that can be written over a schema (`Tile.Writable`):
- `Tile.extracted_of_resolves`: what a run of the text is resolved to can be written, and is written as that run.
- `Tile.exists_run`: a tile that can be written, and whose property has a name, is what its own text is resolved to.
- `extract_eq_ok_iff_text`: a filter is extracted to a row of tiles exactly when that row is written as its lower-case form.
- `extract_lossless`: extracting and writing undo each other. A property without a name is the only exception: it can be
  canonical, but no tile is read for it.
-/
import Mathlib
import SearchFilter.Proofs.WellFormed

namespace SearchFilter

open SearchFilter.Text (isWord IsLower)

/-! ## Characters of a tile -/

theorem isLower_of_isValueChar {c : Char} (h : Tile.isValueChar c = true) : IsLower c :=
  of_isValueChar (by decide +kernel) h

/-- the characters of parentheses, groups and operators -/
def tileSigns : List Char := ['(', ')', '&', '|', '!', '~', '<', '>', '=']

theorem isLower_of_mem_tileSigns {c : Char} (h : c ∈ tileSigns) : IsLower c := by
  have hall : tileSigns.all (fun c => decide (IsLower c)) = true := by decide +kernel
  exact of_decide_eq_true (List.all_eq_true.1 hall c h)

/-- nothing in a run but its property can be lowered -/
theorem Run.isLower_text {r : Run Atom} (h : r.leaf.Legal) (hproperty : ∀ c ∈ r.leaf.property, IsLower c) :
    ∀ c ∈ r.text, IsLower c := by
  have hmarkers : ∀ c ∈ Connective.markers r.opens, c ∈ tileSigns := by
    intro c hc
    obtain ⟨x, -, hx⟩ := List.mem_flatMap.1 hc
    rcases List.mem_pair.1 hx with rfl | rfl
    · simp [tileSigns]
    · cases x <;> simp [Connective.symbol, tileSigns]
  have hoperator : ∀ c ∈ r.leaf.operator.symbol.toList, c ∈ tileSigns := by
    cases r.leaf.operator <;> simp [Operator.symbol, tileSigns]
  have hclosing : IsLower ')' := isLower_of_mem_tileSigns (by simp [tileSigns])
  intro c hc
  simp only [Run.text, Atom.text, List.mem_append, List.mem_cons, List.not_mem_nil, or_false, List.mem_replicate] at hc
  rcases hc with hc | (rfl | hc | hc | hc | rfl) | ⟨-, rfl⟩
  · exact isLower_of_mem_tileSigns (hmarkers c hc)
  · exact isLower_of_mem_tileSigns (by simp [tileSigns])
  · exact hproperty c hc
  · exact isLower_of_mem_tileSigns (hoperator c hc)
  · exact isLower_of_isValueChar (h.value_chars c hc)
  · exact hclosing
  · exact hclosing

/-! ## Tiles as they are written -/

namespace Tile

/-- a tile as it is written, its property in lower case -/
def text (t : Tile) : String :=
  t.markers ++ "(" ++ Text.lowercase t.comparison.property ++ t.comparison.operator.symbol ++ t.comparison.value ++ ")" ++
    String.ofList (List.replicate t.closing ')')

/-- A tile that can be written over a schema: its markers open groups, its property is a canonical name whose lower-case
form is made of word characters and colons, its literal is one. -/
structure Writable (schema : Schema) (t : Tile) : Prop where
  markers : ∃ cs, t.markers = String.ofList (Connective.markers cs)
  canonical : t.comparison.property ∈ schema.names
  property : ∀ c ∈ (Text.lowercase t.comparison.property).toList, isWord c = true ∨ c = ':'
  literal : IsLiteral t.comparison.value

/-- the classes of characters as they are run -/
theorem writable_of_all {schema : Schema} {t : Tile} (cs : List Connective)
    (hmarkers : t.markers = String.ofList (Connective.markers cs)) (hcanonical : t.comparison.property ∈ schema.names)
    (hproperty : (Text.lowercase t.comparison.property).toList.all isPropertyChar = true) (hne : t.comparison.value ≠ "")
    (hvalue : t.comparison.value.toList.all isValueChar = true) : t.Writable schema where
  markers := ⟨cs, hmarkers⟩
  canonical := hcanonical
  property c hc := (isPropertyChar_iff c).1 (List.all_eq_true.1 hproperty c hc)
  literal := ⟨hne, fun c hc => (isValueChar_iff c).1 (List.all_eq_true.1 hvalue c hc)⟩

/-- with the negation extraction guesses: the tile's own markers hold a `!` -/
def guessed (t : Tile) : Tile := t.setNegated (t.markers.toList.contains '!')

/-- a tile as extraction makes it -/
structure Extracted (schema : Schema) (t : Tile) : Prop where
  writable : t.Writable schema
  named : t.comparison.property ≠ ""
  negation : t.guessed = t

theorem text_eq {t : Tile} {r : Run Atom} (hmarkers : t.markers = String.ofList (Connective.markers r.opens))
    (hproperty : Text.lower t.comparison.property.toList = r.leaf.property)
    (hoperator : t.comparison.operator = r.leaf.operator) (hvalue : t.comparison.value = String.ofList r.leaf.literal)
    (hclosing : t.closing = r.closes) : t.text = String.ofList r.text := by
  rw [← String.toList_inj, text, hmarkers, Text.lowercase, hproperty, hoperator, hvalue, hclosing]
  simp [Run.text, Atom.text]

variable {names : List String}

/-- **From the text to a tile.** What a lower-case run is resolved to can be written, its property has a name, its negation
is the one guessed, and it is written as that run. -/
theorem extracted_of_resolves {r : Run Atom} {t : Tile} (hlegal : r.leaf.Legal)
    (hlower : ∀ c ∈ r.leaf.property, IsLower c) (h : r.Resolves (.ofNames names) t) :
    t.Extracted (.ofNames names) ∧ t.text = String.ofList r.text := by
  obtain ⟨field, hfield, rfl⟩ := resolves_iff.1 h
  -- the canonical name is spelled like the property once both are lowered, and the property is in lower case already
  have hname : Text.lower field.toList = r.leaf.property := by
    have hlast := Schema.resolve_ofNames names (String.ofList r.leaf.property)
    rw [hfield] at hlast
    have hsame := of_decide_eq_true (List.mem_filter.1 (List.mem_of_getLast? hlast.symm)).2
    rwa [Text.lowercase, Text.lowercase, String.toList_ofList, String.ofList_inj, Text.lower_eq_self hlower] at hsame
  refine ⟨⟨⟨⟨r.opens, rfl⟩, Schema.mem_names_of_resolve hfield, ?_, ?_, ?_⟩, ?_, ?_⟩, ?_⟩
  · intro c hc
    rw [Text.lowercase, String.toList_ofList, hname] at hc
    exact hlegal.property c hc
  · simpa using hlegal.valued
  · intro c hc
    rw [String.toList_ofList] at hc
    exact hlegal.literal c hc
  · rintro rfl
    exact hlegal.named hname.symm
  · simp [guessed, setNegated]
  · exact text_eq rfl hname rfl rfl rfl

/-- **From a tile to the text.** A tile that can be written, and whose property has a name, is what the run it is written
as is resolved to. -/
theorem exists_run {t : Tile} (h : t.Writable (.ofNames names)) (hne : t.comparison.property ≠ "") :
    ∃ r : Run Atom, r.leaf.Legal ∧ (∀ c ∈ r.leaf.property, IsLower c) ∧ r.Resolves (.ofNames names) t.guessed ∧
      t.text = String.ofList r.text := by
  obtain ⟨cs, hmarkers⟩ := h.markers
  set property := Text.lower t.comparison.property.toList with hproperty
  have hnamed : property ≠ [] := by
    rw [hproperty]
    obtain ⟨c, s, hs⟩ := List.exists_cons_of_ne_nil (mt String.toList_eq_nil_iff.1 hne)
    rw [hs, Text.lower, Text.lowerFrom_cons]
    simp [Text.lowerAt_ne_nil]
  have hvalued : t.comparison.value.toList ≠ [] := mt String.toList_eq_nil_iff.1 h.literal.nonempty
  have hlegal : Atom.Legal ⟨property, t.comparison.operator, t.comparison.value.toList⟩ := by
    refine ⟨hnamed, fun c hc => h.property c ?_, hvalued, h.literal.chars⟩
    rwa [Text.lowercase, String.toList_ofList]
  have hresolve : (Schema.ofNames names).resolve (String.ofList property) = some t.comparison.property := by
    rw [← Schema.mem_names_ofNames.1 h.canonical, Schema.resolve, Schema.resolve, Text.lowercase, Text.lowercase,
      String.toList_ofList, hproperty, Text.lower_lower]
  refine ⟨⟨cs, ⟨property, t.comparison.operator, t.comparison.value.toList⟩, t.closing⟩, hlegal,
    fun c => Text.isLower_of_mem_lower, ?_, ?_⟩
  · refine resolves_iff.2 ⟨t.comparison.property, hresolve, ?_⟩
    simp [guessed, setNegated, hmarkers]
  · exact text_eq hmarkers rfl rfl (by simp) rfl

end Tile

/-! ## Rows -/

theorem join_texts {rs : List (Run Atom)} {tiles : List Tile}
    (h : List.Forall₂ (fun r t => t.text = String.ofList r.text) rs tiles) :
    String.join (tiles.map Tile.text) = String.ofList (rs.flatMap Run.text) := by
  induction h with
  | nil => rfl
  | cons hr _ ih => simp [ih, hr]

variable {names : List String}

/-- the runs that the tiles of a row are written as -/
theorem exists_runs {tiles : List Tile} (h : ∀ t ∈ tiles, t.Extracted (.ofNames names)) :
    ∃ rs : List (Run Atom), (∀ r ∈ rs, r.leaf.Legal) ∧
      List.Forall₂ (fun r t => r.Resolves (.ofNames names) t ∧ t.text = String.ofList r.text) rs tiles := by
  induction tiles with
  | nil => exact ⟨[], by simp, .nil⟩
  | cons t tiles ih =>
    obtain ⟨ht, htiles⟩ := List.forall_mem_cons.1 h
    obtain ⟨r, hlegal, -, hresolves, htext⟩ := Tile.exists_run ht.writable ht.named
    obtain ⟨rs, hrs, hall⟩ := ih htiles
    rw [ht.negation] at hresolves
    exact ⟨r :: rs, List.forall_mem_cons.2 ⟨hlegal, hrs⟩, .cons ⟨hresolves, htext⟩ hall⟩

/-- **Extraction by writing.** A filter is extracted to a row of tiles exactly when the row is not empty, each tile of it
can be written and stands for a named property with the negation guessed, and all of it is written as the lower-case form of
the filter. -/
theorem extract_eq_ok_iff_text {filter : String} {tiles : List Tile} : extract (.ofNames names) filter = .ok tiles ↔
    tiles ≠ [] ∧ (∀ t ∈ tiles, t.Extracted (.ofNames names)) ∧
      String.join (tiles.map Tile.text) = Text.lowercase filter := by
  rw [extract_eq_ok]
  constructor
  · rintro ⟨rs, hne, hlegal, htext, hall⟩
    have hlower : ∀ r ∈ rs, ∀ c ∈ r.leaf.property, IsLower c := by
      intro r hr c hc
      have hmem : c ∈ rs.flatMap Run.text := List.mem_flatMap.2 ⟨r, hr, by simp [Run.text, Atom.text, hc]⟩
      rw [htext] at hmem
      exact Text.isLower_of_mem_lower hmem
    have hextracted : List.Forall₂ (fun r t => t.Extracted (.ofNames names) ∧ t.text = String.ofList r.text) rs tiles := by
      refine List.forall₂_iff_get.2 ⟨hall.length_eq, fun i h1 h2 => ?_⟩
      have hmem := List.get_mem rs ⟨i, h1⟩
      exact Tile.extracted_of_resolves (hlegal _ hmem) (hlower _ hmem) (hall.get h1 h2)
    refine ⟨?_, ?_, ?_⟩
    · rintro rfl
      exact hne (List.forall₂_nil_right_iff.1 hall)
    · intro t ht
      obtain ⟨i, hi, rfl⟩ := List.getElem_of_mem ht
      exact (hextracted.get (hall.length_eq ▸ hi) hi).1
    · rw [join_texts (hextracted.imp fun _ _ h => h.2), htext, Text.lowercase]
  · rintro ⟨hne, hextracted, htext⟩
    obtain ⟨rs, hlegal, hall⟩ := exists_runs hextracted
    refine ⟨rs, ?_, hlegal, ?_, hall.imp fun _ _ h => h.1⟩
    · rintro rfl
      exact hne (List.forall₂_nil_left_iff.1 hall)
    · rw [join_texts (hall.imp fun _ _ h => h.2)] at htext
      exact String.ofList_inj.1 htext

/-- a row that can be written is its own lower-case form -/
theorem lowercase_join_texts {tiles : List Tile}
    (h : ∀ t ∈ tiles, t.Writable (.ofNames names) ∧ t.comparison.property ≠ "") :
    Text.lowercase (String.join (tiles.map Tile.text)) = String.join (tiles.map Tile.text) := by
  have hlower : ∀ c ∈ (String.join (tiles.map Tile.text)).toList, IsLower c := by
    intro c hc
    rw [String.toList_join, List.flatMap_map] at hc
    obtain ⟨t, ht, hc⟩ := List.mem_flatMap.1 hc
    obtain ⟨r, hlegal, hproperty, -, hr⟩ := Tile.exists_run (h t ht).1 (h t ht).2
    rw [hr, String.toList_ofList] at hc
    exact r.isLower_text hlegal hproperty c hc
  rw [Text.lowercase, Text.lower_eq_self hlower, String.ofList_toList]

/-- **Lossless.** Over every schema:
- what is extracted from a filter is written as the filter's lower-case form;
- a row of tiles that can be written is extracted from its own text, tile by tile and with the negations guessed, exactly
  when every property in it has a name. -/
theorem extract_lossless (names : List String) :
    (∀ filter tiles, extract (.ofNames names) filter = .ok tiles →
      String.join (tiles.map Tile.text) = Text.lowercase filter) ∧
    ∀ tiles : List Tile, tiles ≠ [] → (∀ t ∈ tiles, t.Writable (.ofNames names)) →
      (extract (.ofNames names) (String.join (tiles.map Tile.text)) = .ok (tiles.map Tile.guessed) ↔
        ∀ t ∈ tiles, t.comparison.property ≠ "") := by
  refine ⟨fun filter tiles h => (extract_eq_ok_iff_text.1 h).2.2, fun tiles hne hwritable => ?_⟩
  have htexts : (tiles.map Tile.guessed).map Tile.text = tiles.map Tile.text := by
    rw [List.map_map]
    rfl
  rw [extract_eq_ok_iff_text, htexts, List.forall_mem_map]
  constructor
  · rintro ⟨-, hextracted, -⟩ t ht
    exact (hextracted t ht).named
  · intro hnamed
    have hextracted : ∀ t ∈ tiles, t.guessed.Extracted (.ofNames names) := by
      intro t ht
      obtain ⟨h1, h2, h3, h4⟩ := hwritable t ht
      exact ⟨⟨h1, h2, h3, h4⟩, hnamed t ht, rfl⟩
    have htext := lowercase_join_texts fun t ht => ⟨hwritable t ht, hnamed t ht⟩
    exact ⟨by simpa using hne, hextracted, htext.symm⟩

/-- a canonical name that ends in a capital sigma is written with a final one, and read back from there -/
theorem extract_lossless_sigma :
    extract (.ofNames ["Sn", "ΟΔΟΣ"]) "(&(οδος=a*)(!(sn~=doe)))" =
      .ok [⟨"(&", 0, ⟨"ΟΔΟΣ", .equal, "a*", false⟩⟩, ⟨"(!", 2, ⟨"Sn", .approximate, "doe", true⟩⟩] ∧
    String.join ([⟨"(&", 0, ⟨"ΟΔΟΣ", .equal, "a*", false⟩⟩, ⟨"(!", 2, ⟨"Sn", .approximate, "doe", true⟩⟩].map Tile.text) =
      Text.lowercase "(&(οδος=a*)(!(sn~=doe)))" := by
  have hfirst : Tile.Writable (.ofNames ["Sn", "ΟΔΟΣ"]) ⟨"(&", 0, ⟨"ΟΔΟΣ", .equal, "a*", false⟩⟩ :=
    Tile.writable_of_all [.and] rfl (Schema.mem_names_ofNames.2 (by decide +kernel)) (by decide +kernel) (by decide)
      (by decide +kernel)
  have hsecond : Tile.Writable (.ofNames ["Sn", "ΟΔΟΣ"]) ⟨"(!", 2, ⟨"Sn", .approximate, "doe", true⟩⟩ :=
    Tile.writable_of_all [.not] rfl (Schema.mem_names_ofNames.2 (by decide +kernel)) (by decide +kernel) (by decide)
      (by decide +kernel)
  obtain ⟨hwrite, hread⟩ := extract_lossless ["Sn", "ΟΔΟΣ"]
  have htext : String.join ([⟨"(&", 0, ⟨"ΟΔΟΣ", .equal, "a*", false⟩⟩, ⟨"(!", 2, ⟨"Sn", .approximate, "doe", true⟩⟩].map
      Tile.text) = "(&(οδος=a*)(!(sn~=doe)))" := by decide +kernel
  have h := (hread [⟨"(&", 0, ⟨"ΟΔΟΣ", .equal, "a*", false⟩⟩, ⟨"(!", 2, ⟨"Sn", .approximate, "doe", true⟩⟩] (by simp)
    (by simp [hfirst, hsecond])).2 (by simp)
  rw [htext] at h
  exact ⟨h, hwrite _ _ h⟩

/-- a schema may hold the name that is the empty text, but no tile is read for it -/
theorem extract_lossless_nameless :
    ¬ ∀ (names : List String) (tiles : List Tile), tiles ≠ [] → (∀ t ∈ tiles, t.Writable (.ofNames names)) →
      extract (.ofNames names) (String.join (tiles.map Tile.text)) = .ok (tiles.map Tile.guessed) := by
  intro h
  have hwritable : Tile.Writable (.ofNames [""]) ⟨"", 0, ⟨"", .equal, "x", false⟩⟩ :=
    Tile.writable_of_all [] rfl (Schema.mem_names_ofNames.2 (by decide +kernel)) (by decide +kernel) (by decide)
      (by decide +kernel)
  have hok := h [""] [⟨"", 0, ⟨"", .equal, "x", false⟩⟩] (by simp) (by simpa using hwritable)
  have htext : String.join ([⟨"", 0, ⟨"", .equal, "x", false⟩⟩].map Tile.text) = "(=x)" := by cbv
  have hfault : extract (.ofNames [""]) "(=x)" = .error ⟨.malformed, "(=x)"⟩ := by cbv
  rw [htext, hfault] at hok
  cases hok

end SearchFilter
