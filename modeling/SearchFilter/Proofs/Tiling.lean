/-
Rows of tiles and the texts they are read from.

A `Run` is a leaf with the groups that open right before it and the number of groups that close right after it. The
text of a row of runs over comparisons is read back as that row and nothing else: no part of a tile can be read in two
ways, since word characters, operators, literals and parentheses start with different characters.
- `read?_text`, `read?_eq_some`: the tile at the start of a text, in both directions.
- `scan_texts`, `scan_eq`: the same for a whole row.
- `extract_eq_ok`: extraction succeeds exactly on the texts of non-empty rows whose properties are known.
-/
import Mathlib.Data.List.TakeWhile
import Mathlib.Tactic
import SearchFilter.Filter.Skeleton

namespace SearchFilter

open SearchFilter.Text (isWord isBlank isDigit isLowerAscii)

/-! ## Comparisons and runs as they are written -/

/-- a comparison as it is written -/
structure Atom where
  property : List Char
  operator : Operator
  literal : List Char
  deriving DecidableEq

/-- a property is made of word characters and colons, a literal of `*`, `a`-`z`, `0`-`9` and white space -/
structure Atom.Legal (a : Atom) : Prop where
  named : a.property ≠ []
  property : ∀ c ∈ a.property, isWord c = true ∨ c = ':'
  valued : a.literal ≠ []
  literal : ∀ c ∈ a.literal, c = '*' ∨ isLowerAscii c = true ∨ isDigit c = true ∨ isBlank c = true

def Atom.text (a : Atom) : List Char := '(' :: (a.property ++ (a.operator.symbol.toList ++ (a.literal ++ [')'])))

/-- a leaf with the groups that open before it and close after it -/
structure Run (α : Type) where
  opens : List Connective
  leaf : α
  closes : ℕ

/-- how the opening of groups is written -/
def Connective.markers (cs : List Connective) : List Char := cs.flatMap fun c => ['(', c.symbol]

namespace Run

def text (r : Run Atom) : List Char := Connective.markers r.opens ++ (r.leaf.text ++ List.replicate r.closes ')')

/-- the run as a tile -/
def raw (r : Run Atom) : Tile.Raw :=
  ⟨Connective.markers r.opens, r.leaf.property, r.leaf.operator, r.leaf.literal, r.closes⟩

end Run

theorem markers_injective : Function.Injective Connective.markers := by
  intro cs ds h
  induction cs generalizing ds with
  | nil =>
    cases ds with
    | nil => rfl
    | cons d ds => simp [Connective.markers] at h
  | cons c cs ih =>
    cases ds with
    | nil => simp [Connective.markers] at h
    | cons d ds =>
      obtain ⟨hc, hcs⟩ : c.symbol = d.symbol ∧ Connective.markers cs = Connective.markers ds := by
        simpa [Connective.markers] using h
      rw [ih hcs, show c = d by cases c <;> cases d <;> simp_all [Connective.symbol]]

theorem raw_injective : Function.Injective Run.raw := by
  rintro ⟨cs, ⟨p, o, v⟩, n⟩ ⟨ds, ⟨q, o', w⟩, m⟩ h
  simp only [Run.raw, Tile.Raw.mk.injEq] at h
  obtain ⟨h1, rfl, rfl, rfl, rfl⟩ := h
  rw [markers_injective h1]

/-! ## Characters -/

theorem isPropertyChar_iff (c : Char) : Tile.isPropertyChar c = true ↔ isWord c = true ∨ c = ':' := by
  simp [Tile.isPropertyChar]

theorem isValueChar_iff (c : Char) : Tile.isValueChar c = true ↔
    c = '*' ∨ isLowerAscii c = true ∨ isDigit c = true ∨ isBlank c = true := by
  simp [Tile.isValueChar, wildcard, or_assoc]

theorem Text.CharSet.exists_of_has {set : CharSet} {n : ℕ} (h : set.has n = true) :
    ∃ r ∈ set, n ∈ List.range' r.1 (r.2 + 1 - r.1) := by
  fun_induction set.has n with
  | case1 => exact absurd h Bool.false_ne_true
  | case2 lo hi rest n hn =>
    have hlo : lo ≤ n := of_decide_eq_true h
    exact ⟨(lo, hi), List.mem_cons_self, List.mem_range'_1.2 ⟨hlo, by simp only; omega⟩⟩
  | case3 lo hi rest n hn ih =>
    obtain ⟨r, hr, hmem⟩ := ih h
    exact ⟨r, List.mem_cons_of_mem _ hr, hmem⟩

/-- the code points of literals: `*`, `a`-`z`, `0`-`9` and white space -/
def valueCodes : List ℕ :=
  42 :: (List.range' 97 26 ++ (List.range' 48 10 ++ Text.blankRanges.flatMap fun r => List.range' r.1 (r.2 + 1 - r.1)))

theorem mem_valueCodes {c : Char} (h : Tile.isValueChar c = true) : c.toNat ∈ valueCodes := by
  unfold valueCodes
  rw [List.mem_cons, List.mem_append, List.mem_append, List.mem_range'_1, List.mem_range'_1, List.mem_flatMap]
  rcases (isValueChar_iff c).1 h with rfl | h | h | h
  · exact Or.inl rfl
  · simp only [isLowerAscii, Bool.and_eq_true, decide_eq_true_eq, Char.le_def, UInt32.le_iff_toNat_le] at h
    change 97 ≤ c.toNat ∧ c.toNat ≤ 122 at h
    exact Or.inr (Or.inl (by omega))
  · simp only [isDigit, Bool.and_eq_true, decide_eq_true_eq, Char.le_def, UInt32.le_iff_toNat_le] at h
    change 48 ≤ c.toNat ∧ c.toNat ≤ 57 at h
    exact Or.inr (Or.inr (Or.inl (by omega)))
  · exact Or.inr (Or.inr (Or.inr (Text.CharSet.exists_of_has h)))

/-- what holds of each of these code points holds of the characters of literals -/
theorem of_isValueChar {p : Char → Prop} (h : ∀ n ∈ valueCodes, p (Char.ofNat n)) {c : Char}
    (hc : Tile.isValueChar c = true) : p c := by
  have hp := h c.toNat (mem_valueCodes hc)
  rwa [Char.ofNat_toNat] at hp

theorem isMarker_iff (c : Char) : Tile.isMarker c = true ↔ ∃ x : Connective, c = x.symbol := by
  simp only [Tile.isMarker, Bool.or_eq_true, beq_iff_eq]
  constructor
  · rintro ((rfl | rfl) | rfl)
    · exact ⟨.and, rfl⟩
    · exact ⟨.or, rfl⟩
    · exact ⟨.not, rfl⟩
  · rintro ⟨x, rfl⟩
    cases x <;> simp [Connective.symbol]

theorem isMarker_symbol (x : Connective) : Tile.isMarker x.symbol = true := (isMarker_iff _).2 ⟨x, rfl⟩

/-- no property starts like a marker, and no operator or parenthesis is part of one -/
theorem not_isPropertyChar : ∀ c ∈ ['&', '|', '!', '~', '<', '>', '=', '(', ')'], Tile.isPropertyChar c = false := by
  have h : ['&', '|', '!', '~', '<', '>', '=', '(', ')'].all (fun c => !Tile.isPropertyChar c) = true := by
    decide +kernel
  intro c hc
  exact (Bool.not_eq_true' _).mp (List.all_eq_true.1 h c hc)

theorem not_isValueChar : ∀ c ∈ ['=', '(', ')'], Tile.isValueChar c = false := by
  have h : ['=', '(', ')'].all (fun c => !Tile.isValueChar c) = true := by
    decide +kernel
  intro c hc
  exact (Bool.not_eq_true' _).mp (List.all_eq_true.1 h c hc)

theorem Atom.Legal.property_chars {a : Atom} (h : a.Legal) : ∀ c ∈ a.property, Tile.isPropertyChar c = true :=
  fun c hc => (isPropertyChar_iff c).2 (h.property c hc)

theorem Atom.Legal.value_chars {a : Atom} (h : a.Legal) : ∀ c ∈ a.literal, Tile.isValueChar c = true :=
  fun c hc => (isValueChar_iff c).2 (h.literal c hc)

/-! ## One tile -/

theorem openings_markers (cs : List Connective) {s : List Char} (h : Tile.openings s = ([], s)) :
    Tile.openings (Connective.markers cs ++ s) = (Connective.markers cs, s) := by
  induction cs with
  | nil => exact h
  | cons c cs ih =>
    change Tile.openings ('(' :: c.symbol :: (Connective.markers cs ++ s)) = _
    rw [Tile.openings, if_pos (isMarker_symbol c), ih]
    rfl

theorem openings_eq (s : List Char) : ∃ cs, s = Connective.markers cs ++ (Tile.openings s).2 ∧
    (Tile.openings s).1 = Connective.markers cs := by
  fun_induction Tile.openings s with
  | case1 c rest hc ms tail h ih =>
    obtain ⟨x, rfl⟩ := (isMarker_iff c).1 hc
    rw [h] at ih
    obtain ⟨cs, h1, h2⟩ := ih
    refine ⟨x :: cs, ?_, ?_⟩
    · exact congrArg ('(' :: x.symbol :: ·) h1
    · exact congrArg ('(' :: x.symbol :: ·) h2
  | case2 => exact ⟨[], rfl, rfl⟩
  | case3 => exact ⟨[], rfl, rfl⟩

theorem operatorAt?_symbol (o : Operator) {s : List Char} (h : s.head? ≠ some '=') :
    Tile.operatorAt? (o.symbol.toList ++ s) = some (o, s) := by
  cases s with
  | nil => cases o <;> rfl
  | cons c s =>
    have hc : c ≠ '=' := by simpa using h
    cases o <;> simp [Operator.symbol, Tile.operatorAt?, hc]

theorem operatorAt?_eq_some {s rest : List Char} {o : Operator} (h : Tile.operatorAt? s = some (o, rest)) :
    s = o.symbol.toList ++ rest := by
  unfold Tile.operatorAt? at h
  split at h <;> simp only [Option.some.injEq, Prod.mk.injEq, reduceCtorEq] at h <;>
    obtain ⟨rfl, rfl⟩ := h <;> rfl

theorem takeWhile_append_stop {p : Char → Bool} {s t : List Char} (hs : ∀ c ∈ s, p c = true)
    (ht : ∀ c ∈ t.head?, p c = false) : (s ++ t).takeWhile p = s ∧ (s ++ t).dropWhile p = t := by
  rw [List.takeWhile_append_of_pos hs, List.dropWhile_append_of_pos hs]
  cases t with
  | nil => simp
  | cons c t =>
    have hc := ht c rfl
    simp [hc]

theorem operator_head (o : Operator) (s : List Char) :
    ∀ c ∈ (o.symbol.toList ++ s).head?, Tile.isPropertyChar c = false := by
  intro c hc
  apply not_isPropertyChar
  cases o <;> simp [Operator.symbol] at hc <;> subst hc <;> simp

theorem body?_atom {a : Atom} (h : a.Legal) (tail : List Char) :
    Tile.body? (a.property ++ (a.operator.symbol.toList ++ (a.literal ++ ')' :: tail))) =
      some (a.property, a.operator, a.literal, tail) := by
  obtain ⟨h1, h2⟩ := takeWhile_append_stop h.property_chars (operator_head a.operator (a.literal ++ ')' :: tail))
  have hend : ∀ c ∈ (')' :: tail).head?, Tile.isValueChar c = false := by
    intro c hc
    exact not_isValueChar c (by simp at hc; simp [← hc])
  obtain ⟨h3, h4⟩ := takeWhile_append_stop h.value_chars hend
  have hhead : (a.literal ++ ')' :: tail).head? ≠ some '=' := by
    obtain ⟨x, xs, hx⟩ := List.exists_cons_of_ne_nil h.valued
    have hv := h.value_chars x (by rw [hx]; exact List.mem_cons_self)
    rw [hx]
    intro heq
    obtain rfl : x = '=' := by simpa using heq
    rw [not_isValueChar '=' (by simp)] at hv
    exact Bool.false_ne_true hv
  simp only [Tile.body?, h1, h2, operatorAt?_symbol a.operator hhead, h3, h4]
  rw [if_pos ⟨h.named, h.valued⟩]

theorem body?_eq_some {s tail p v : List Char} {o : Operator} (h : Tile.body? s = some (p, o, v, tail)) :
    s = p ++ (o.symbol.toList ++ (v ++ ')' :: tail)) ∧ Atom.Legal ⟨p, o, v⟩ := by
  unfold Tile.body? at h
  split at h
  · simp at h
  · rename_i o' rest ho
    split at h
    · rename_i tail' hrest
      dsimp only at h
      split_ifs at h with hne
      obtain ⟨rfl, rfl, rfl, rfl⟩ := by simpa using h
      have ho' := operatorAt?_eq_some ho
      refine ⟨?_, ⟨hne.1, fun c hc => ?_, hne.2, fun c hc => ?_⟩⟩
      · rw [← hrest, List.takeWhile_append_dropWhile, ← ho', List.takeWhile_append_dropWhile]
      · exact (isPropertyChar_iff c).1 (List.mem_takeWhile_imp hc)
      · exact (isValueChar_iff c).1 (List.mem_takeWhile_imp hc)
    · simp at h

theorem openings_atom {a : Atom} (h : a.Legal) (s : List Char) : Tile.openings (a.text ++ s) = ([], a.text ++ s) := by
  obtain ⟨x, xs, hx⟩ := List.exists_cons_of_ne_nil h.named
  have hp := h.property_chars x (by rw [hx]; exact List.mem_cons_self)
  have hm : Tile.isMarker x = false := by
    by_contra hm
    obtain ⟨c, rfl⟩ := (isMarker_iff x).1 (by simpa using hm)
    rw [not_isPropertyChar c.symbol (by cases c <;> simp [Connective.symbol])] at hp
    exact Bool.false_ne_true hp
  rw [Atom.text, hx]
  simp only [List.cons_append]
  rw [Tile.openings, if_neg (by simp [hm])]

/-- what is left behind a tile does not start with a closing parenthesis -/
def AfterTile (s : List Char) : Prop := s.head? ≠ some ')'

theorem closings_append (n : ℕ) {s : List Char} (h : AfterTile s) :
    ((List.replicate n ')' ++ s).takeWhile (· == ')')).length = n ∧
      (List.replicate n ')' ++ s).dropWhile (· == ')') = s := by
  have hs : ∀ c ∈ s.head?, (c == ')') = false := by
    intro c hc
    rw [beq_eq_false_iff_ne]
    rintro rfl
    exact h hc
  obtain ⟨h1, h2⟩ := takeWhile_append_stop (p := (· == ')')) (s := List.replicate n ')') (by simp) hs
  exact ⟨by rw [h1, List.length_replicate], h2⟩

/-- a tile is read back from its text -/
theorem read?_text {r : Run Atom} (h : r.leaf.Legal) {s : List Char} (hs : AfterTile s) :
    Tile.read? (r.text ++ s) = some (r.raw, s) := by
  have htext : r.text ++ s = Connective.markers r.opens ++ (r.leaf.text ++ (List.replicate r.closes ')' ++ s)) := by
    simp [Run.text]
  have hbody : r.leaf.text ++ (List.replicate r.closes ')' ++ s) = '(' :: (r.leaf.property ++
      (r.leaf.operator.symbol.toList ++ (r.leaf.literal ++ ')' :: (List.replicate r.closes ')' ++ s)))) := by
    simp [Atom.text]
  obtain ⟨h1, h2⟩ := closings_append r.closes hs
  rw [Tile.read?, htext, openings_markers r.opens (openings_atom h _), hbody]
  simp only [body?_atom h, h1, h2, Run.raw]

theorem afterTile_dropWhile (s : List Char) : AfterTile (s.dropWhile (· == ')')) := by
  intro h
  have h' := List.head?_dropWhile_not (· == ')') s
  rw [h] at h'
  simp at h'

theorem replicate_takeWhile (s : List Char) :
    List.replicate (s.takeWhile (· == ')')).length ')' = s.takeWhile (· == ')') := by
  refine (List.eq_replicate_of_mem fun c hc => ?_).symm
  simpa using List.mem_takeWhile_imp hc

/-- whatever is read as a tile is the text of one -/
theorem read?_eq_some {s rest : List Char} {t : Tile.Raw} (h : Tile.read? s = some (t, rest)) :
    ∃ r : Run Atom, r.leaf.Legal ∧ t = r.raw ∧ s = r.text ++ rest ∧ AfterTile rest := by
  obtain ⟨cs, h1, h2⟩ := openings_eq s
  unfold Tile.read? at h
  dsimp only at h
  split at h
  · rename_i inner hinner
    split at h
    · simp at h
    · rename_i p o v tail hbody
      obtain ⟨hin, hlegal⟩ := body?_eq_some hbody
      obtain ⟨rfl, rfl⟩ := by simpa using h
      refine ⟨⟨cs, ⟨p, o, v⟩, (tail.takeWhile (· == ')')).length⟩, hlegal, ?_, ?_, afterTile_dropWhile tail⟩
      · simp [Run.raw, h2]
      · rw [h1, hinner, hin, Run.text, Atom.text, replicate_takeWhile]
        simp
  · simp at h

/-! ## Rows of tiles -/

theorem text_cons (r : Run Atom) : ∃ s, r.text = '(' :: s := by
  obtain ⟨cs, a, n⟩ := r
  cases cs with
  | nil => exact ⟨_, rfl⟩
  | cons c cs => exact ⟨_, rfl⟩

theorem afterTile_texts (rs : List (Run Atom)) : AfterTile (rs.flatMap Run.text) := by
  cases rs with
  | nil => simp [AfterTile]
  | cons r rs =>
    obtain ⟨s, hs⟩ := text_cons r
    simp [AfterTile, hs]

theorem scanFor_texts {rs : List (Run Atom)} (h : ∀ r ∈ rs, r.leaf.Legal) {fuel : ℕ} (hf : rs.length ≤ fuel) :
    Tile.scanFor fuel (rs.flatMap Run.text) = (rs.map Run.raw, []) := by
  induction rs generalizing fuel with
  | nil => cases fuel <;> rfl
  | cons r rs ih =>
    obtain ⟨fuel, rfl⟩ := Nat.exists_eq_add_one_of_ne_zero (Nat.ne_of_gt (Nat.lt_of_lt_of_le (by simp) hf))
    have ih' := ih (fun q hq => h q (List.mem_cons_of_mem r hq)) (Nat.le_of_succ_le_succ hf)
    rw [List.flatMap_cons, Tile.scanFor, read?_text (h r List.mem_cons_self) (afterTile_texts rs)]
    simp only [ih', List.map_cons]

theorem length_le_texts (rs : List (Run Atom)) : rs.length ≤ (rs.flatMap Run.text).length := by
  induction rs with
  | nil => simp
  | cons r rs ih =>
    obtain ⟨s, hs⟩ := text_cons r
    simp only [List.flatMap_cons, List.length_append, hs, List.length_cons]
    omega

/-- **Reading back a row.** The text of a row of tiles is read as that row, to the end. -/
theorem scan_texts {rs : List (Run Atom)} (h : ∀ r ∈ rs, r.leaf.Legal) :
    Tile.scan (rs.flatMap Run.text) = (rs.map Run.raw, []) := scanFor_texts h (length_le_texts rs)

theorem scanFor_eq {fuel : ℕ} {s rest : List Char} {ts : List Tile.Raw} (h : Tile.scanFor fuel s = (ts, rest)) :
    ∃ rs : List (Run Atom), (∀ r ∈ rs, r.leaf.Legal) ∧ ts = rs.map Run.raw ∧ s = rs.flatMap Run.text ++ rest := by
  induction fuel generalizing s ts with
  | zero =>
    obtain ⟨rfl, rfl⟩ := by simpa [Tile.scanFor] using h
    exact ⟨[], by simp, rfl, rfl⟩
  | succ fuel ih =>
    rw [Tile.scanFor] at h
    split at h
    · obtain ⟨rfl, rfl⟩ := by simpa using h
      exact ⟨[], by simp, rfl, rfl⟩
    · rename_i t mid hread
      obtain ⟨r, hr, rfl, rfl, -⟩ := read?_eq_some hread
      obtain ⟨rfl, rfl⟩ := by simpa using h
      obtain ⟨rs, hrs, hts, hmid⟩ := ih (s := mid) rfl
      refine ⟨r :: rs, ?_, ?_, ?_⟩
      · intro q hq
        rcases List.mem_cons.1 hq with rfl | hq
        · exact hr
        · exact hrs q hq
      · rw [hts, List.map_cons]
      · rw [List.flatMap_cons, List.append_assoc, ← hmid]

/-- whatever is read as tiles is the text of a row -/
theorem scan_eq {s rest : List Char} {ts : List Tile.Raw} (h : Tile.scan s = (ts, rest)) :
    ∃ rs : List (Run Atom), (∀ r ∈ rs, r.leaf.Legal) ∧ ts = rs.map Run.raw ∧ s = rs.flatMap Run.text ++ rest :=
  scanFor_eq h

/-! ## Extraction -/

/-- a tile is what the schema makes of a run -/
def Run.Resolves (schema : Schema) (r : Run Atom) (t : Tile) : Prop := Tile.ofRaw schema r.raw = .ok t

theorem resolves_iff {schema : Schema} {r : Run Atom} {t : Tile} : r.Resolves schema t ↔
    ∃ field, schema.resolve (String.ofList r.leaf.property) = some field ∧
      t = ⟨String.ofList (Connective.markers r.opens), r.closes,
        ⟨field, r.leaf.operator, String.ofList r.leaf.literal, (Connective.markers r.opens).contains '!'⟩⟩ := by
  simp only [Run.Resolves, Tile.ofRaw, Run.raw]
  split
  · rename_i h
    simp [h]
  · rename_i field h
    simp [h, eq_comm]

theorem resolveTiles_eq_ok {schema : Schema} {rs : List (Run Atom)} {tiles : List Tile} :
    resolveTiles schema (rs.map Run.raw) = .ok tiles ↔ List.Forall₂ (Run.Resolves schema) rs tiles := by
  induction rs generalizing tiles with
  | nil => cases tiles <;> simp [resolveTiles]
  | cons r rs ih =>
    rw [List.map_cons, resolveTiles, List.forall₂_cons_left_iff]
    constructor
    · intro h
      split at h
      · simp at h
      · rename_i t ht
        split at h
        · simp at h
        · rename_i ts hts
          obtain rfl := by simpa using h
          exact ⟨t, ts, ht, ih.1 hts, rfl⟩
    · rintro ⟨t, ts, ht, hts, rfl⟩
      simp only [Run.Resolves] at ht
      simp only [ht, ih.2 hts]

/-- **Extraction.** It succeeds exactly when the lower-cased filter is the text of a non-empty row of tiles whose
properties are known, and gives that row. -/
theorem extract_eq_ok {schema : Schema} {filter : String} {tiles : List Tile} :
    extract schema filter = .ok tiles ↔ ∃ rs : List (Run Atom), rs ≠ [] ∧ (∀ r ∈ rs, r.leaf.Legal) ∧
      rs.flatMap Run.text = Text.lower filter.toList ∧ List.Forall₂ (Run.Resolves schema) rs tiles := by
  constructor
  · intro h
    rcases hscan : Tile.scan (Text.lower filter.toList) with ⟨raw, rest⟩
    obtain ⟨rs, hlegal, rfl, htext⟩ := scan_eq hscan
    simp only [extract, hscan] at h
    split at h
    · simp at h
    · rename_i ts hts
      split_ifs at h with hbad
      obtain rfl := by simpa using h
      rw [not_or, not_not] at hbad
      have hall := resolveTiles_eq_ok.1 hts
      refine ⟨rs, ?_, hlegal, ?_, hall⟩
      · rintro rfl
        exact hbad.2 (List.forall₂_nil_left_iff.1 hall)
      · rw [htext, hbad.1, List.append_nil]
  · rintro ⟨rs, hne, hlegal, htext, hall⟩
    have hts : tiles ≠ [] := by
      rintro rfl
      exact hne (List.forall₂_nil_right_iff.1 hall)
    unfold extract
    simp [← htext, scan_texts hlegal, resolveTiles_eq_ok.2 hall, hts]

end SearchFilter
