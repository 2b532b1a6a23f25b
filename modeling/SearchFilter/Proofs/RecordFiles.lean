/-
Record files, as one array and line by line.

Both forms give the objects they are written from. Line by line two numbers are counted: lines are numbered from one with
the blank ones, records from zero without them, and every line is parsed before the first record is looked at.
- `lines_terminated`: where a line ends, and the carriage return that does not belong to it.
- `BreaksAt`, `StraysAt`: the first line that does not parse, and the first that is not an object.
- `parseLines_append`, `objects_append`: what lines and objects in order do to what stands behind them.
- `Outcome`, `parseRecords_eq_iff`: lines break, stray or hold objects, and the file gives what they do.
- `written_fileText`: rows written to a file are its lines.
- `parseRecords_formats`: the two forms agree, and a failure names its place.
-/
import Mathlib.Data.List.TakeWhile
import Mathlib.Tactic
import SearchFilter.Proofs.JsonText

namespace SearchFilter

open SearchFilter.Json (Value Members)
open SearchFilter.Text (braced)

/-! ## Lines -/

/-- white space only -/
def isBlankLine (line : List Char) : Bool := line.all Text.isBlank

theorem trim_eq_nil {line : List Char} : Text.trim line = [] ↔ isBlankLine line = true := by
  unfold Text.trim Text.trimEnd Text.trimStart isBlankLine
  rw [List.reverse_eq_nil_iff, List.dropWhile_eq_nil_iff, List.all_eq_true]
  constructor
  · intro h c hc
    by_contra hblank
    -- the characters from the first that is not blank on would all be blank
    have hne : line.dropWhile Text.isBlank ≠ [] := by
      intro hnil
      exact hblank (List.dropWhile_eq_nil_iff.1 hnil c hc)
    have hhead := List.head_dropWhile_not Text.isBlank hne
    rw [h _ (List.mem_reverse.2 (List.head_mem hne))] at hhead
    cases hhead
  · intro h c hc
    exact h c ((List.dropWhile_suffix _).subset (List.mem_reverse.1 hc))

theorem trim_ne_nil {line : List Char} (h : isBlankLine line = false) : Text.trim line ≠ [] := by
  intro hnil
  rw [trim_eq_nil.1 hnil] at h
  cases h

/-- a line without the carriage return before its line feed -/
def stripReturn (line : List Char) : List Char := if line.getLast? = some '\r' then line.dropLast else line

theorem stripReturn_append (line : List Char) : stripReturn (line ++ ['\r']) = line := by
  simp [stripReturn]

theorem stripReturn_of_ne {line : List Char} (h : line.getLast? ≠ some '\r') : stripReturn line = line := if_neg h

theorem stripReturn_subset (line : List Char) : stripReturn line ⊆ line := by
  unfold stripReturn
  split_ifs
  · exact List.dropLast_subset line
  · exact List.Subset.refl line

theorem lines_cons {c : Char} {s : List Char} (hc : c ≠ '\n') (hs : c = '\r' → s.head? ≠ some '\n') :
    lines (c :: s) = (c :: (lines s).headD []) :: (lines s).tail := by
  rw [lines]
  · cases lines s <;> rfl
  · exact hc
  · rintro rest rfl rfl
    exact hs rfl rfl

/-- **Lines.** A line ends at the first line feed. -/
theorem lines_terminated {line : List Char} (h : '\n' ∉ line) (rest : List Char) :
    lines (line ++ '\n' :: rest) = stripReturn line :: lines rest := by
  induction line with
  | nil => rfl
  | cons c line ih =>
    obtain ⟨hc, hline⟩ := not_or.1 (mt List.mem_cons.2 h)
    cases line with
    | nil =>
      by_cases hreturn : c = '\r'
      · rw [hreturn]
        rfl
      · rw [List.singleton_append, lines_cons (Ne.symm hc) (fun heq => absurd heq hreturn), lines,
          stripReturn_of_ne (by simpa using hreturn)]
        rfl
    | cons d line =>
      have hd : (d :: line ++ '\n' :: rest).head? ≠ some '\n' := by
        intro hhead
        exact hline (Option.some.inj hhead ▸ List.mem_cons_self)
      have hstrip : stripReturn (c :: d :: line) = c :: stripReturn (d :: line) := by
        unfold stripReturn
        rw [List.getLast?_cons_cons]
        split_ifs <;> rfl
      rw [List.cons_append, lines_cons (Ne.symm hc) (fun _ => hd), ih hline, hstrip]
      rfl

theorem lines_unterminated {line : List Char} (h : '\n' ∉ line) (hne : line ≠ []) : lines line = [line] := by
  induction line with
  | nil => exact absurd rfl hne
  | cons c line ih =>
    obtain ⟨hc, hline⟩ := not_or.1 (mt List.mem_cons.2 h)
    have hhead : line.head? ≠ some '\n' := fun hhead => hline (List.mem_of_mem_head? hhead)
    rw [lines_cons (Ne.symm hc) (fun _ => hhead)]
    cases line with
    | nil => rfl
    | cons d line => rw [ih hline (List.cons_ne_nil d line)]; rfl

/-! ## Values of lines -/

/-- the lines that are not blank -/
def written (ls : List (List Char)) : List (List Char) := ls.filter fun line => !isBlankLine line

/-- every line that is not blank parses -/
def Parses (ls : List (List Char)) : Prop := ∀ line ∈ written ls, (Json.parse line).isSome = true

instance (ls : List (List Char)) : Decidable (Parses ls) :=
  inferInstanceAs (Decidable (∀ line ∈ written ls, (Json.parse line).isSome = true))

/-- Line `k`, counted from one with the blank lines, is the first that is not blank and does not parse. -/
def BreaksAt (ls : List (List Char)) (k : ℕ) : Prop :=
  ∃ before line after, ls = before ++ line :: after ∧ k = before.length + 1 ∧ Parses before ∧
    isBlankLine line = false ∧ Json.parse line = none

/-- Of the lines that are not blank, the one with number `i`, counted from zero, is the first that is not an object. -/
def StraysAt (ls : List (List Char)) (i : ℕ) : Prop :=
  ∃ before line after, written ls = before ++ line :: after ∧ i = before.length ∧
    (∀ x ∈ before, ∃ ms, Json.parse x = some (.object ms)) ∧ ∀ ms, Json.parse line ≠ some (.object ms)

/-- the lines that are not blank are these objects, in order -/
def HoldsObjects (ls : List (List Char)) (records : List Members) : Prop :=
  (written ls).map Json.parse = records.map fun ms => some (.object ms)

def valuesOf (ls : List (List Char)) : List Value := (written ls).filterMap Json.parse

theorem written_cons_of_blank {line : List Char} (h : isBlankLine line = true) (ls : List (List Char)) :
    written (line :: ls) = written ls := by
  simp [written, h]

theorem written_cons {line : List Char} (h : isBlankLine line = false) (ls : List (List Char)) :
    written (line :: ls) = line :: written ls := by
  simp [written, h]

theorem parses_or_breaksAt (ls : List (List Char)) : Parses ls ∨ ∃ k, BreaksAt ls k := by
  induction ls with
  | nil => exact Or.inl (by simp [Parses, written])
  | cons line ls ih =>
    cases hblank : isBlankLine line with
    | true =>
      rcases ih with hparses | ⟨k, before, x, after, rfl, rfl, hbefore, hx⟩
      · exact Or.inl (by rwa [Parses, written_cons_of_blank hblank])
      · exact Or.inr ⟨_, line :: before, x, after, rfl, rfl, by rwa [Parses, written_cons_of_blank hblank], hx⟩
    | false =>
      cases hparse : Json.parse line with
      | none => exact Or.inr ⟨1, [], line, ls, rfl, rfl, by simp [Parses, written], hblank, hparse⟩
      | some v =>
        have hline : (Json.parse line).isSome = true := by rw [hparse]; rfl
        rcases ih with hparses | ⟨k, before, x, after, rfl, rfl, hbefore, hx⟩
        · refine Or.inl ?_
          rw [Parses, written_cons hblank]
          exact List.forall_mem_cons.2 ⟨hline, hparses⟩
        · refine Or.inr ⟨_, line :: before, x, after, rfl, rfl, ?_, hx⟩
          rw [Parses, written_cons hblank]
          exact List.forall_mem_cons.2 ⟨hline, hbefore⟩

/-- lines that parse are counted and give their values -/
theorem parseLines_append {before : List (List Char)} (h : Parses before) (n : ℕ) (rest : List (List Char)) :
    parseLines n (before ++ rest) = (parseLines (n + before.length) rest).map (valuesOf before ++ ·) := by
  induction before generalizing n with
  | nil =>
    rw [List.nil_append, List.length_nil, Nat.add_zero]
    cases parseLines n rest <;> rfl
  | cons line before ih =>
    have hlength : n + (line :: before).length = n + 1 + before.length := by rw [List.length_cons]; omega
    rw [List.cons_append, parseLines, hlength]
    cases hblank : isBlankLine line with
    | true =>
      rw [Parses, written_cons_of_blank hblank] at h
      rw [if_pos (trim_eq_nil.2 hblank), ih h, valuesOf, valuesOf, written_cons_of_blank hblank]
    | false =>
      rw [Parses, written_cons hblank] at h
      obtain ⟨hline, hbefore⟩ := List.forall_mem_cons.1 h
      obtain ⟨v, hv⟩ := Option.isSome_iff_exists.1 hline
      rw [if_neg (trim_ne_nil hblank), hv, valuesOf, written_cons hblank, List.filterMap_cons_some hv]
      simp only
      rw [ih hbefore]
      cases parseLines (n + 1 + before.length) rest <;> rfl

theorem parseLines_of_parses {ls : List (List Char)} (h : Parses ls) : parseLines 1 ls = .ok (valuesOf ls) := by
  have happend := parseLines_append h 1 []
  rw [List.append_nil] at happend
  rw [happend, parseLines, Except.map, List.append_nil]

theorem parseLines_of_breaksAt {ls : List (List Char)} {k : ℕ} (h : BreaksAt ls k) :
    parseLines 1 ls = .error (.json k) := by
  obtain ⟨before, line, after, rfl, rfl, hbefore, hblank, hnone⟩ := h
  rw [parseLines_append hbefore, parseLines, if_neg (trim_ne_nil hblank), hnone, Nat.add_comm]
  rfl

/-! ## Objects -/

/-- objects are counted and kept -/
theorem objects_append (before : List Members) (n : ℕ) (rest : List Value) :
    objects n (before.map .object ++ rest) = (objects (n + before.length) rest).map (before ++ ·) := by
  induction before generalizing n with
  | nil =>
    rw [List.map_nil, List.nil_append, List.length_nil, Nat.add_zero]
    cases objects n rest <;> rfl
  | cons ms before ih =>
    have hlength : n + (ms :: before).length = n + 1 + before.length := by rw [List.length_cons]; omega
    rw [List.map_cons, List.cons_append, objects, ih, hlength]
    cases objects (n + 1 + before.length) rest <;> rfl

theorem objects_map (records : List Members) : objects 0 (records.map .object) = .ok records := by
  have happend := objects_append records 0 []
  rw [List.append_nil] at happend
  rw [happend, objects, Except.map, List.append_nil]

theorem objects_of_stray (before : List Members) {v : Value} (hv : ∀ ms, v ≠ .object ms) (after : List Value) :
    objects 0 (before.map .object ++ v :: after) = .error (.notAnObject before.length) := by
  have hstray : ∀ n, objects n (v :: after) = .error (.notAnObject n) := by
    intro n
    rw [objects]
    exact hv
  rw [objects_append, hstray, Nat.zero_add]
  rfl

/-- texts that are objects -/
theorem exists_records {texts : List (List Char)} (h : ∀ x ∈ texts, ∃ ms, Json.parse x = some (.object ms)) :
    ∃ records : List Members, texts.map Json.parse = records.map fun ms => some (.object ms) := by
  induction texts with
  | nil => exact ⟨[], rfl⟩
  | cons x texts ih =>
    obtain ⟨⟨ms, hms⟩, htexts⟩ := List.forall_mem_cons.1 h
    obtain ⟨records, hrecords⟩ := ih htexts
    refine ⟨ms :: records, ?_⟩
    simp [hms, hrecords]

theorem filterMap_parse {texts : List (List Char)} {records : List Members}
    (h : texts.map Json.parse = records.map fun ms => some (.object ms)) :
    texts.filterMap Json.parse = records.map .object := by
  calc texts.filterMap Json.parse
      = (texts.map Json.parse).filterMap id := by simp
    _ = ((records.map Value.object).map some).filterMap id := by rw [h, List.map_map]; rfl
    _ = records.map .object := by simp

/-- Texts are all objects, or there is a first one that is not. -/
theorem objects_or_stray (texts : List (List Char)) : (∀ x ∈ texts, ∃ ms, Json.parse x = some (.object ms)) ∨
    ∃ before line after, texts = before ++ line :: after ∧
      (∀ x ∈ before, ∃ ms, Json.parse x = some (.object ms)) ∧ ∀ ms, Json.parse line ≠ some (.object ms) := by
  induction texts with
  | nil => exact Or.inl (by simp)
  | cons x texts ih =>
    by_cases hx : ∃ ms, Json.parse x = some (.object ms)
    · rcases ih with htexts | ⟨before, line, after, rfl, hbefore, hline⟩
      · exact Or.inl (List.forall_mem_cons.2 ⟨hx, htexts⟩)
      · exact Or.inr ⟨x :: before, line, after, rfl, List.forall_mem_cons.2 ⟨hx, hbefore⟩, hline⟩
    · exact Or.inr ⟨[], x, texts, rfl, by simp, fun ms hms => hx ⟨ms, hms⟩⟩

/-- what lines give: they break, stray or hold objects -/
inductive Outcome (ls : List (List Char)) : Except InputError (List Members) → Prop where
  | breaks {k : ℕ} (hbreaks : BreaksAt ls k) : Outcome ls (.error (.json k))
  | strays {i : ℕ} (hparses : Parses ls) (hstrays : StraysAt ls i) : Outcome ls (.error (.notAnObject i))
  | holds {records : List Members} (hrecords : HoldsObjects ls records) : Outcome ls (.ok records)

theorem exists_outcome (ls : List (List Char)) : ∃ result, Outcome ls result := by
  rcases parses_or_breaksAt ls with hparses | ⟨k, hbreaks⟩
  · rcases objects_or_stray (written ls) with hobjects | ⟨before, line, after, hwritten, hbefore, hline⟩
    · obtain ⟨records, hrecords⟩ := exists_records hobjects
      exact ⟨_, .holds hrecords⟩
    · exact ⟨_, .strays hparses ⟨before, line, after, hwritten, rfl, hbefore, hline⟩⟩
  · exact ⟨_, .breaks hbreaks⟩

/-! ## Files read line by line -/

/-- the first character that is not white space is no bracket -/
def IsLined (content : String) : Prop := content.toList.find? (fun c => !Text.isBlank c) ≠ some '['

instance (content : String) : Decidable (IsLined content) :=
  inferInstanceAs (Decidable (content.toList.find? (fun c => !Text.isBlank c) ≠ some '['))

section

variable {content : String} (h : IsLined content)

include h

theorem parseRecords_eq : parseRecords content = (parseLines 1 (lines content.toList)).bind (objects 0) := by
  have hhead : (Text.trimStart content.toList).head? ≠ some '[' := by
    have hfind := List.find?_eq_head?_dropWhile_not (fun c => !Text.isBlank c) content.toList
    simp only [Bool.not_not] at hfind
    rw [Text.trimStart, ← hfind]
    exact h
  rw [parseRecords, parseValues, if_neg hhead]

theorem parseRecords_of_straysAt {i : ℕ} (hparses : Parses (lines content.toList))
    (hstrays : StraysAt (lines content.toList) i) : parseRecords content = .error (.notAnObject i) := by
  obtain ⟨before, line, after, hwritten, rfl, hbefore, hline⟩ := hstrays
  obtain ⟨records, hrecords⟩ := exists_records hbefore
  have hlength : records.length = before.length := by simpa using (congrArg List.length hrecords).symm
  obtain ⟨v, hv⟩ := Option.isSome_iff_exists.1 (hparses line (by rw [hwritten]; simp))
  have hstray : ∀ ms, v ≠ .object ms := by
    intro ms heq
    exact hline ms (hv.trans (congrArg some heq))
  rw [parseRecords_eq h, parseLines_of_parses hparses, valuesOf, hwritten, List.filterMap_append,
    filterMap_parse hrecords, List.filterMap_cons_some hv, ← hlength]
  exact objects_of_stray records hstray _

theorem parseRecords_of_holdsObjects {records : List Members} (hrecords : HoldsObjects (lines content.toList) records) :
    parseRecords content = .ok records := by
  have hparses : Parses (lines content.toList) := by
    intro line hline
    have hmem : Json.parse line ∈ (written (lines content.toList)).map Json.parse := List.mem_map_of_mem hline
    rw [hrecords] at hmem
    obtain ⟨ms, -, hms⟩ := List.mem_map.1 hmem
    rw [← hms]
    rfl
  rw [parseRecords_eq h, parseLines_of_parses hparses, valuesOf, filterMap_parse hrecords]
  exact objects_map records

/-- **Line by line.** A file gives what its lines give. -/
theorem parseRecords_eq_iff {result : Except InputError (List Members)} :
    parseRecords content = result ↔ Outcome (lines content.toList) result := by
  have hresult : ∀ {result}, Outcome (lines content.toList) result → parseRecords content = result := by
    intro result houtcome
    cases houtcome with
    | breaks hbreaks => rw [parseRecords_eq h, parseLines_of_breaksAt hbreaks]; rfl
    | strays hparses hstrays => exact parseRecords_of_straysAt h hparses hstrays
    | holds hrecords => exact parseRecords_of_holdsObjects h hrecords
  refine ⟨fun heq => ?_, hresult⟩
  obtain ⟨result', houtcome⟩ := exists_outcome (lines content.toList)
  rwa [← heq, hresult houtcome]

end

/-! ## Files written from objects -/

/-- The text of a value reads back as the value. -/
def ParsesBack (v : Value) : Prop := Json.parse v.text.toList = some v

/-- a row of a record file: white space, or an object -/
inductive Row where
  | blank (ws : List Char) (hblank : isBlankLine ws = true) (hline : '\n' ∉ ws)
  | record (ms : Members)

namespace Row

def text : Row → List Char
  | .blank ws _ _ => ws
  | .record ms => ms.text.toList

/-- the object of a row -/
def members : Row → Option Members
  | .blank _ _ _ => none
  | .record ms => some ms

/-- what stands before the line feed of a row, which may be ended by a carriage return and a line feed -/
def line (crlf : Bool) (r : Row) : List Char := r.text ++ (if crlf then ['\r'] else [])

theorem newline_notMem_text (r : Row) : '\n' ∉ r.text := by
  cases r with
  | blank ws _ hline => exact hline
  | record ms => exact Json.newline_notMem_text (.object ms)

theorem newline_notMem_line (crlf : Bool) (r : Row) : '\n' ∉ r.line crlf := by
  unfold line
  rw [List.mem_append, not_or]
  exact ⟨newline_notMem_text r, by cases crlf <;> decide⟩

theorem isBlankLine_text (ms : Members) : isBlankLine ms.text.toList = false := by
  obtain ⟨inner, htext⟩ := Json.text_object ms
  rw [htext, isBlankLine, List.all_cons]
  rfl

/-- The carriage return of an ending is no part of the row. -/
theorem stripReturn_line_record (crlf : Bool) (ms : Members) : stripReturn (line crlf (.record ms)) = ms.text.toList := by
  unfold line text
  cases crlf with
  | false =>
    obtain ⟨inner, htext⟩ := Json.text_object ms
    have hlast : ms.text.toList.getLast? ≠ some '\r' := by
      rw [htext, ← List.cons_append, List.getLast?_concat]
      decide
    rw [if_neg Bool.false_ne_true, List.append_nil]
    exact stripReturn_of_ne hlast
  | true => exact stripReturn_append ms.text.toList

theorem isBlankLine_stripReturn_line (crlf : Bool) {ws : List Char} (hblank : isBlankLine ws = true)
    (hline : '\n' ∉ ws) : isBlankLine (stripReturn (line crlf (.blank ws hblank hline))) = true := by
  have hall : isBlankLine (line crlf (.blank ws hblank hline)) = true := by
    unfold line text isBlankLine
    rw [List.all_append, Bool.and_eq_true]
    exact ⟨hblank, by cases crlf <;> decide⟩
  refine List.all_eq_true.2 fun c hc => ?_
  exact List.all_eq_true.1 hall c (stripReturn_subset _ hc)

/-- a row adds its object to the lines that are not blank -/
theorem written_line (crlf : Bool) (r : Row) (ls : List (List Char)) :
    written (stripReturn (r.line crlf) :: ls) = r.members.toList.map (·.text.toList) ++ written ls := by
  cases r with
  | blank ws hblank hline => exact written_cons_of_blank (isBlankLine_stripReturn_line crlf hblank hline) ls
  | record ms =>
    rw [stripReturn_line_record, written_cons (isBlankLine_text ms)]
    rfl

/-- the last row, without an ending -/
theorem written_lines_text (r : Row) : written (lines r.text) = r.members.toList.map (·.text.toList) := by
  cases r with
  | blank ws hblank hline =>
    by_cases hne : ws = []
    · subst hne
      rfl
    · rw [text, lines_unterminated hline hne, written_cons_of_blank hblank]
      rfl
  | record ms =>
    have hne : ms.text.toList ≠ [] := by
      obtain ⟨inner, htext⟩ := Json.text_object ms
      rw [htext]
      exact List.cons_ne_nil _ _
    rw [lines_unterminated (newline_notMem_text (.record ms)) hne, text, written_cons (isBlankLine_text ms)]
    rfl

/-- the first character of a row that is not white space, if there is one, opens an object -/
theorem find?_text_append (r : Row) (rest : List Char) :
    (r.text ++ rest).find? (fun c => !Text.isBlank c) = some '{' ∨
      (r.text ++ rest).find? (fun c => !Text.isBlank c) = rest.find? (fun c => !Text.isBlank c) := by
  cases r with
  | blank ws hblank hline =>
    have hnone : ws.find? (fun c => !Text.isBlank c) = none := by
      rw [List.find?_eq_none]
      intro c hc
      rw [List.all_eq_true.1 hblank c hc]
      exact Bool.false_ne_true
    rw [text, List.find?_append, hnone]
    exact Or.inr rfl
  | record ms =>
    obtain ⟨inner, htext⟩ := Json.text_object ms
    rw [text, htext, List.cons_append, List.find?_cons]
    exact Or.inl rfl

end Row

/-- a file of rows, with a carriage return before the line feed or not, and one row at the end without an ending -/
def fileText (rows : List (Bool × Row)) (last : Row) : List Char :=
  rows.flatMap (fun r => r.2.line r.1 ++ ['\n']) ++ last.text

def fileRecords (rows : List (Bool × Row)) (last : Row) : List Members :=
  rows.flatMap (fun r => r.2.members.toList) ++ last.members.toList

/-- **Rows.** The lines of a file that are not blank are the texts of its objects. -/
theorem written_fileText (rows : List (Bool × Row)) (last : Row) :
    written (lines (fileText rows last)) = (fileRecords rows last).map (·.text.toList) := by
  induction rows with
  | nil => exact last.written_lines_text
  | cons r rows ih =>
    have htext : fileText (r :: rows) last = r.2.line r.1 ++ '\n' :: fileText rows last := by simp [fileText]
    calc written (lines (fileText (r :: rows) last))
        = written (stripReturn (r.2.line r.1) :: lines (fileText rows last)) := by
          rw [htext, lines_terminated (r.2.newline_notMem_line r.1)]
      _ = r.2.members.toList.map (·.text.toList) ++ (fileRecords rows last).map (·.text.toList) := by
          rw [r.2.written_line r.1, ih]
      _ = (fileRecords (r :: rows) last).map (·.text.toList) := by simp [fileRecords]

theorem isLined_fileText (rows : List (Bool × Row)) (last : Row) : IsLined (String.ofList (fileText rows last)) := by
  unfold IsLined
  rw [String.toList_ofList]
  induction rows with
  | nil =>
    have hlast := last.find?_text_append []
    rw [List.append_nil] at hlast
    unfold fileText
    rcases hlast with hopen | hnone
    · simp [hopen]
    · simp [hnone]
  | cons r rows ih =>
    have htext : fileText (r :: rows) last =
        r.2.text ++ ((if r.1 then ['\r'] else []) ++ '\n' :: fileText rows last) := by
      simp [fileText, Row.line]
    have hending : ((if r.1 then ['\r'] else []) ++ '\n' :: fileText rows last).find? (fun c => !Text.isBlank c) =
        (fileText rows last).find? fun c => !Text.isBlank c := by
      cases r.1 <;> rfl
    rw [htext]
    rcases r.2.find?_text_append ((if r.1 then ['\r'] else []) ++ '\n' :: fileText rows last) with hopen | hrest
    · rw [hopen]
      decide
    · rw [hrest, hending]
      exact ih

theorem parseRecords_fileText {rows : List (Bool × Row)} {last : Row}
    (h : ∀ ms ∈ fileRecords rows last, ParsesBack (.object ms)) :
    parseRecords (String.ofList (fileText rows last)) = .ok (fileRecords rows last) := by
  refine parseRecords_of_holdsObjects (isLined_fileText rows last) ?_
  unfold HoldsObjects
  rw [String.toList_ofList, written_fileText, List.map_map]
  refine List.map_congr_left fun ms hms => ?_
  rw [Function.comp_apply, Members.text]
  exact h ms hms

theorem parseRecords_array {ws : List Char} (hws : isBlankLine ws = true) {os : List Members}
    (h : ParsesBack (.array (os.map .object))) :
    parseRecords (String.ofList ws ++ "[" ++ ",".intercalate (os.map Members.text) ++ "]") = .ok os := by
  have htext : (Value.array (os.map .object)).text.toList =
      '[' :: (",".intercalate (os.map Members.text) ++ "]").toList := by
    rw [Value.text, Json.texts_eq_map, List.map_map, String.append_assoc, String.toList_append]
    rfl
  have hcontent : (String.ofList ws ++ "[" ++ ",".intercalate (os.map Members.text) ++ "]").toList =
      ws ++ (Value.array (os.map .object)).text.toList := by
    rw [htext]
    simp
  have htrim : Text.trimStart (ws ++ (Value.array (os.map .object)).text.toList) =
      (Value.array (os.map .object)).text.toList := by
    rw [Text.trimStart, List.dropWhile_append_of_pos (List.all_eq_true.1 hws), htext]
    rfl
  have hhead : (Value.array (os.map .object)).text.toList.head? = some '[' := by
    rw [htext]
    rfl
  rw [parseRecords, hcontent, parseValues]
  simp only [htrim]
  rw [if_pos hhead, h]
  exact objects_map os

/-- **Record files.** An array and rows of the same objects give these objects; a file read line by line names the first
line that breaks or, when none does, the first record that is not an object. -/
theorem parseRecords_formats :
    (∀ os : List Members,
      (ParsesBack (.array (os.map .object)) → ∀ ws, isBlankLine ws = true →
        parseRecords (String.ofList ws ++ "[" ++ ",".intercalate (os.map Members.text) ++ "]") = .ok os) ∧
      ((∀ ms ∈ os, ParsesBack (.object ms)) → ∀ rows last, fileRecords rows last = os →
        parseRecords (String.ofList (fileText rows last)) = .ok os)) ∧
    ∀ content : String, IsLined content →
      (∀ k, parseRecords content = .error (.json k) ↔ BreaksAt (lines content.toList) k) ∧
      (∀ i, parseRecords content = .error (.notAnObject i) ↔
        Parses (lines content.toList) ∧ StraysAt (lines content.toList) i) ∧
      ∀ os, parseRecords content = .ok os ↔ HoldsObjects (lines content.toList) os := by
  refine ⟨fun os => ⟨fun h ws hws => parseRecords_array hws h, ?_⟩, fun content h => ?_⟩
  · rintro h rows last rfl
    exact parseRecords_fileText h
  · refine ⟨fun k => ?_, fun i => ?_, fun os => ?_⟩
    · rw [parseRecords_eq_iff h]
      exact ⟨fun | .breaks hbreaks => hbreaks, .breaks⟩
    · rw [parseRecords_eq_iff h]
      exact ⟨fun | .strays hparses hstrays => ⟨hparses, hstrays⟩, fun ⟨hparses, hstrays⟩ => .strays hparses hstrays⟩
    · rw [parseRecords_eq_iff h]
      exact ⟨fun | .holds hrecords => hrecords, .holds⟩

/-- Two objects as one array and on two rows, and files that break and stray. -/
theorem parseRecords_formats_mixed :
    parseRecords (" \n[" ++ braced "\"sn\":\"doe\"" ++ "," ++ braced "\"Version\":5" ++ "]") =
        .ok [[("sn", .string "doe")], [("Version", .number (.whole 5))]] ∧
      parseRecords ("\u00a0\n" ++ braced "\"sn\":\"doe\"" ++ "\r\n\r\n" ++ braced "\"Version\":5") =
        .ok [[("sn", .string "doe")], [("Version", .number (.whole 5))]] ∧
      parseRecords ("5\n\n" ++ braced "" ++ "\n[\n]") = .error (.json 4) ∧
      parseRecords ("\n" ++ braced "" ++ "\n\n5\nnull") = .error (.notAnObject 1) := by
  let os : List Members := [[("sn", .string "doe")], [("Version", .number (.whole 5))]]
  obtain ⟨harray, hrows⟩ := parseRecords_formats.1 os
  refine ⟨?_, ?_, ?_, ?_⟩
  · have hparsed := harray (by unfold ParsesBack; cbv) [' ', '\n'] (by decide)
    have htext : String.ofList [' ', '\n'] ++ "[" ++ ",".intercalate (os.map Members.text) ++ "]" =
        " \n[" ++ braced "\"sn\":\"doe\"" ++ "," ++ braced "\"Version\":5" ++ "]" := by decide +kernel
    rwa [htext] at hparsed
  · have hback : ∀ ms ∈ os, ParsesBack (.object ms) := by
      intro ms hms
      rcases List.mem_pair.1 hms with rfl | rfl
      · unfold ParsesBack; cbv
      · unfold ParsesBack; cbv
    let rows : List (Bool × Row) := [(false, .blank ['\u00a0'] (by decide) (by decide)),
      (true, .record [("sn", .string "doe")]), (true, .blank [] rfl (by decide))]
    have hparsed := hrows hback rows (.record [("Version", .number (.whole 5))]) rfl
    have htext : String.ofList (fileText rows (.record [("Version", .number (.whole 5))])) =
        "\u00a0\n" ++ braced "\"sn\":\"doe\"" ++ "\r\n\r\n" ++ braced "\"Version\":5" := by decide +kernel
    rwa [htext] at hparsed
  · refine ((parseRecords_formats.2 _ (by decide)).1 4).2 ?_
    exact ⟨["5".toList, [], ['{', '}']], ['['], [[']']], by decide, rfl, by decide, rfl, by cbv⟩
  · refine ((parseRecords_formats.2 _ (by decide)).2.1 1).2 ⟨by decide, ?_⟩
    refine ⟨[['{', '}']], ['5'], ["null".toList], by decide, rfl, ?_, ?_⟩
    · intro line hline
      rw [List.mem_singleton.1 hline]
      exact ⟨[], by cbv⟩
    · have hfive : Json.parse ['5'] = some (.number (.whole 5)) := by cbv
      rw [hfive]
      intro ms heq
      cases heq

end SearchFilter
