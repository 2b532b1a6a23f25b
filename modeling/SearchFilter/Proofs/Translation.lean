/-
Wildcard patterns as regular expressions.

The expression of a wildcard pattern is a text. This module reads that text as a library of regular expressions does, and
says what it matches there: case is ignored and a dot takes every character, since the text says so at its start; no
character of the pattern is read as an operator, since operators are escaped; and the whole subject has to be taken, up to
white space at its end.
- `Covers`, `Declared`: what a pattern stands for, said character by character, and with white space after it.
- `GoesTo`: how far a reader comes, whatever it has read before; `goesTo_start`, `goesTo_pattern`, `goesTo_ending` are the
  three parts of the text.
- `compile_regexText`: the text is read and compiled, and to what.
- `takes_one`, `takes_run`: what a class takes, and what a repeated one does.
- `matches_expression`: the expression matches exactly the declared subjects.
-/
import Mathlib
import SearchFilter.Proofs.Matching
import SearchFilter.Proofs.PatternCache

namespace SearchFilter.Like

open SearchFilter.Regex

/-! ## What a pattern stands for -/

/-- A text matches a pattern character by character: `%` is any text, the empty one included, `_` any one character,
every other character one that is equal to it under simple case folding. -/
inductive Covers : List Char → List Char → Prop
  | nil : Covers [] []
  | run (any : List Char) {pattern text : List Char} (h : Covers pattern text) : Covers ('%' :: pattern) (any ++ text)
  | one (any : Char) {pattern text : List Char} (h : Covers pattern text) : Covers ('_' :: pattern) (any :: text)
  | same {c x : Char} {pattern text : List Char} (hrun : c ≠ '%') (hone : c ≠ '_') (hfold : Text.fold x = Text.fold c)
      (h : Covers pattern text) : Covers (c :: pattern) (x :: text)

/-- a subject a pattern stands for: what the pattern covers, and white space -/
def Declared (pattern subject : List Char) : Prop :=
  ∃ body blanks, subject = body ++ blanks ∧ (∀ x ∈ blanks, Text.isBlank x = true) ∧ Covers pattern body

theorem declared_nil {subject : List Char} : Declared [] subject ↔ ∀ x ∈ subject, Text.isBlank x = true := by
  constructor
  · rintro ⟨body, blanks, rfl, hblanks, ⟨⟩⟩
    exact hblanks
  · intro h
    exact ⟨[], subject, rfl, h, .nil⟩

theorem declared_run {pattern subject : List Char} :
    Declared ('%' :: pattern) subject ↔ ∃ any rest, subject = any ++ rest ∧ Declared pattern rest := by
  constructor
  · rintro ⟨body, blanks, rfl, hblanks, hcovers⟩
    cases hcovers with
    | run any h => exact ⟨any, _, List.append_assoc _ _ _, _, blanks, rfl, hblanks, h⟩
    | same hrun => exact absurd rfl hrun
  · rintro ⟨any, _, rfl, body, blanks, rfl, hblanks, h⟩
    exact ⟨any ++ body, blanks, (List.append_assoc _ _ _).symm, hblanks, .run any h⟩

theorem declared_one {pattern subject : List Char} :
    Declared ('_' :: pattern) subject ↔ ∃ any rest, subject = any :: rest ∧ Declared pattern rest := by
  constructor
  · rintro ⟨body, blanks, rfl, hblanks, hcovers⟩
    cases hcovers with
    | one any h => exact ⟨any, _, rfl, _, blanks, rfl, hblanks, h⟩
    | same _ hone => exact absurd rfl hone
  · rintro ⟨any, _, rfl, body, blanks, rfl, hblanks, h⟩
    exact ⟨any :: body, blanks, rfl, hblanks, .one any h⟩

theorem declared_same {c : Char} (hrun : c ≠ '%') (hone : c ≠ '_') {pattern subject : List Char} :
    Declared (c :: pattern) subject ↔
      ∃ x rest, subject = x :: rest ∧ Text.fold x = Text.fold c ∧ Declared pattern rest := by
  constructor
  · rintro ⟨body, blanks, rfl, hblanks, hcovers⟩
    cases hcovers with
    | run => exact absurd rfl hrun
    | one => exact absurd rfl hone
    | same _ _ hfold h => exact ⟨_, _, rfl, hfold, _, blanks, rfl, hblanks, h⟩
  · rintro ⟨x, _, rfl, hfold, body, blanks, rfl, hblanks, h⟩
    exact ⟨x :: body, blanks, rfl, hblanks, .same hrun hone hfold h⟩

/-! ## Reading the text -/

/-- no expression of a character starts with a sign that says how often what stands before it is repeated -/
theorem exprChar_head (c : Char) : ∃ x xs, exprChar c = x :: xs ∧ x ≠ '*' ∧ x ≠ '?' := by
  unfold exprChar
  split_ifs with hone hrun hoperator
  · exact ⟨'.', [], rfl, by decide⟩
  · exact ⟨'.', ['*'], rfl, by decide⟩
  · exact ⟨'\\', [c], rfl, by decide⟩
  · refine ⟨c, [], rfl, ?_, ?_⟩
    · rintro rfl
      exact hoperator (by decide)
    · rintro rfl
      exact hoperator (by decide)

def ending : List Char := ['\\', 's', '*', '\\', 'z']

theorem expression_head (s : List Char) : ∃ x xs, s.flatMap exprChar ++ ending = x :: xs ∧ x ≠ '*' ∧ x ≠ '?' := by
  cases s with
  | nil => exact ⟨'\\', _, rfl, by decide⟩
  | cons c s =>
    obtain ⟨x, xs, hc, hx⟩ := exprChar_head c
    exact ⟨x, xs ++ (s.flatMap exprChar ++ ending), by simp [hc], hx⟩

/-- a reader outside of groups, at a place with what follows and the parts read so far, latest first -/
def readerAt (pos : ℕ) (rest : List Char) (parts : List Term) : Reader :=
  ⟨⟨pos, rest, false⟩, ⟨0, [], 0, parts⟩, [], []⟩

/-- with rounds enough for what follows, the first reader comes to where the second one is -/
def GoesTo (r s : Reader) : Prop :=
  ∀ fuel, r.cursor.rest.length < fuel → ∃ left, s.cursor.rest.length < left ∧ r.run fuel = s.run left

theorem GoesTo.refl (r : Reader) : GoesTo r r := fun fuel h => ⟨fuel, h, rfl⟩

theorem GoesTo.trans {r s t : Reader} (hrs : GoesTo r s) (hst : GoesTo s t) : GoesTo r t := by
  intro fuel hfuel
  obtain ⟨left, hleft, h⟩ := hrs fuel hfuel
  obtain ⟨left', hleft', h'⟩ := hst left hleft
  exact ⟨left', hleft', h.trans h'⟩

/-- one round -/
theorem goesTo_of_step {pos pos' : ℕ} {c : Char} {rest rest' : List Char} {parts parts' : List Term}
    (h : (readerAt pos (c :: rest) parts).step c = .ok (readerAt pos' rest' parts'))
    (hrest : rest'.length ≤ rest.length) :
    GoesTo (readerAt pos (c :: rest) parts) (readerAt pos' rest' parts') := by
  intro fuel hfuel
  cases fuel with
  | zero => exact absurd hfuel (Nat.not_lt_zero _)
  | succ fuel =>
    have hround : Reader.run (fuel + 1) (readerAt pos (c :: rest) parts) =
        ((readerAt pos (c :: rest) parts).step c).bind (Reader.run fuel) := rfl
    refine ⟨fuel, lt_of_le_of_lt hrest (Nat.lt_of_succ_lt_succ hfuel), ?_⟩
    rw [hround, h]
    rfl

/-- a character that is no operator is read as itself -/
theorem step_plain {c : Char} (hc : c ∉ operators) (pos : ℕ) (rest : List Char) (parts : List Term) :
    (readerAt pos (c :: rest) parts).step c =
      .ok (readerAt (pos + 1) rest (.literal ⟨⟨pos, pos + 1⟩, c, false⟩ :: parts)) := by
  have hne : ∀ x ∈ operators, c ≠ x := by
    rintro x hx rfl
    exact hc hx
  have hatom : readAtom (readerAt pos (c :: rest) parts).cursor =
      .ok (.literal ⟨⟨pos, pos + 1⟩, c, false⟩, ⟨pos + 1, rest, false⟩) := by
    have hnext : (readerAt pos (c :: rest) parts).cursor.next? = some c := rfl
    rw [readAtom, hnext]
    split
    · exact absurd (Option.some.inj ‹_›) (hne '\\' (by decide))
    · exact absurd (Option.some.inj ‹_›) (hne '.' (by decide))
    · exact absurd (Option.some.inj ‹_›) (hne '^' (by decide))
    · exact absurd (Option.some.inj ‹_›) (hne '$' (by decide))
    · obtain rfl := Option.some.inj ‹_›
      rfl
    · cases ‹some c = none›
  rw [Reader.step, hatom]
  · rfl
  all_goals exact hne _ (by decide)

/-- what an escaped operator is not: nothing but the operator itself -/
theorem operators_plain : ∀ c ∈ operators, Text.isDigit c = false ∧ c ∉ ['x', 'u', 'U', 'p', 'P'] ∧
    shorthand? c = none ∧ control? c = none ∧ assertion? c = none ∧ isEscapable c = true := by
  refine List.forall_iff_forall_mem.1 ?_
  decide

theorem step_escaped {c : Char} (hc : c ∈ operators) (pos : ℕ) (rest : List Char) (parts : List Term) :
    (readerAt pos ('\\' :: c :: rest) parts).step '\\' =
      .ok (readerAt (pos + 2) rest (.literal ⟨⟨pos, pos + 2⟩, c, false⟩ :: parts)) := by
  obtain ⟨hdigit, hletter, hshorthand, hcontrol, hassertion, hescapable⟩ := operators_plain c hc
  simp only [List.mem_cons, List.not_mem_nil, or_false, not_or] at hletter
  have hescape : readEscape ⟨pos, '\\' :: c :: rest, false⟩ =
      .ok (.literal ⟨⟨pos, pos + 2⟩, c, false⟩, ⟨pos + 2, rest, false⟩) := by
    have hnext : (Cursor.bump ⟨pos, '\\' :: c :: rest, false⟩).next? = some c := rfl
    simp only [readEscape, hnext, hdigit, hletter, hshorthand, hcontrol, hassertion, hescapable]
    rfl
  change (readEscape ⟨pos, '\\' :: c :: rest, false⟩).map _ = _
  rw [hescape]
  rfl

theorem goesTo_dot (pos : ℕ) (rest : List Char) (parts : List Term) :
    GoesTo (readerAt pos ('.' :: rest) parts) (readerAt (pos + 1) rest (.dot ⟨pos, pos + 1⟩ :: parts)) :=
  goesTo_of_step rfl (le_refl _)

/-- a sign of repetition that no question mark follows -/
theorem step_star {x : Char} (hx : x ≠ '?') (pos : ℕ) (rest : List Char) {t : Term} (ht : ∀ s items, t ≠ .flags s items)
    (parts : List Term) : (readerAt pos ('*' :: x :: rest) (t :: parts)).step '*' =
      .ok (readerAt (pos + 1) (x :: rest) (.repeated ⟨t.span.start, pos + 1⟩ 0 none t :: parts)) := by
  have hoperand : (readerAt pos ('*' :: x :: rest) (t :: parts)).operand = .ok (t, ⟨0, [], 0, parts⟩) := by
    unfold Reader.operand
    cases t with
    | flags s items => exact absurd rfl (ht s items)
    | _ => rfl
  have hnext : (Cursor.bump ⟨pos, '*' :: x :: rest, false⟩).next? ≠ some '?' := by
    intro h
    exact hx (Option.some.inj h)
  change (readerAt pos ('*' :: x :: rest) (t :: parts)).simpleRepetition 0 none = _
  rw [Reader.simpleRepetition, hoperand]
  change Except.ok (Reader.repeatOperand _ t _ 0 none (Cursor.bump ⟨pos, '*' :: x :: rest, false⟩)) = _
  rw [Reader.repeatOperand, if_neg hnext]
  rfl

/-! ## Compiling what was read -/

/-- the flags after the start of an expression -/
def inside : Flags := ⟨true, false, true, true, false⟩

def anyChar : CharClass := .negation (.ranges [])

/-- the class of a character with case ignored; one that has no other case is alone in it -/
def sameChar (c : Char) : CharClass :=
  if (CharClass.caseVariants c.toNat).any (· != c.toNat) then .folded (.single c.toNat) else .single c.toNat

/-- what a pattern character is compiled to -/
def charExpression (c : Char) : Pattern :=
  if c = '_' then .one anyChar else if c = '%' then .times (.one anyChar) 0 none else .one (sameChar c)

/-- white space up to the end of the text -/
def blanksToEnd : Pattern := .seq (.times (.one (.ranges Text.blankRanges)) 0 none) (.look .textEnd)

def restExpression (pattern : List Char) : Pattern :=
  pattern.foldr (fun c rest => .seq (charExpression c) rest) blanksToEnd

def expression (pattern : String) : Pattern :=
  .seq .empty (.seq (.look .textStart) (restExpression pattern.toList))

/-- a part that a pattern character was read as -/
structure IsTermOf (c : Char) (t : Term) : Prop where
  compiled : t.compile inside = .ok (charExpression c, inside)
  flat : t.tooDeep 1 = none

theorem isTermOf_one (span : Span) : IsTermOf '_' (.dot span) where
  compiled := rfl
  flat := rfl

theorem isTermOf_run (span span' : Span) : IsTermOf '%' (.repeated span 0 none (.dot span')) where
  compiled := rfl
  flat := rfl

theorem isTermOf_same {c : Char} (hone : c ≠ '_') (hrun : c ≠ '%') (span : Span) :
    IsTermOf c (.literal ⟨span, c, false⟩) where
  compiled := by
    rw [charExpression, if_neg hone, if_neg hrun]
    rfl
  flat := rfl

/-! ## The whole text -/

/-- a pattern character is read as one part -/
theorem goesTo_exprChar (c : Char) {x : Char} (hmark : x ≠ '?') (pos : ℕ) (rest : List Char)
    (parts : List Term) : ∃ t pos', IsTermOf c t ∧
      GoesTo (readerAt pos (exprChar c ++ x :: rest) parts) (readerAt pos' (x :: rest) (t :: parts)) := by
  unfold exprChar
  split_ifs with hone hrun hoperator
  · subst hone
    exact ⟨_, _, isTermOf_one _, goesTo_dot pos (x :: rest) parts⟩
  · subst hrun
    have hstep := step_star hmark (pos + 1) rest (t := .dot ⟨pos, pos + 1⟩) (by simp) parts
    exact ⟨_, _, isTermOf_run _ _,
      (goesTo_dot pos ('*' :: x :: rest) parts).trans (goesTo_of_step hstep (le_refl _))⟩
  · exact ⟨_, _, isTermOf_same hone hrun _, goesTo_of_step (step_escaped hoperator pos (x :: rest) parts) (by simp)⟩
  · exact ⟨_, _, isTermOf_same hone hrun _, goesTo_of_step (step_plain hoperator pos (x :: rest) parts) (le_refl _)⟩

theorem goesTo_pattern (pattern : List Char) (pos : ℕ) (parts : List Term) :
    ∃ ts pos', List.Forall₂ IsTermOf pattern ts ∧
      GoesTo (readerAt pos (pattern.flatMap exprChar ++ ending) parts) (readerAt pos' ending (ts.reverse ++ parts)) := by
  induction pattern generalizing pos parts with
  | nil => exact ⟨[], pos, .nil, .refl _⟩
  | cons c pattern ih =>
    obtain ⟨x, xs, hhead, -, hmark⟩ := expression_head pattern
    obtain ⟨t, pos', ht, hc⟩ := goesTo_exprChar c hmark pos xs parts
    obtain ⟨ts, pos'', hts, hpattern⟩ := ih pos' (t :: parts)
    refine ⟨t :: ts, pos'', .cons ht hts, ?_⟩
    rw [List.flatMap_cons, List.append_assoc, hhead, List.reverse_cons, List.append_assoc]
    rw [hhead] at hpattern
    exact hc.trans hpattern

/-- what is read before a pattern: the flags and the start of the text -/
theorem goesTo_start (rest : List Char) : ∃ span span' a b,
    GoesTo (readerAt 0 ("(?is)\\A".toList ++ rest) []) (readerAt 7 rest
      [.assertion span .textStart, .flags span' [⟨a, some .ignoreCase⟩, ⟨b, some .dotAll⟩]]) := by
  have hflags : ∃ span a b, (readerAt 0 ("(?is)\\A".toList ++ rest) []).step '(' =
      .ok (readerAt 5 ('\\' :: 'A' :: rest) [.flags span [⟨a, some .ignoreCase⟩, ⟨b, some .dotAll⟩]]) :=
    ⟨_, _, _, rfl⟩
  obtain ⟨span', a, b, hflags⟩ := hflags
  have hstart : (readerAt 5 ('\\' :: 'A' :: rest) [.flags span' [⟨a, some .ignoreCase⟩, ⟨b, some .dotAll⟩]]).step '\\' =
    .ok (readerAt 7 rest [.assertion ⟨5, 7⟩ .textStart, .flags span' [⟨a, some .ignoreCase⟩, ⟨b, some .dotAll⟩]]) := rfl
  refine ⟨⟨5, 7⟩, span', a, b, ?_⟩
  exact (goesTo_of_step hflags (by simp)).trans (goesTo_of_step hstart (by simp))

/-- what is read after a pattern: white space and the end of the text -/
theorem goesTo_ending (pos : ℕ) (parts : List Term) : ∃ span span' span'' pos',
    GoesTo (readerAt pos ending parts) (readerAt pos' []
      (.assertion span .textEnd :: .repeated span' 0 none (.shorthand span'' .space false) :: parts)) := by
  have hspace : (readerAt pos ending parts).step '\\' =
      .ok (readerAt (pos + 2) ['*', '\\', 'z'] (.shorthand ⟨pos, pos + 2⟩ .space false :: parts)) := rfl
  have hstar := step_star (x := '\\') (by decide) (pos + 2) ['z'] (t := .shorthand ⟨pos, pos + 2⟩ .space false) (by simp)
    parts
  have hend : ∀ parts, (readerAt (pos + 3) ['\\', 'z'] parts).step '\\' =
      .ok (readerAt (pos + 5) [] (.assertion ⟨pos + 3, pos + 5⟩ .textEnd :: parts)) := fun parts => rfl
  exact ⟨_, _, _, _, (goesTo_of_step hspace (by simp)).trans
    ((goesTo_of_step hstar (by simp)).trans (goesTo_of_step (hend _) (by simp)))⟩

theorem compileParts_cons {f g h : Flags} {t : Term} {rest : List Term} {p q : Pattern} (hrest : rest ≠ [])
    (ht : t.compile f = .ok (p, g)) (hq : Term.compileParts g rest = .ok (q, h)) :
    Term.compileParts f (t :: rest) = .ok (.seq p q, h) := by
  rw [Term.compileParts, ht]
  · change (Term.compileParts g rest).bind _ = _
    rw [hq]
    rfl
  · exact hrest

theorem compileParts_pattern {pattern : List Char} {ts : List Term} (hts : List.Forall₂ IsTermOf pattern ts)
    {t : Term} {tail : List Term} (htail : Term.compileParts inside (t :: tail) = .ok (blanksToEnd, inside)) :
    Term.compileParts inside (ts ++ t :: tail) = .ok (restExpression pattern, inside) := by
  induction hts with
  | nil => exact htail
  | cons hu hts ih => exact compileParts_cons (by simp) hu.compiled ih

theorem tooDeepIn_pattern {pattern : List Char} {ts : List Term} (hts : List.Forall₂ IsTermOf pattern ts)
    (tail : List Term) : Term.tooDeepIn 1 (ts ++ tail) = Term.tooDeepIn 1 tail := by
  induction hts with
  | nil => rfl
  | cons hu hts ih => simp [Term.tooDeepIn, hu.flat, ih]

/-- the parts of the expression of a pattern: the flags, the start of the text, the pattern's characters, white space and
the end of the text -/
inductive AreParts (pattern : List Char) : List Term → Prop
  | mk (flags start blanks space stop : Span) (folds dots : Span) {ts : List Term} (hts : List.Forall₂ IsTermOf pattern ts) :
      AreParts pattern (.flags flags [⟨folds, some .ignoreCase⟩, ⟨dots, some .dotAll⟩] :: .assertion start .textStart ::
        (ts ++ [.repeated blanks 0 none (.shorthand space .space false), .assertion stop .textEnd]))

theorem AreParts.compile {pattern : List Char} {parts : List Term} (h : AreParts pattern parts) :
    Term.compileParts .initial parts =
      .ok (.seq .empty (.seq (.look .textStart) (restExpression pattern)), inside) := by
  obtain ⟨s1, s2, s3, s4, s5, a, b, hts⟩ := h
  have hending : Term.compileParts inside [.repeated s3 0 none (.shorthand s4 .space false), .assertion s5 .textEnd] =
    .ok (blanksToEnd, inside) := rfl
  have hrest := compileParts_pattern hts hending
  exact compileParts_cons (by simp) rfl (compileParts_cons (by simp) rfl hrest)

theorem AreParts.flat {pattern : List Char} {parts : List Term} (h : AreParts pattern parts) :
    Term.tooDeepIn 1 parts = none := by
  obtain ⟨s1, s2, s3, s4, s5, a, b, hts⟩ := h
  exact tooDeepIn_pattern hts _

/-- the text is read to its end -/
theorem run_regexText (pattern : String) : ∃ span parts, AreParts pattern.toList parts ∧
    Reader.run ((regexText pattern).toList.length + 1) (readerAt 0 (regexText pattern).toList []) =
      .ok (.concat span parts) := by
  have htext : (regexText pattern).toList = "(?is)\\A".toList ++ (pattern.toList.flatMap exprChar ++ ending) := by
    simp [regexText, ending]
  obtain ⟨s1, s2, a, b, hstart⟩ := goesTo_start (pattern.toList.flatMap exprChar ++ ending)
  obtain ⟨ts, pos, hts, hpattern⟩ := goesTo_pattern pattern.toList 7
    [.assertion s1 .textStart, .flags s2 [⟨a, some .ignoreCase⟩, ⟨b, some .dotAll⟩]]
  obtain ⟨s3, s4, s5, pos', hending⟩ := goesTo_ending pos
    (ts.reverse ++ [.assertion s1 .textStart, .flags s2 [⟨a, some .ignoreCase⟩, ⟨b, some .dotAll⟩]])
  rw [htext]
  obtain ⟨left, hleft, hrun⟩ := hstart.trans (hpattern.trans hending) _ (Nat.lt_succ_self _)
  obtain ⟨left, rfl⟩ := Nat.exists_eq_succ_of_ne_zero (Nat.ne_of_gt hleft)
  refine ⟨⟨0, pos'⟩, _, ⟨s2, s1, s4, s5, s3, a, b, hts⟩, hrun.trans ?_⟩
  -- the parts were kept latest first
  have hdone : ∀ t u parts, Reader.run (left + 1) (readerAt pos' [] (t :: u :: parts)) =
      .ok (.concat ⟨0, pos'⟩ (t :: u :: parts).reverse) := fun _ _ _ => rfl
  rw [hdone]
  simp

/-- **The expression of a pattern.** Its text is read and compiled to the expressions of the pattern's characters between
the start of the text and white space up to its end. -/
theorem compile_regexText (pattern : String) :
    ((Term.read (regexText pattern)).bind fun t => t.compile .initial) = .ok (expression pattern, inside) := by
  obtain ⟨span, parts, hparts, hrun⟩ := run_regexText pattern
  have hread : Term.read (regexText pattern) = .ok (.concat span parts) := by
    change (Reader.run _ (readerAt 0 (regexText pattern).toList [])).bind _ = _
    rw [hrun]
    have hflat : (Term.concat span parts).tooDeep 0 = none := hparts.flat
    simp only [Except.bind, hflat]
    rfl
  rw [hread]
  exact hparts.compile

/-! ## What the expression matches -/

section Matching

variable {text : List Char} {i j : ℕ}

theorem drop_eq_cons {x : Char} {rest : List Char} (h : text.drop i = x :: rest) :
    text[i]? = some x ∧ rest = text.drop (i + 1) := by
  have hhead := List.head?_drop (l := text) (i := i)
  have htail := List.tail_drop (l := text) (i := i)
  rw [h] at hhead htail
  exact ⟨hhead.symm, htail⟩

theorem takes_one {c : CharClass} : (Pattern.one c).Takes text.toArray i j ↔
    ∃ x, text.drop i = x :: text.drop j ∧ c.has x.toNat = true ∧ j = i + 1 := by
  constructor
  · rintro ⟨rfl, x, hx, hhas⟩
    rw [List.getElem?_toArray] at hx
    exact ⟨x, List.drop_eq_getElem?_toList_append.trans (by rw [hx]; rfl), hhas, rfl⟩
  · rintro ⟨x, hdrop, hhas, rfl⟩
    refine ⟨rfl, x, ?_, hhas⟩
    rw [List.getElem?_toArray]
    exact (drop_eq_cons hdrop).1

theorem steps_one {c : CharClass} (n : ℕ) : Steps ((Pattern.one c).Takes text.toArray) n i j ↔
    ∃ x, text.drop i = x ++ text.drop j ∧ (∀ a ∈ x, c.has a.toNat = true) ∧ x.length = n ∧ j = i + n := by
  induction n generalizing i with
  | zero =>
    constructor
    · rintro rfl
      exact ⟨[], rfl, by simp, rfl, rfl⟩
    · rintro ⟨x, -, -, -, rfl⟩
      rfl
  | succ n ih =>
    constructor
    · rintro ⟨k, hk, hj⟩
      obtain ⟨a, ha, hhas, rfl⟩ := takes_one.1 hk
      obtain ⟨x, hx, hall, hlength, rfl⟩ := ih.1 hj
      refine ⟨a :: x, ?_, List.forall_mem_cons.2 ⟨hhas, hall⟩, by rw [List.length_cons, hlength], by omega⟩
      rw [ha, hx, List.cons_append]
    · rintro ⟨x, hx, hall, hlength, rfl⟩
      obtain ⟨a, x, rfl⟩ := List.exists_cons_of_length_eq_add_one hlength
      obtain ⟨hhas, hall⟩ := List.forall_mem_cons.1 hall
      have hrest := (drop_eq_cons hx).2
      refine ⟨i + 1, takes_one.2 ⟨a, hrest ▸ hx, hhas, rfl⟩, ih.2 ⟨x, hrest.symm, hall, by simpa using hlength, by omega⟩⟩

/-- what a repeated class takes: any row of its characters -/
theorem takes_run {c : CharClass} : (Pattern.times (.one c) 0 none).Takes text.toArray i j ↔
    ∃ x, text.drop i = x ++ text.drop j ∧ (∀ a ∈ x, c.has a.toNat = true) ∧ j = i + x.length := by
  constructor
  · rintro ⟨n, -, hn⟩
    rw [Nat.zero_add, steps_one] at hn
    obtain ⟨x, hx, hall, rfl, hj⟩ := hn
    exact ⟨x, hx, hall, hj⟩
  · rintro ⟨x, hx, hall, hj⟩
    refine ⟨x.length, by simp, ?_⟩
    rw [Nat.zero_add]
    exact (steps_one x.length).2 ⟨x, hx, hall, rfl, hj⟩

theorem has_anyChar (n : ℕ) : anyChar.has n = true := rfl

theorem has_single (m n : ℕ) : (CharClass.single m).has n = true ↔ n = m := by
  simp only [CharClass.single, CharClass.has, Text.CharSet.has]
  split_ifs with h
  · rw [decide_eq_true_eq]
    omega
  · simp only [false_iff]
    omega

theorem has_sameChar (c x : Char) : (sameChar c).has x.toNat = true ↔ Text.fold x = Text.fold c := by
  rw [CharClass.fold_eq_iff, ← CharClass.mem_caseVariants]
  unfold sameChar
  split_ifs with hvaries
  · rw [CharClass.has, List.any_eq_true]
    constructor
    · rintro ⟨m, hm, hc⟩
      rw [CharClass.mem_caseVariants] at hm ⊢
      rw [← (has_single _ _).1 hc, hm]
    · intro hx
      refine ⟨c.toNat, ?_, (has_single _ _).2 rfl⟩
      rw [CharClass.mem_caseVariants] at hx ⊢
      exact hx.symm
  · rw [has_single]
    constructor
    · intro hx
      rw [hx, CharClass.mem_caseVariants]
    · intro hx
      by_contra hne
      exact hvaries (List.any_eq_true.2 ⟨x.toNat, hx, by simpa using hne⟩)

/-- one character of a pattern, and what comes after it -/
theorem takes_charExpression (c : Char) (pattern : List Char) :
    (∃ k, (charExpression c).Takes text.toArray i k ∧ Declared pattern (text.drop k)) ↔
      Declared (c :: pattern) (text.drop i) := by
  by_cases hone : c = '_'
  · subst hone
    have hc : charExpression '_' = .one anyChar := rfl
    rw [hc, declared_one]
    constructor
    · rintro ⟨k, hk, h⟩
      obtain ⟨x, hx, -, -⟩ := takes_one.1 hk
      exact ⟨x, _, hx, h⟩
    · rintro ⟨x, rest, hx, h⟩
      obtain ⟨-, rfl⟩ := drop_eq_cons hx
      exact ⟨i + 1, takes_one.2 ⟨x, hx, has_anyChar _, rfl⟩, h⟩
  by_cases hrun : c = '%'
  · subst hrun
    have hc : charExpression '%' = .times (.one anyChar) 0 none := rfl
    rw [hc, declared_run]
    constructor
    · rintro ⟨k, hk, h⟩
      obtain ⟨x, hx, -, -⟩ := takes_run.1 hk
      exact ⟨x, _, hx, h⟩
    · rintro ⟨x, rest, hx, h⟩
      obtain rfl : text.drop (i + x.length) = rest := by rw [← List.drop_drop, hx, List.drop_left]
      exact ⟨i + x.length, takes_run.2 ⟨x, hx, fun a _ => has_anyChar _, rfl⟩, h⟩
  · have hc : charExpression c = .one (sameChar c) := by rw [charExpression, if_neg hone, if_neg hrun]
    rw [hc, declared_same hrun hone]
    constructor
    · rintro ⟨k, hk, h⟩
      obtain ⟨x, hx, hsame, -⟩ := takes_one.1 hk
      exact ⟨x, _, hx, (has_sameChar c x).1 hsame, h⟩
    · rintro ⟨x, rest, hx, hfold, h⟩
      obtain ⟨-, rfl⟩ := drop_eq_cons hx
      exact ⟨i + 1, takes_one.2 ⟨x, hx, (has_sameChar c x).2 hfold, rfl⟩, h⟩

/-- the rest of a pattern, from a place on -/
theorem takes_restExpression (pattern : List Char) (hi : i ≤ text.length) :
    (∃ j, (restExpression pattern).Takes text.toArray i j) ↔ Declared pattern (text.drop i) := by
  induction pattern generalizing i with
  | nil =>
    rw [declared_nil]
    constructor
    · rintro ⟨_, j, hj, -, hend⟩
      obtain ⟨x, hx, hall, -⟩ := takes_run.1 hj
      have hsize : j = text.length := by simpa [Look.holds] using hend
      rw [hx, hsize, List.drop_length, List.append_nil]
      exact hall
    · intro hall
      refine ⟨text.length, text.length, takes_run.2 ⟨text.drop i, ?_, hall, ?_⟩, rfl, ?_⟩
      · simp
      · rw [List.length_drop]
        omega
      · simp [Look.holds]
  | cons c pattern ih =>
    have hrest : restExpression (c :: pattern) = .seq (charExpression c) (restExpression pattern) := rfl
    have hforward := (charExpression c).takes_forward text.toArray
    rw [hrest, ← takes_charExpression]
    constructor
    · rintro ⟨j, k, hk, hj⟩
      exact ⟨k, hk, (ih (hforward.bounded hk hi)).1 ⟨j, hj⟩⟩
    · rintro ⟨k, hk, hdeclared⟩
      obtain ⟨j, hj⟩ := (ih (hforward.bounded hk hi)).2 hdeclared
      exact ⟨j, k, hk, hj⟩

/-- **What the expression matches.** It matches exactly the subjects the pattern stands for. -/
theorem matches_expression (pattern : String) (text : List Char) :
    (expression pattern).Matches text ↔ Declared pattern.toList text := by
  rw [← List.drop_zero (l := text), ← takes_restExpression pattern.toList (Nat.zero_le _)]
  constructor
  · rintro ⟨i, -, j, _, rfl, _, ⟨rfl, hstart⟩, hj⟩
    obtain rfl : i = 0 := by simpa [Look.holds] using hstart
    exact ⟨j, hj⟩
  · rintro ⟨j, hj⟩
    exact ⟨0, Nat.zero_le _, j, 0, rfl, 0, ⟨rfl, rfl⟩, hj⟩

end Matching

end SearchFilter.Like
