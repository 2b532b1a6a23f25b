/-
Rendered predicates can be read in one way only.

A provider sees the text of a predicate and nothing else, so two predicates must not share a text. The text of a
predicate is self-delimiting: whatever follows it, it is clear where it ends.
- `LeafStart.text_inj`, `LeafKind.middle_inj`: what stands before a field and what follows it tell the kind of a leaf.
- `plainName_of_resolve`: the field of a property has none of the characters that may follow a field.
- `LeafKind.text_inj`, `Expr.Printable.selfDelimiting`: leaves, and from them whole predicates, are read back together
  with what follows them.
- `render_injective`: compiled predicates with one text are the same predicate.
-/
import Mathlib
import SearchFilter.Proofs.Calls
import SearchFilter.Proofs.WellFormed
import SearchFilter.Proofs.Spelling
import SearchFilter.Strategy.Library

namespace SearchFilter

/-! ## Cutting texts -/

/-- a text is cut off at the first stop -/
theorem append_inj_of_stop {p : Char → Bool} {a b s t : List Char} (ha : ∀ c ∈ a, p c = true)
    (hb : ∀ c ∈ b, p c = true) (hs : ∀ c ∈ s.head?, p c = false) (ht : ∀ c ∈ t.head?, p c = false)
    (h : a ++ s = b ++ t) : a = b ∧ s = t := by
  obtain ⟨ha', hs'⟩ := takeWhile_append_stop ha hs
  obtain ⟨hb', ht'⟩ := takeWhile_append_stop hb ht
  exact ⟨ha'.symm.trans (h ▸ hb'), hs'.symm.trans (h ▸ ht')⟩

/-! ## Calls of the default strategies -/

/-- function that matches wildcards by default -/
def likeFunction : String := "ldap_predicate::strategy::like::DefaultLike::is_like"

/-- function that codes texts by default -/
def approximateFunction : String := "ldap_predicate::strategy::approximate::DefaultApproximate::encode"

/-- both strategies are called as the default ones are -/
structure Options.CallsDefaults (o : Options) : Prop where
  like : o.like.descriptor = Like.descriptor
  approximate : ∃ locale, o.approximate.descriptor = (Phonetic.strategy locale).descriptor

namespace Options.CallsDefaults

variable {o : Options}

theorem render_like (ho : o.CallsDefaults) (x y : String) :
    o.like.descriptor.render [x, y] = likeFunction ++ "(" ++ (x ++ ", " ++ y) ++ ")" := by
  have hplain : '{' ∉ likeFunction.toList := by
    rw [likeFunction, String.toList_ofList]
    decide
  have hdescriptor : o.like.descriptor = .ofSlots likeFunction 2 := ho.like
  rw [hdescriptor]
  exact Descriptor.render_ofSlots hplain [x, y]

theorem render_approximate (ho : o.CallsDefaults) (x : String) :
    o.approximate.descriptor.render [x] = approximateFunction ++ "(" ++ x ++ ")" := by
  obtain ⟨locale, happroximate⟩ := ho.approximate
  have hplain : '{' ∉ approximateFunction.toList := by
    rw [approximateFunction, String.toList_ofList]
    decide
  have hdescriptor : o.approximate.descriptor = .ofSlots approximateFunction 1 := happroximate
  rw [hdescriptor]
  exact Descriptor.render_ofSlots hplain [x]

end Options.CallsDefaults

theorem functions_distinct (s t : List Char) : likeFunction.toList ++ s ≠ approximateFunction.toList ++ t := by
  intro h
  rw [likeFunction, approximateFunction, String.toList_ofList, String.toList_ofList] at h
  -- the functions part ways after the 26 characters of `ldap_predicate::strategy::`
  have hletter : some 'l' = some 'a' := congrArg (fun text : List Char => text[26]?) h
  exact absurd hletter (by decide)

/-! ## Kinds of leaves -/

/-- what may stand before a field -/
inductive LeafStart where
  | field
  | like
  | notLike
  | approximate
  | decimal
  deriving DecidableEq

namespace LeafStart

def text : LeafStart → String
  | field => "m."
  | like => likeFunction ++ "(m."
  | notLike => "!" ++ likeFunction ++ "(m."
  | approximate => approximateFunction ++ "(m."
  | decimal => "decimal(m."

def initial : LeafStart → Char
  | field => 'm'
  | like => 'l'
  | notLike => '!'
  | approximate => 'l'
  | decimal => 'd'

theorem head_text (a : LeafStart) (s : List Char) : (a.text.toList ++ s).head? = some a.initial := by
  cases a with
  | field => rfl
  | like => rw [text, String.toList_append, likeFunction, String.toList_ofList]; rfl
  | notLike => rw [text, String.toList_append, String.toList_append, String.toList_ofList]; rfl
  | approximate => rw [text, String.toList_append, approximateFunction, String.toList_ofList]; rfl
  | decimal => rfl

/-- a start is cut off what follows it -/
theorem text_inj {a b : LeafStart} {s t : List Char} (h : a.text.toList ++ s = b.text.toList ++ t) : a = b ∧ s = t := by
  have hinitial : a.initial = b.initial := by
    have hheads := congrArg List.head? h
    rw [head_text, head_text] at hheads
    exact Option.some.inj hheads
  have hcases : a = b ∨ (a = like ∧ b = approximate) ∨ (a = approximate ∧ b = like) := by
    revert hinitial
    cases a <;> cases b <;> decide
  have hcalls : ∀ s t : List Char, like.text.toList ++ s ≠ approximate.text.toList ++ t := by
    intro s t heq
    rw [text, text, String.toList_append, String.toList_append, List.append_assoc, List.append_assoc] at heq
    exact functions_distinct _ _ heq
  rcases hcases with rfl | ⟨rfl, rfl⟩ | ⟨rfl, rfl⟩
  · exact ⟨rfl, List.append_cancel_left h⟩
  · exact absurd h (hcalls s t)
  · exact absurd h.symm (hcalls t s)

end LeafStart

/-- leaves, told apart by the texts around the field and the value -/
inductive LeafKind where
  | presence (negated : Bool)
  | equality (foldCase negated : Bool)
  | like (negated : Bool)
  | approximate (negated : Bool)
  | ordering (op : NumericOp)
  deriving DecidableEq

namespace LeafKind

def expr : LeafKind → String → String → Expr
  | presence false, field, _ => .present field
  | presence true, field, _ => .absent field
  | equality foldCase negated, field, value => .equals field value foldCase negated
  | like negated, field, value => .like field value negated
  | approximate negated, field, value => .approximate field value negated
  | ordering op, field, value => .compare field op value

def start : LeafKind → LeafStart
  | presence _ => .field
  | equality _ _ => .field
  | like negated => if negated then .notLike else .like
  | approximate _ => .approximate
  | ordering _ => .decimal

/-- text after the field, as far as it is needed to settle the kind -/
def middle : LeafKind → String
  | presence negated => " " ++ Expr.equalitySign (!negated) ++ " null"
  | equality foldCase negated =>
    (if foldCase then ".to_lowercase()" else "") ++ " " ++ Expr.equalitySign negated ++ " \""
  | like _ => ", \""
  | approximate negated => ") " ++ Expr.equalitySign negated ++ " "
  | ordering op => ") " ++ op.symbol ++ " "

def ending : LeafKind → String → String
  | presence _, _ => ""
  | equality _ _, value => value ++ "\""
  | like _, value => value ++ "\")"
  | approximate _, value => approximateFunction ++ "(\"" ++ value ++ "\")"
  | ordering _, value => "decimal(\"" ++ value ++ "\")"

def all : List LeafKind :=
  [presence false, presence true, equality false false, equality false true, equality true false, equality true true,
    like false, like true, approximate false, approximate true, ordering .less, ordering .lessOrEqual, ordering .greater,
    ordering .greaterOrEqual]

theorem mem_all (k : LeafKind) : k ∈ all := by
  rcases k with (_ | _) | ⟨_ | _, _ | _⟩ | (_ | _) | (_ | _) | (_ | _ | _ | _) <;> decide

/-- kinds that start in the same way are told apart by what follows the field -/
theorem middle_distinct : ∀ k ∈ all, ∀ k' ∈ all,
    k.start = k'.start → k.middle.toList <+: k'.middle.toList → k = k' := by
  decide +kernel

/-- a middle is cut off what follows it -/
theorem middle_inj {k k' : LeafKind} {s t : List Char} (hstart : k.start = k'.start)
    (h : k.middle.toList ++ s = k'.middle.toList ++ t) : k = k' ∧ s = t := by
  have heq : k = k' := by
    rcases List.append_eq_append_iff.1 h with ⟨more, hmiddle, -⟩ | ⟨more, hmiddle, -⟩
    · exact middle_distinct k (mem_all k) k' (mem_all k') hstart ⟨more, hmiddle.symm⟩
    · exact (middle_distinct k' (mem_all k') k (mem_all k) hstart.symm ⟨more, hmiddle.symm⟩).symm
  subst heq
  exact ⟨rfl, List.append_cancel_left h⟩

/-- what a field may be followed by -/
def delimiters : List Char := [' ', '.', ',', ')']

theorem middle_head (k : LeafKind) : ∃ c ∈ delimiters, k.middle.toList.head? = some c := by
  cases k with
  | presence negated => exact ⟨' ', by decide, by simp [middle]⟩
  | equality foldCase negated =>
    cases foldCase with
    | false => exact ⟨' ', by decide, by simp [middle]⟩
    | true => exact ⟨'.', by decide, by simp [middle]⟩
  | like negated => exact ⟨',', by decide, by simp [middle]⟩
  | approximate negated => exact ⟨')', by decide, by simp [middle]⟩
  | ordering op => exact ⟨')', by decide, by simp [middle]⟩

end LeafKind

/-! ## Fields and values -/

/-- a field that ends where a delimiter stands -/
def PlainName (field : String) : Prop := ∀ c ∈ LeafKind.delimiters, c ∉ field.toList

/-- a value that ends where a quote stands -/
def PlainValue (value : String) : Prop := '"' ∉ value.toList

/-- lowering neither makes nor loses a delimiter, and no property has one -/
theorem delimiters_plain {c : Char} (hc : c ∈ LeafKind.delimiters) :
    Text.IsFixed c ∧ Tile.isPropertyChar c = false := by
  have hall : LeafKind.delimiters.all
      (fun c => c < 'a' && Text.lowerChar c == [c] && !Tile.isPropertyChar c) = true := by
    decide +kernel
  have hplain := List.all_eq_true.1 hall c hc
  simp only [Bool.and_eq_true, decide_eq_true_eq, beq_iff_eq, Bool.not_eq_true'] at hplain
  exact ⟨⟨hplain.1.1, hplain.1.2⟩, hplain.2⟩

/-- the field of a property is a spelling of it, so it has no character that a property cannot have in any spelling -/
theorem plainName_of_resolve {names : List String} {property : List Char} {field : String}
    (hchars : ∀ c ∈ property, Tile.isPropertyChar c = true)
    (h : (Schema.ofNames names).resolve (String.ofList property) = some field) : PlainName field := by
  intro c hc hmem
  obtain ⟨hfixed, hforeign⟩ := delimiters_plain hc
  rw [Schema.resolve_ofNames] at h
  have hlower : Text.lower field.toList = Text.lower property := by
    have hspelling := of_decide_eq_true (List.mem_filter.1 (List.mem_of_getLast? h)).2
    rw [Text.lowercase, Text.lowercase, String.ofList_inj, String.toList_ofList] at hspelling
    exact hspelling
  have hcount : field.toList.count c = property.count c := by
    rw [← Text.count_lower hfixed, hlower, Text.count_lower hfixed]
  have hproperty : c ∈ property := List.count_pos_iff.1 (hcount ▸ List.count_pos_iff.2 hmem)
  exact Bool.false_ne_true (hforeign.symm.trans (hchars c hproperty))

theorem IsLiteral.plainValue {value : String} (h : IsLiteral value) : PlainValue value := by
  intro hquote
  exact absurd (h.chars '"' hquote) (by decide)

theorem IsPattern.plainValue {pattern : String} (h : IsPattern pattern) : PlainValue pattern := by
  intro hquote
  exact absurd (h.chars '"' hquote) (by decide)

/-! ## Texts of leaves -/

namespace LeafKind

/-- a leaf is rendered as the texts of its kind around field and value -/
theorem render_expr {o : Options} (ho : o.CallsDefaults) (k : LeafKind) (field value : String) :
    ((k.expr field value).render o).toList =
      k.start.text.toList ++ (field.toList ++ (k.middle.toList ++ (k.ending value).toList)) := by
  cases k with
  | presence negated =>
    cases negated <;> simp [expr, Expr.render, start, LeafStart.text, middle, ending, Expr.fieldText, Expr.equalitySign]
  | equality foldCase negated =>
    simp [expr, Expr.render, start, LeafStart.text, middle, ending, Expr.fieldText, Expr.literalText]
  | like negated =>
    cases negated <;>
      simp [expr, Expr.render, ho.render_like, start, LeafStart.text, middle, ending, Expr.fieldText, Expr.literalText]
  | approximate negated =>
    simp [expr, Expr.render, ho.render_approximate, start, LeafStart.text, middle, ending, Expr.fieldText, Expr.literalText]
  | ordering op =>
    simp [expr, Expr.render, start, LeafStart.text, middle, ending, Expr.fieldText, Expr.literalText]

/-- a field is cut off at the delimiter after it -/
theorem field_inj {k k' : LeafKind} {field field' : String} {s t : List Char} (hfield : PlainName field)
    (hfield' : PlainName field')
    (h : field.toList ++ (k.middle.toList ++ s) = field'.toList ++ (k'.middle.toList ++ t)) :
    field = field' ∧ k.middle.toList ++ s = k'.middle.toList ++ t := by
  have hplain : ∀ {name : String}, PlainName name → ∀ c ∈ name.toList, (!delimiters.contains c) = true := by
    intro name hname c hc
    simpa using fun hmem => hname c hmem hc
  have hstop : ∀ (k : LeafKind) (rest : List Char), ∀ c ∈ (k.middle.toList ++ rest).head?,
      (!delimiters.contains c) = false := by
    intro k rest c hc
    obtain ⟨d, hd, hhead⟩ := k.middle_head
    rw [List.head?_append, hhead, Option.some_or] at hc
    obtain rfl : d = c := Option.some.inj hc
    simpa using hd
  obtain ⟨hnames, hrest⟩ := append_inj_of_stop (hplain hfield) (hplain hfield') (hstop k s) (hstop k' t) h
  exact ⟨String.toList_inj.1 hnames, hrest⟩

/-- a value is cut off at the quote after it -/
theorem value_inj {value value' : String} {s t : List Char} (hvalue : PlainValue value) (hvalue' : PlainValue value')
    (h : value.toList ++ '"' :: s = value'.toList ++ '"' :: t) : value = value' ∧ s = t := by
  have hplain : ∀ {v : String}, PlainValue v → ∀ c ∈ v.toList, (c != '"') = true := by
    intro v hv c hc
    exact bne_iff_ne.2 fun heq => hv (heq ▸ hc)
  obtain ⟨hvalues, hrest⟩ := append_inj_of_stop (hplain hvalue) (hplain hvalue') (by simp) (by simp) h
  exact ⟨String.toList_inj.1 hvalues, (List.cons.inj hrest).2⟩

/-- the end of a leaf is cut off what follows it -/
theorem ending_inj {k : LeafKind} {field value value' : String} {s t : List Char} (hvalue : PlainValue value)
    (hvalue' : PlainValue value') (h : (k.ending value).toList ++ s = (k.ending value').toList ++ t) :
    k.expr field value = k.expr field value' ∧ s = t := by
  have hcall : ∀ {s t : List Char}, value.toList ++ '"' :: ')' :: s = value'.toList ++ '"' :: ')' :: t →
      value = value' ∧ s = t := by
    intro s t hst
    obtain ⟨heq, hrest⟩ := value_inj hvalue hvalue' hst
    exact ⟨heq, (List.cons.inj hrest).2⟩
  cases k with
  | presence negated => exact ⟨by cases negated <;> rfl, List.append_cancel_left h⟩
  | equality foldCase negated =>
    obtain ⟨rfl, rfl⟩ := value_inj hvalue hvalue' (by simpa [ending] using h)
    exact ⟨rfl, rfl⟩
  | like negated =>
    obtain ⟨rfl, rfl⟩ := hcall (by simpa [ending] using h)
    exact ⟨rfl, rfl⟩
  | approximate negated =>
    obtain ⟨rfl, rfl⟩ := hcall (by simpa [ending] using h)
    exact ⟨rfl, rfl⟩
  | ordering op =>
    obtain ⟨rfl, rfl⟩ := hcall (by simpa [ending] using h)
    exact ⟨rfl, rfl⟩

/-- **Leaves.** A leaf is read back from its text, together with what follows it. -/
theorem text_inj {o : Options} (ho : o.CallsDefaults) {k k' : LeafKind} {field field' value value' : String}
    {s t : List Char} (hfield : PlainName field) (hfield' : PlainName field') (hvalue : PlainValue value)
    (hvalue' : PlainValue value')
    (h : ((k.expr field value).render o).toList ++ s = ((k'.expr field' value').render o).toList ++ t) :
    k.expr field value = k'.expr field' value' ∧ s = t := by
  rw [render_expr ho, render_expr ho] at h
  simp only [List.append_assoc] at h
  obtain ⟨hstart, hfields⟩ := LeafStart.text_inj h
  obtain ⟨rfl, hmiddles⟩ := field_inj hfield hfield' hfields
  obtain ⟨rfl, hendings⟩ := middle_inj hstart hmiddles
  exact ending_inj hvalue hvalue' hendings

end LeafKind

/-! ## Texts of predicates -/

namespace Expr

/-- leaves with plain names and values, and groups of two or more parts -/
inductive Printable : Expr → Prop
  | leaf (k : LeafKind) {field value : String} (name : PlainName field) (plain : PlainValue value) :
      Printable (k.expr field value)
  | group (conjunctive : Bool) {es : List Expr} (two : 2 ≤ es.length) (parts : ∀ e ∈ es, Printable e) :
      Printable (join conjunctive es)

theorem WellFormed.printable {foldCase : Bool} {e : Expr} (h : e.WellFormed PlainName foldCase) : Printable e := by
  have hempty : PlainValue "" := by simp [PlainValue]
  induction h with
  | present name => exact .leaf (.presence false) name hempty
  | absent name => exact .leaf (.presence true) name hempty
  | equals name literal _ => exact .leaf (.equality _ _) name literal.plainValue
  | like name pieces => exact .leaf (.like _) name pieces.plainValue
  | approximate name literal => exact .leaf (.approximate _) name literal.plainValue
  | compare name literal => exact .leaf (.ordering _) name literal.plainValue
  | and two _ ih => exact .group true two ih
  | or two _ ih => exact .group false two ih

/-- text between the parts of a group -/
def separator (conjunctive : Bool) : List Char := if conjunctive then " && ".toList else " || ".toList

theorem separator_inj {conjunctive conjunctive' : Bool} {s t : List Char}
    (h : separator conjunctive ++ s = separator conjunctive' ++ t) : conjunctive = conjunctive' ∧ s = t := by
  cases conjunctive <;> cases conjunctive' <;> simp [separator] at h ⊢
  · exact h
  · exact h

/-- the parts of a group after the first, each behind a separator -/
def rowText (o : Options) (conjunctive : Bool) (es : List Expr) : List Char :=
  es.flatMap fun e => separator conjunctive ++ (e.render o).toList

theorem rowText_cons (o : Options) (conjunctive : Bool) (e : Expr) (es : List Expr) (s : List Char) :
    rowText o conjunctive (e :: es) ++ s =
      separator conjunctive ++ ((e.render o).toList ++ (rowText o conjunctive es ++ s)) := by
  simp [rowText]

/-- a part is not to be taken for the end of its group -/
theorem rowText_ne_closing (o : Options) (conjunctive : Bool) (e : Expr) (es : List Expr) (s t : List Char) :
    rowText o conjunctive (e :: es) ++ s ≠ ')' :: t := by
  intro h
  have hhead := congrArg List.head? h
  rw [rowText_cons] at hhead
  cases conjunctive with
  | false => exact absurd (Option.some.inj hhead) (by decide)
  | true => exact absurd (Option.some.inj hhead) (by decide)

theorem intercalate_cons_eq (sep x : List Char) (xs : List (List Char)) :
    sep.intercalate (x :: xs) = x ++ xs.flatMap (sep ++ ·) := by
  induction xs generalizing x with
  | nil => simp
  | cons y ys ih => simp [List.intercalate_cons_cons, ih]

@[simp]
theorem renderAll_eq (o : Options) (es : List Expr) : renderAll o es = es.map (render o) := by
  induction es with
  | nil => simp [renderAll]
  | cons e es ih => simp [renderAll, ih]

theorem render_join (o : Options) (conjunctive : Bool) (e : Expr) (es : List Expr) :
    ((join conjunctive (e :: es)).render o).toList =
      '(' :: ((e.render o).toList ++ (rowText o conjunctive es ++ [')'])) := by
  have hrow : (separator conjunctive).intercalate ((renderAll o (e :: es)).map String.toList) =
      (e.render o).toList ++ rowText o conjunctive es := by
    simp [intercalate_cons_eq, rowText, List.flatMap_map]
  have hgroup : ((join conjunctive (e :: es)).render o).toList =
      '(' :: ((separator conjunctive).intercalate ((renderAll o (e :: es)).map String.toList) ++ [')']) := by
    cases conjunctive with
    | false => simp [join, render, separator]
    | true => simp [join, render, separator]
  rw [hgroup, hrow, List.append_assoc]

variable {o : Options}

/-- the text of a predicate shows where it ends, whatever follows -/
def SelfDelimiting (o : Options) (e : Expr) : Prop :=
  ∀ f s t, Printable f → (e.render o).toList ++ s = (f.render o).toList ++ t → e = f ∧ s = t

/-- **Rows.** The parts of a group after the first are read back up to its closing parenthesis; the first separator
tells the connective. -/
theorem rowText_inj {conjunctive conjunctive' : Bool} {es fs : List Expr} {s t : List Char}
    (hes : ∀ e ∈ es, SelfDelimiting o e) (hfs : ∀ f ∈ fs, Printable f)
    (h : rowText o conjunctive es ++ ')' :: s = rowText o conjunctive' fs ++ ')' :: t) :
    es = fs ∧ (es ≠ [] → conjunctive = conjunctive') ∧ s = t := by
  induction es generalizing fs with
  | nil =>
    cases fs with
    | nil => exact ⟨rfl, fun hne => absurd rfl hne, (List.cons.inj h).2⟩
    | cons f fs => exact absurd h.symm (rowText_ne_closing o conjunctive' f fs _ _)
  | cons e es ih =>
    cases fs with
    | nil => exact absurd h (rowText_ne_closing o conjunctive e es _ _)
    | cons f fs =>
      rw [rowText_cons, rowText_cons] at h
      obtain ⟨hconnective, hparts⟩ := separator_inj h
      obtain ⟨rfl, hrest⟩ := hes e List.mem_cons_self f _ _ (hfs f List.mem_cons_self) hparts
      obtain ⟨rfl, -, rfl⟩ := ih (fun e he => hes e (List.mem_cons_of_mem _ he))
        (fun f hf => hfs f (List.mem_cons_of_mem _ hf)) hrest
      exact ⟨rfl, fun _ => hconnective, rfl⟩

/-- a group starts with a parenthesis and a leaf does not -/
theorem leaf_ne_group (ho : o.CallsDefaults) (k : LeafKind) (field value : String) (s t : List Char) :
    ((k.expr field value).render o).toList ++ s ≠ '(' :: t := by
  intro h
  have hhead := congrArg List.head? h
  rw [LeafKind.render_expr ho, List.append_assoc, LeafStart.head_text, List.head?_cons] at hhead
  have hinitial : ∀ a : LeafStart, a.initial ≠ '(' := by
    intro a
    cases a <;> decide
  exact hinitial _ (Option.some.inj hhead)

theorem exists_cons_of_two {es : List Expr} (two : 2 ≤ es.length) : ∃ e es', es = e :: es' ∧ es' ≠ [] := by
  rcases es with - | ⟨e, - | ⟨e', es⟩⟩
  · simp at two
  · simp at two
  · exact ⟨e, e' :: es, rfl, List.cons_ne_nil e' es⟩

/-- **Predicates.** The text of a predicate is read back in one way only, together with what follows it. -/
theorem Printable.selfDelimiting (ho : o.CallsDefaults) {e : Expr} (he : Printable e) : SelfDelimiting o e := by
  induction he with
  | leaf k name plain =>
    intro f s t hf h
    cases hf with
    | leaf k' name' plain' => exact LeafKind.text_inj ho name name' plain plain' h
    | group conjunctive two parts =>
      obtain ⟨f, fs, rfl, -⟩ := exists_cons_of_two two
      rw [render_join] at h
      exact absurd h (leaf_ne_group ho k _ _ _ _)
  | group conjunctive two parts ih =>
    intro f s t hf h
    obtain ⟨e, es, rfl, hes⟩ := exists_cons_of_two two
    rw [render_join] at h
    cases hf with
    | leaf k' name' plain' => exact absurd h.symm (leaf_ne_group ho k' _ _ _ _)
    | group conjunctive' two' parts' =>
      obtain ⟨f, fs, rfl, -⟩ := exists_cons_of_two two'
      rw [render_join] at h
      simp only [List.cons_append, List.append_assoc, List.nil_append, List.cons.injEq, true_and] at h
      -- the first part, then the row of the others
      obtain ⟨rfl, hrow⟩ := ih e List.mem_cons_self f _ _ (parts' f List.mem_cons_self) h
      obtain ⟨rfl, hconnective, rfl⟩ := rowText_inj (fun e he => ih e (List.mem_cons_of_mem _ he))
        (fun f hf => parts' f (List.mem_cons_of_mem _ hf)) hrow
      rw [hconnective hes]
      exact ⟨rfl, rfl⟩

end Expr

/-! ## Compiled filters -/

/-- **The text tells the predicate.** Filters compiled over any two schemas, with one set of options that calls the
default strategies, have the same text only if they are the same predicate. -/
theorem render_injective {o : Options} (ho : o.CallsDefaults) {names₁ names₂ : List String} {filter₁ filter₂ : String}
    {e₁ e₂ : Expr} (h₁ : compileExpr o (.ofNames names₁) filter₁ = .ok e₁)
    (h₂ : compileExpr o (.ofNames names₂) filter₂ = .ok e₂) (h : e₁.render o = e₂.render o) : e₁ = e₂ := by
  have hprintable : ∀ {names : List String} {filter : String} {e : Expr},
      compileExpr o (.ofNames names) filter = .ok e → e.Printable := fun hcompiled =>
    (wellFormed_of_compileExpr hcompiled fun _ _ => plainName_of_resolve).printable
  have htext : (e₁.render o).toList ++ [] = (e₂.render o).toList ++ [] := by rw [h]
  exact ((hprintable h₁).selfDelimiting ho e₂ [] [] (hprintable h₂) htext).1

/-- two filters over two schemas -/
theorem render_injective_filters : ∃ e₁ e₂,
    compileExpr (.default Like.library .french) (.ofNames ["Sn", "Age"]) "(!(|(!(sn=a*))(age>=18)))" = .ok e₁ ∧
    compileExpr (.default Like.library .french) (.ofNames ["age", "Age", "Sn"]) "(&(SN=A*)(Age<18))" = .ok e₂ ∧
    e₁.render (.default Like.library .french) = e₂.render (.default Like.library .french) ∧ e₁ = e₂ := by
  obtain ⟨h₁, h₂⟩ : compileExpr (.default Like.library .french) (.ofNames ["Sn", "Age"]) "(!(|(!(sn=a*))(age>=18)))" =
        .ok (.and [.like "Sn" "a%" false, .compare "Age" .less "18"]) ∧
      compileExpr (.default Like.library .french) (.ofNames ["age", "Age", "Sn"]) "(&(SN=A*)(Age<18))" =
        .ok (.and [.like "Sn" "a%" false, .compare "Age" .less "18"]) := by
    constructor
    · cbv
    · cbv
  exact ⟨_, _, h₁, h₂, rfl, render_injective ⟨rfl, _, rfl⟩ h₁ h₂ rfl⟩

end SearchFilter
