/-
The grammar of filters, as derivation trees.

A `Sentence` is a derivation tree: a comparison, or a group around operands. `Sentence.text` is what it derives,
`Sentence.Grammatical` says that every step of it is a production of the grammar over the names of a schema:

  F ::= ( P O V ) | (! F+ ) | (& F F+ ) | (| F F+ )

`Sentence.number` is the skeleton that stands for it. A text has at most one derivation (`text_injective`), and a skeleton
that a row of tiles is built into comes from one (`exists_sentence`).
-/
import Mathlib.Tactic
import SearchFilter.Proofs.Assembly

namespace SearchFilter

/-! ## Derivation trees -/

inductive Sentence where
  | comparison (a : Atom)
  | group (c : Connective) (operands : List Sentence)

namespace Sentence

/-- induction on a tree, with the operands at once -/
@[elab_as_elim, induction_eliminator]
theorem induct {motive : Sentence → Prop} (comparison : ∀ a, motive (.comparison a))
    (group : ∀ c operands, (∀ d ∈ operands, motive d) → motive (.group c operands)) (d : Sentence) : motive d :=
  @Sentence.rec motive (fun ds => ∀ d ∈ ds, motive d) comparison group (fun _ h => absurd h List.not_mem_nil)
    (fun _ _ hd hds _ h => (List.mem_cons.1 h).elim (fun e => e ▸ hd) (hds _)) d

mutual

/-- the text of a derivation -/
def text : Sentence → List Char
  | .comparison a => a.text
  | .group c ds => '(' :: c.symbol :: (textAll ds ++ [')'])

def textAll : List Sentence → List Char
  | [] => []
  | d :: ds => d.text ++ textAll ds

end

/-- every step is a production of the grammar, and the schema knows every property -/
inductive Grammatical (schema : Schema) : Sentence → Prop
  | comparison {a : Atom} (legal : a.Legal) (known : (schema.resolve (String.ofList a.property)).isSome = true) :
      Grammatical schema (.comparison a)
  | not {ds : List Sentence} (operands : 1 ≤ ds.length) (inner : ∀ d ∈ ds, Grammatical schema d) :
      Grammatical schema (.group .not ds)
  | and {ds : List Sentence} (operands : 2 ≤ ds.length) (inner : ∀ d ∈ ds, Grammatical schema d) :
      Grammatical schema (.group .and ds)
  | or {ds : List Sentence} (operands : 2 ≤ ds.length) (inner : ∀ d ∈ ds, Grammatical schema d) :
      Grammatical schema (.group .or ds)

mutual

/-- the most groups that stand around one comparison -/
def depth : Sentence → ℕ
  | .comparison _ => 0
  | .group _ ds => depthAll ds + 1

def depthAll : List Sentence → ℕ
  | [] => 0
  | d :: ds => max d.depth (depthAll ds)

end

mutual

def tokens : Sentence → List (Token Atom)
  | .comparison a => [.leaf a]
  | .group c ds => .opening c :: (tokensAll ds ++ [.closing])

def tokensAll : List Sentence → List (Token Atom)
  | [] => []
  | d :: ds => d.tokens ++ tokensAll ds

end

/-- the comparisons from left to right -/
def atoms (d : Sentence) : List Atom := (d.tokens).filterMap Token.leaf?

mutual

/-- the skeleton of a derivation, its leaves numbered from `k` on -/
def number (k : ℕ) : Sentence → Node
  | .comparison _ => .leaf k
  | .group c ds => .group c (numberAll k ds)

def numberAll (k : ℕ) : List Sentence → List Node
  | [] => []
  | d :: ds => d.number k :: numberAll (k + d.atoms.length) ds

end

@[simp]
theorem textAll_eq (ds : List Sentence) : textAll ds = ds.flatMap text := by
  induction ds with
  | nil => rfl
  | cons d ds ih => simp [textAll, ih]

@[simp]
theorem tokensAll_eq (ds : List Sentence) : tokensAll ds = ds.flatMap tokens := by
  induction ds with
  | nil => rfl
  | cons d ds ih => simp [tokensAll, ih]

@[simp]
theorem text_comparison (a : Atom) : (comparison a).text = a.text := by rw [text]

@[simp]
theorem text_group (c : Connective) (ds : List Sentence) :
    (group c ds).text = '(' :: c.symbol :: (ds.flatMap text ++ [')']) := by
  simp [text]

@[simp]
theorem tokens_comparison (a : Atom) : (comparison a).tokens = [.leaf a] := by rw [tokens]

@[simp]
theorem tokens_group (c : Connective) (ds : List Sentence) :
    (group c ds).tokens = .opening c :: (ds.flatMap tokens ++ [.closing]) := by
  simp [tokens]

@[simp]
theorem atoms_comparison (a : Atom) : (comparison a).atoms = [a] := by simp [atoms]

@[simp]
theorem atoms_group (c : Connective) (ds : List Sentence) : (group c ds).atoms = ds.flatMap atoms := by
  simp only [atoms, tokens_group, List.filterMap_cons, Token.leaf?, List.filterMap_append, List.filterMap_flatMap,
    List.filterMap_nil, List.append_nil]
  rfl

theorem mem_atoms_group {c : Connective} {ds : List Sentence} {a : Atom} :
    a ∈ (group c ds).atoms ↔ ∃ d ∈ ds, a ∈ d.atoms := by
  simp

theorem depthAll_le {ds : List Sentence} {k : ℕ} : depthAll ds ≤ k ↔ ∀ d ∈ ds, d.depth ≤ k := by
  induction ds with
  | nil => simp [depthAll]
  | cons d ds ih => simp [depthAll, ih]

@[simp]
theorem depth_group_le {c : Connective} {ds : List Sentence} {k : ℕ} :
    (group c ds).depth ≤ k + 1 ↔ ∀ d ∈ ds, d.depth ≤ k := by
  simp [depth, depthAll_le]

/-- the number of operands a production asks for is the one a group is closed with -/
@[simp]
theorem grammatical_group {schema : Schema} {c : Connective} {ds : List Sentence} :
    (group c ds).Grammatical schema ↔ c.admits ds.length = true ∧ ∀ d ∈ ds, d.Grammatical schema := by
  constructor
  · intro h
    cases h with
    | not operands inner => exact ⟨decide_eq_true operands, inner⟩
    | and operands inner => exact ⟨decide_eq_true operands, inner⟩
    | or operands inner => exact ⟨decide_eq_true operands, inner⟩
  · rintro ⟨operands, inner⟩
    cases c with
    | not => exact .not (of_decide_eq_true operands) inner
    | and => exact .and (of_decide_eq_true operands) inner
    | or => exact .or (of_decide_eq_true operands) inner

/-! ## Rows of tiles -/

theorem text_eq (d : Sentence) : d.text = d.tokens.flatMap Token.text := by
  induction d with
  | comparison a => simp
  | group c ds ih => simp [List.flatMap_assoc, List.flatMap_congr ih]

/-- the tokens of a derivation are those of a row of tiles -/
theorem exists_row {schema : Schema} {d : Sentence} (h : d.Grammatical schema) :
    ∃ rs : List (Run Atom), rs ≠ [] ∧ rs.flatMap Run.tokens = d.tokens := by
  induction d with
  | comparison a => exact ⟨[⟨[], a, 0⟩], List.cons_ne_nil _ _, rfl⟩
  | group c ds ih =>
    obtain ⟨operands, inner⟩ := grammatical_group.1 h
    have hds : ds ≠ [] := List.ne_nil_of_length_pos (Connective.pos_of_admits operands)
    have hrow : ∀ es : List Sentence, es ≠ [] → (∀ e ∈ es, e ∈ ds) →
        ∃ rs : List (Run Atom), rs ≠ [] ∧ rs.flatMap Run.tokens = es.flatMap tokens := by
      intro es hes hsub
      induction es with
      | nil => exact absurd rfl hes
      | cons e es ihes =>
        obtain ⟨rs, hrs, htokens⟩ := ih e (hsub e List.mem_cons_self) (inner e (hsub e List.mem_cons_self))
        rcases eq_or_ne es [] with rfl | hne
        · exact ⟨rs, hrs, by simpa using htokens⟩
        · obtain ⟨rs', -, htokens'⟩ := ihes hne fun e' he' => hsub e' (List.mem_cons_of_mem e he')
          exact ⟨rs ++ rs', by simp [hrs], by simp [htokens, htokens']⟩
    obtain ⟨rs, hrs, htokens⟩ := hrow ds hds fun _ h => h
    obtain ⟨henclosed, htext⟩ := Run.tokens_enclose c hrs
    exact ⟨Run.enclose c rs, henclosed, by simp [htext, htokens]⟩

theorem legal_of_mem_atoms {schema : Schema} {d : Sentence} (h : d.Grammatical schema) :
    ∀ a ∈ d.atoms, a.Legal ∧ (schema.resolve (String.ofList a.property)).isSome = true := by
  induction d with
  | comparison a =>
    intro b hb
    obtain rfl : b = a := by simpa using hb
    cases h with
    | comparison legal known => exact ⟨legal, known⟩
  | group c ds ih =>
    intro a ha
    obtain ⟨d, hd, had⟩ := mem_atoms_group.1 ha
    exact ih d hd ((grammatical_group.1 h).2 d hd) a had

/-! ## Skeletons -/

theorem numbered_append {α : Type} (k : ℕ) (ts us : List (Token α)) :
    numbered k (ts ++ us) = numbered k ts ++ numbered (k + (ts.filterMap Token.leaf?).length) us := by
  induction ts generalizing k with
  | nil => rfl
  | cons t ts ih =>
    cases t with
    | opening c => exact congrArg (Token.opening c :: ·) (ih k)
    | leaf a =>
      have hk : k + 1 + (ts.filterMap Token.leaf?).length = k + ((ts.filterMap Token.leaf?).length + 1) := by omega
      simp [ih, hk]
    | closing => exact congrArg (Token.closing :: ·) (ih k)

theorem tokens_numberAll {k : ℕ} {ds : List Sentence} (h : ∀ d ∈ ds, ∀ k, (d.number k).tokens = numbered k d.tokens) :
    (numberAll k ds).flatMap Node.tokens = numbered k (ds.flatMap tokens) := by
  induction ds generalizing k with
  | nil => rfl
  | cons d ds ih =>
    rw [numberAll, List.flatMap_cons, List.flatMap_cons, numbered_append, h d List.mem_cons_self,
      ih fun e he => h e (List.mem_cons_of_mem d he)]
    rfl

theorem tokens_number (d : Sentence) (k : ℕ) : (d.number k).tokens = numbered k d.tokens := by
  induction d generalizing k with
  | comparison a => rfl
  | group c ds ih =>
    simp [number, tokens_numberAll ih, numbered_append]

theorem numbered_eq_append {α : Type} {k : ℕ} {ts : List (Token α)} {xs ys : List (Token ℕ)}
    (h : xs ++ ys = numbered k ts) : ∃ us vs, ts = us ++ vs ∧ xs = numbered k us ∧
      ys = numbered (k + (us.filterMap Token.leaf?).length) vs := by
  induction xs generalizing k ts with
  | nil => exact ⟨[], ts, rfl, rfl, h⟩
  | cons x xs ih =>
    cases ts with
    | nil => simp at h
    | cons t ts =>
      cases t with
      | opening c =>
        obtain ⟨rfl, h'⟩ := List.cons.inj h
        obtain ⟨us, vs, rfl, rfl, rfl⟩ := ih h'
        exact ⟨.opening c :: us, vs, rfl, rfl, rfl⟩
      | leaf a =>
        obtain ⟨rfl, h'⟩ := List.cons.inj h
        obtain ⟨us, vs, rfl, rfl, rfl⟩ := ih h'
        refine ⟨.leaf a :: us, vs, rfl, rfl, ?_⟩
        simp only [List.filterMap_cons, Token.leaf?, List.length_cons]
        congr 1
        omega
      | closing =>
        obtain ⟨rfl, h'⟩ := List.cons.inj h
        obtain ⟨us, vs, rfl, rfl, rfl⟩ := ih h'
        exact ⟨.closing :: us, vs, rfl, rfl, rfl⟩

theorem numbered_eq_nil {α : Type} {k : ℕ} {ts : List (Token α)} (h : [] = numbered k ts) : ts = [] := by
  cases ts with
  | nil => rfl
  | cons t ts => cases t <;> simp at h

theorem exists_sentences {k : ℕ} {ns : List Node} {ts : List (Token Atom)}
    (h : ns.flatMap Node.tokens = numbered k ts)
    (ih : ∀ n ∈ ns, ∀ (k : ℕ) (ts : List (Token Atom)), n.tokens = numbered k ts →
      ∃ d : Sentence, d.tokens = ts ∧ d.number k = n) :
    ∃ ds : List Sentence, ds.flatMap tokens = ts ∧ numberAll k ds = ns := by
  induction ns generalizing k ts with
  | nil => exact ⟨[], (numbered_eq_nil h).symm, rfl⟩
  | cons n ns ihns =>
    rw [List.flatMap_cons] at h
    obtain ⟨us, vs, rfl, hus, hvs⟩ := numbered_eq_append h
    obtain ⟨d, rfl, rfl⟩ := ih n List.mem_cons_self k us hus
    obtain ⟨ds, rfl, hds⟩ := ihns hvs fun m hm => ih m (List.mem_cons_of_mem _ hm)
    exact ⟨d :: ds, rfl, by rw [numberAll, atoms, hds]⟩

/-- **Reading a tree back.** When the numbered tokens are those of a skeleton, they are the tokens of a derivation, and
the skeleton is the one that stands for it. -/
theorem exists_sentence (n : Node) (k : ℕ) (ts : List (Token Atom)) (h : n.tokens = numbered k ts) :
    ∃ d : Sentence, d.tokens = ts ∧ d.number k = n := by
  induction n generalizing k ts with
  | leaf i =>
    cases ts with
    | nil => simp at h
    | cons t ts =>
      cases t with
      | opening c => simp at h
      | closing => simp at h
      | leaf a =>
        obtain ⟨rfl, hts⟩ : i = k ∧ [] = numbered (k + 1) ts := by simpa using h
        exact ⟨.comparison a, by simp [numbered_eq_nil hts], rfl⟩
  | group c ns ih =>
    rw [Node.tokens_group] at h
    cases ts with
    | nil => simp at h
    | cons t ts =>
      cases t with
      | leaf a => simp at h
      | closing => simp at h
      | opening c' =>
        rw [numbered, List.cons.injEq, Token.opening.injEq] at h
        obtain ⟨rfl, h⟩ := h
        -- the operands are read back one by one, and one closing token is left
        obtain ⟨us, vs, rfl, hus, hvs⟩ := numbered_eq_append h
        obtain ⟨ds, rfl, rfl⟩ := exists_sentences hus ih
        have hend : vs = [.closing] := by
          cases vs with
          | nil => simp at hvs
          | cons t vs =>
            cases t with
            | opening c => simp at hvs
            | leaf a => simp at hvs
            | closing => rw [numbered_eq_nil (List.cons.inj hvs).2]
        exact ⟨.group c ds, by simp [hend], rfl⟩

theorem forall_numberAll {P : Node → Prop} {k : ℕ} {ds : List Sentence} (h : ∀ d ∈ ds, ∀ k, P (d.number k)) :
    ∀ n ∈ numberAll k ds, P n := by
  induction ds generalizing k with
  | nil => simp [numberAll]
  | cons d ds ih =>
    rw [numberAll, List.forall_mem_cons]
    exact ⟨h d List.mem_cons_self k, ih fun e he => h e (List.mem_cons_of_mem d he)⟩

theorem exists_number_mem {k : ℕ} {ds : List Sentence} {d : Sentence} (hd : d ∈ ds) :
    ∃ j, d.number j ∈ numberAll k ds := by
  induction ds generalizing k with
  | nil => simp at hd
  | cons e ds ih =>
    rw [numberAll]
    rcases List.mem_cons.1 hd with rfl | hd
    · exact ⟨k, List.mem_cons_self⟩
    · obtain ⟨j, hj⟩ := ih hd
      exact ⟨j, List.mem_cons_of_mem _ hj⟩

@[simp]
theorem length_numberAll (k : ℕ) (ds : List Sentence) : (numberAll k ds).length = ds.length := by
  induction ds generalizing k with
  | nil => rfl
  | cons d ds ih => simp [numberAll, ih]

theorem within_number {schema : Schema} {d : Sentence} {m k : ℕ} (h : d.Grammatical schema) (hm : d.depth ≤ m) :
    (d.number k).Within m := by
  induction d generalizing m k with
  | comparison a => exact .leaf m k
  | group c ds ih =>
    obtain ⟨operands, inner⟩ := grammatical_group.1 h
    obtain ⟨m, rfl⟩ : ∃ j, m = j + 1 := ⟨m - 1, by rw [depth] at hm; omega⟩
    have hds := depth_group_le.1 hm
    refine .group (by simpa using operands) (forall_numberAll fun d hd k => ?_)
    exact ih d hd (inner d hd) (hds d hd)

theorem grammatical_of_within {schema : Schema} {d : Sentence} {m k : ℕ} (h : (d.number k).Within m)
    (hatoms : ∀ a ∈ d.atoms, a.Legal ∧ (schema.resolve (String.ofList a.property)).isSome = true) :
    d.Grammatical schema ∧ d.depth ≤ m := by
  induction d generalizing m k with
  | comparison a =>
    obtain ⟨legal, known⟩ := hatoms a (by simp)
    exact ⟨.comparison legal known, Nat.zero_le m⟩
  | group c ds ih =>
    rw [number] at h
    cases h with
    | @group m _ _ operands inner =>
      rw [length_numberAll] at operands
      have hds : ∀ d ∈ ds, d.Grammatical schema ∧ d.depth ≤ m := by
        intro d hd
        obtain ⟨j, hj⟩ := exists_number_mem hd
        exact ih d hd (inner _ hj) fun a ha => hatoms a (mem_atoms_group.2 ⟨d, hd, ha⟩)
      exact ⟨grammatical_group.2 ⟨operands, fun d hd => (hds d hd).1⟩, depth_group_le.2 fun d hd => (hds d hd).2⟩

theorem leaves_numberAll {k : ℕ} {ds : List Sentence}
    (h : ∀ d ∈ ds, ∀ k, (d.number k).leaves = List.range' k d.atoms.length) :
    (numberAll k ds).flatMap Node.leaves = List.range' k (ds.flatMap atoms).length := by
  induction ds generalizing k with
  | nil => rfl
  | cons d ds ih =>
    rw [numberAll, List.flatMap_cons, List.flatMap_cons, List.length_append, h d List.mem_cons_self,
      ih fun e he => h e (List.mem_cons_of_mem d he)]
    exact List.range'_append_1

/-- the leaves of a skeleton are numbered one after the other in the order of the text -/
theorem leaves_number (d : Sentence) (k : ℕ) : (d.number k).leaves = List.range' k d.atoms.length := by
  induction d generalizing k with
  | comparison a => rfl
  | group c ds ih => simp [number, leaves_numberAll ih]

/-! ## One derivation -/

theorem tokens_head (d : Sentence) : ∃ t ts, d.tokens = t :: ts ∧ t ≠ .closing := by
  cases d with
  | comparison a => exact ⟨.leaf a, [], rfl, by simp⟩
  | group c ds => exact ⟨.opening c, _, tokens_group c ds, by simp⟩

theorem operands_injective {ds es : List Sentence} {xs ys : List (Token Atom)}
    (h : ds.flatMap tokens ++ .closing :: xs = es.flatMap tokens ++ .closing :: ys)
    (ih : ∀ d ∈ ds, ∀ (e : Sentence) (xs ys : List (Token Atom)), d.tokens ++ xs = e.tokens ++ ys → d = e ∧ xs = ys) :
    ds = es ∧ xs = ys := by
  induction ds generalizing es with
  | nil =>
    cases es with
    | nil => exact ⟨rfl, (List.cons.inj h).2⟩
    | cons e es =>
      obtain ⟨t, ts, he, ht⟩ := tokens_head e
      rw [List.flatMap_cons, he] at h
      exact absurd (List.cons.inj h).1.symm ht
  | cons d ds ihds =>
    cases es with
    | nil =>
      obtain ⟨t, ts, hd, ht⟩ := tokens_head d
      rw [List.flatMap_cons, hd] at h
      exact absurd (List.cons.inj h).1 ht
    | cons e es =>
      rw [List.flatMap_cons, List.flatMap_cons, List.append_assoc, List.append_assoc] at h
      obtain ⟨rfl, h'⟩ := ih d List.mem_cons_self e _ _ h
      obtain ⟨rfl, hxs⟩ := ihds h' fun d' hd' => ih d' (List.mem_cons_of_mem d hd')
      exact ⟨rfl, hxs⟩

/-- no derivation's tokens go on as another's -/
theorem tokens_injective {d e : Sentence} {xs ys : List (Token Atom)} (h : d.tokens ++ xs = e.tokens ++ ys) :
    d = e ∧ xs = ys := by
  induction d generalizing e xs ys with
  | comparison a =>
    cases e with
    | comparison b =>
      obtain ⟨hab, hxs⟩ := List.cons.inj h
      exact ⟨congrArg _ (Token.leaf.inj hab), hxs⟩
    | group c es =>
      simp at h
  | group c ds ih =>
    cases e with
    | comparison b =>
      simp at h
    | group c' es =>
      simp only [tokens_group, List.cons_append, List.append_assoc, List.nil_append, List.cons.injEq,
        Token.opening.injEq] at h
      obtain ⟨rfl, h⟩ := h
      obtain ⟨rfl, hxs⟩ := operands_injective h fun d hd e xs ys => ih d hd
      exact ⟨rfl, hxs⟩

end Sentence

/-! ## Rows over derivations -/

theorem Run.text_eq (r : Run Atom) : r.text = r.tokens.flatMap Token.text := by
  obtain ⟨cs, a, n⟩ := r
  have hopens : (cs.map Token.opening).flatMap Token.text = Connective.markers cs := by
    rw [List.flatMap_map]
    rfl
  have hcloses : (List.replicate n (Token.closing : Token Atom)).flatMap Token.text = List.replicate n ')' := by
    induction n with
    | zero => rfl
    | succ n ih => rw [List.replicate_succ, List.flatMap_cons, ih]; rfl
  simp [Run.text, Run.tokens, hopens, hcloses]

theorem texts_eq (rs : List (Run Atom)) : rs.flatMap Run.text = (rs.flatMap Run.tokens).flatMap Token.text := by
  rw [List.flatMap_assoc]
  exact List.flatMap_congr fun r _ => r.text_eq

theorem leaves_tokens {α : Type} (rs : List (Run α)) :
    (rs.flatMap Run.tokens).filterMap Token.leaf? = rs.map Run.leaf := by
  induction rs with
  | nil => rfl
  | cons r rs ih =>
    have hopens : (r.opens.map (Token.opening : Connective → Token α)).filterMap Token.leaf? = [] := by
      simp [List.filterMap_eq_nil_iff]
    have hcloses : (List.replicate r.closes (Token.closing : Token α)).filterMap Token.leaf? = [] := by
      simp [List.filterMap_eq_nil_iff]
    simp [ih, Run.tokens, hopens, hcloses]

namespace Sentence

/-- the comparisons of a derivation are the leaves of its row -/
theorem atoms_eq {d : Sentence} {rs : List (Run Atom)} (h : rs.flatMap Run.tokens = d.tokens) :
    d.atoms = rs.map Run.leaf := by
  rw [atoms, ← h, leaves_tokens]

theorem texts_row {d : Sentence} {rs : List (Run Atom)} (h : rs.flatMap Run.tokens = d.tokens) :
    rs.flatMap Run.text = d.text := by
  rw [texts_eq, h, text_eq]

theorem legal_row {schema : Schema} {d : Sentence} {rs : List (Run Atom)} (hd : d.Grammatical schema)
    (h : rs.flatMap Run.tokens = d.tokens) :
    ∀ r ∈ rs, r.leaf.Legal ∧ (schema.resolve (String.ofList r.leaf.property)).isSome = true := by
  intro r hr
  refine legal_of_mem_atoms hd r.leaf ?_
  rw [atoms_eq h]
  exact List.mem_map_of_mem hr

/-- **No text has two derivations.** -/
theorem text_injective {schema1 schema2 : Schema} {d e : Sentence} (hd : d.Grammatical schema1)
    (he : e.Grammatical schema2) (h : d.text = e.text) : d = e := by
  obtain ⟨rs1, -, hrs1⟩ := exists_row hd
  obtain ⟨rs2, -, hrs2⟩ := exists_row he
  have h1 := scan_texts fun r hr => (legal_row hd hrs1 r hr).1
  have h2 := scan_texts fun r hr => (legal_row he hrs2 r hr).1
  rw [texts_row hrs1, h, ← texts_row hrs2, h2] at h1
  have hraw : rs2 = rs1 := List.map_injective_iff.2 raw_injective (Prod.mk.inj h1).1
  have htokens : d.tokens ++ [] = e.tokens ++ [] := by rw [← hrs1, ← hrs2, hraw]
  exact (tokens_injective htokens).1

end Sentence
end SearchFilter
