/-
Trees of groups and the rows of tokens they are written as.

A row of runs is a flat list of tokens: a group opens, a leaf stands, a group closes. What a builder does is to add tokens,
one at most for each action, and what it holds is at every point the tree of the tokens so far:
- `Builder.performAll_tokens`, `Builder.performAll_sound`: the tokens of a builder are those of its actions, all its groups
  have enough operands and lie within the depth limit.
- `Builder.readAll_node`: reading the tokens of such a tree hands over the tree.
- `skeleton_eq_ok`: hence a skeleton is built exactly when the tokens are those of a tree within the limit.
-/
import SearchFilter.Proofs.Building

namespace SearchFilter

/-! ## Tokens -/

inductive Token (α : Type) where
  | opening (c : Connective)
  | leaf (a : α)
  | closing

@[simp]
def Token.leaf? {α : Type} : Token α → Option α
  | .leaf a => some a
  | _ => none

@[simp]
def Token.text : Token Atom → List Char
  | .opening c => ['(', c.symbol]
  | .leaf a => a.text
  | .closing => [')']

def Run.tokens {α : Type} (r : Run α) : List (Token α) :=
  r.opens.map .opening ++ .leaf r.leaf :: List.replicate r.closes .closing

/-- with one more group opened before the others -/
def Run.opening {α : Type} (c : Connective) (r : Run α) : Run α := { r with opens := c :: r.opens }

/-- with one more group closed -/
def Run.closing {α : Type} (r : Run α) : Run α := { r with closes := r.closes + 1 }

/-- with a group around the whole row -/
def Run.enclose {α : Type} (c : Connective) (rs : List (Run α)) : List (Run α) :=
  (rs.modifyHead (Run.opening c)).modifyLast Run.closing

theorem Run.tokens_enclose {α : Type} (c : Connective) {rs : List (Run α)} (h : rs ≠ []) :
    Run.enclose c rs ≠ [] ∧
      (Run.enclose c rs).flatMap Run.tokens = .opening c :: (rs.flatMap Run.tokens ++ [.closing]) := by
  -- the run that closes the group is the last of the row in which it is opened, even when that has one run
  obtain ⟨r, rs, rfl⟩ := List.exists_cons_of_ne_nil h
  obtain ⟨front, last, hsplit⟩ : ∃ front last, r.opening c :: rs = front ++ [last] :=
    ⟨_, _, (List.dropLast_append_getLast (List.cons_ne_nil _ _)).symm⟩
  have henclose : Run.enclose c (r :: rs) = front ++ [last.closing] := by
    rw [enclose, List.modifyHead_cons, hsplit, List.modifyLast_concat]
  have hclosing : last.closing.tokens = last.tokens ++ [.closing] := by
    simp [Run.closing, Run.tokens, List.replicate_succ']
  refine ⟨by simp [henclose], ?_⟩
  calc (Run.enclose c (r :: rs)).flatMap Run.tokens
      = (front ++ [last]).flatMap Run.tokens ++ [.closing] := by
        simp [henclose, hclosing]
    _ = .opening c :: ((r :: rs).flatMap Run.tokens ++ [.closing]) := by
        rw [← hsplit]
        simp [Run.opening, Run.tokens]

/-- a group is closed over one operand or more -/
theorem Connective.pos_of_admits {c : Connective} {k : ℕ} (h : c.admits k = true) : 0 < k := by
  cases c <;> simp only [admits, decide_eq_true_eq] at h <;> omega

/-- leaves replaced by their numbers, the first of them being number `k` -/
@[simp]
def numbered {α : Type} (k : ℕ) : List (Token α) → List (Token ℕ)
  | [] => []
  | .opening c :: ts => .opening c :: numbered k ts
  | .leaf _ :: ts => .leaf k :: numbered (k + 1) ts
  | .closing :: ts => .closing :: numbered k ts

theorem numbered_run {α : Type} (k : ℕ) (r : Run α) (ts : List (Token α)) :
    numbered k (r.tokens ++ ts) =
      r.opens.map .opening ++ .leaf k :: (List.replicate r.closes .closing ++ numbered (k + 1) ts) := by
  obtain ⟨cs, a, n⟩ := r
  simp only [Run.tokens]
  induction cs with
  | nil =>
    simp only [List.map_nil, List.nil_append, List.cons_append, numbered, List.cons.injEq, true_and]
    induction n with
    | zero => rfl
    | succ n ih => simpa [List.replicate_succ] using ih
  | cons c cs ih => simpa using ih

namespace Node

/-- induction on a tree, with the children at once -/
@[elab_as_elim, induction_eliminator]
theorem induct {motive : Node → Prop} (leaf : ∀ index, motive (.leaf index))
    (group : ∀ connective children, (∀ n ∈ children, motive n) → motive (.group connective children)) (n : Node) :
    motive n :=
  @Node.rec motive (fun ns => ∀ n ∈ ns, motive n) leaf group (fun _ h => absurd h List.not_mem_nil)
    (fun _ _ hn hns _ h => (List.mem_cons.1 h).elim (fun e => e ▸ hn) (hns _)) n

mutual

/-- the tokens a tree is written as -/
def tokens : Node → List (Token ℕ)
  | .leaf i => [.leaf i]
  | .group c ns => .opening c :: (tokensAll ns ++ [.closing])

def tokensAll : List Node → List (Token ℕ)
  | [] => []
  | n :: ns => n.tokens ++ tokensAll ns

end

@[simp]
theorem tokensAll_eq (ns : List Node) : tokensAll ns = ns.flatMap tokens := by
  induction ns with
  | nil => rfl
  | cons n ns ih => simp [tokensAll, ih]

@[simp]
theorem tokens_leaf (i : ℕ) : (leaf i).tokens = [.leaf i] := by rw [tokens]

@[simp]
theorem tokens_group (c : Connective) (ns : List Node) :
    (group c ns).tokens = .opening c :: (ns.flatMap tokens ++ [.closing]) := by
  simp [tokens]

/-- every group has enough operands, and groups are nested at most `k` deep -/
inductive Within : ℕ → Node → Prop
  | leaf (k i : ℕ) : Within k (.leaf i)
  | group {k : ℕ} {c : Connective} {ns : List Node} (operands : c.admits ns.length = true)
      (inner : ∀ n ∈ ns, Within k n) : Within (k + 1) (.group c ns)

end Node

/-- the tokens of an open group and its children so far -/
def Frame.tokens (f : Frame) : List (Token ℕ) := .opening f.connective :: f.children.flatMap Node.tokens

/-! ## What a builder holds -/

namespace Builder

def Action.token? : Action → Option (Token ℕ)
  | .tile => none
  | .marker m => (Connective.ofByte? m).map .opening
  | .leaf i => some (.leaf i)
  | .closing => some .closing

/-- the tokens of the root and of the open groups, the outermost first -/
def tokens (b : Builder) : List (Token ℕ) :=
  b.root.elim [] Node.tokens ++ b.opened.reverse.flatMap Frame.tokens

section

variable {b b' : Builder} {a : Action} {as : List Action} {n : Node}

theorem Attaches.tokens_eq (h : Attaches n b b') : b'.tokens = b.tokens ++ n.tokens := by
  cases h with
  | child f fs root => simp [tokens, Frame.tokens]
  | root => simp [tokens]

theorem Performs.tokens_eq (h : b.Performs a b') : b'.tokens = b.tokens ++ a.token?.toList := by
  cases h with
  | tile _ => simp [Action.token?]
  | marker known _ => simp [tokens, Frame.tokens, Action.token?, known]
  | hands handed taken =>
    rw [taken.tokens_eq]
    cases handed with
    | leaf i => simp [Action.token?]
    | closing innermost _ => simp [tokens, Frame.tokens, Action.token?, innermost]

/-- **What was read is what is held.** No token is lost, and none changes its place. -/
theorem performAll_tokens (h : b.performAll as = .ok b') : b'.tokens = b.tokens ++ as.filterMap Action.token? := by
  induction as generalizing b with
  | nil =>
    obtain rfl := Except.ok.inj h
    simp
  | cons a as ih =>
    obtain ⟨b1, hperforms, hrest⟩ := performAll_cons_eq_ok.1 h
    rw [ih hrest, hperforms.tokens_eq]
    cases hadd : a.token? <;> simp [hadd]

end

/-- open groups within the depth limit, with children that fit under them -/
def FramesWithin : List Frame → Prop
  | [] => True
  | f :: fs => fs.length < maxDepth ∧ (∀ n ∈ f.children, n.Within (maxDepth - (fs.length + 1))) ∧ FramesWithin fs

structure Sound (b : Builder) : Prop where
  frames : FramesWithin b.opened
  root : ∀ n, b.root = some n → n.Within maxDepth

theorem sound_start : start.Sound := ⟨trivial, by simp [start]⟩

section

variable {b b' : Builder} {a : Action} {as : List Action} {n : Node}

theorem Attaches.sound (h : Attaches n b b') (hb : b.Sound) (hn : n.Within (maxDepth - b.opened.length)) : b'.Sound := by
  cases h with
  | root =>
    refine ⟨trivial, fun m hm => ?_⟩
    obtain rfl : n = m := Option.some.inj hm
    exact hn
  | child f fs root =>
    obtain ⟨hlen, hchildren, hfs⟩ := hb.frames
    refine ⟨⟨hlen, fun m hm => ?_, hfs⟩, hb.root⟩
    rcases List.mem_append.1 hm with hm | hm
    · exact hchildren m hm
    · obtain rfl := List.mem_singleton.1 hm
      exact hn

theorem Performs.sound (h : b.Performs a b') (hb : b.Sound) : b'.Sound := by
  cases h with
  | tile _ => exact hb
  | marker _ room => exact ⟨⟨room, by simp, hb.frames⟩, hb.root⟩
  | hands handed taken =>
    cases handed with
    | leaf i => exact taken.sound hb (.leaf _ i)
    | @closing f fs innermost operands =>
      have hframes := hb.frames
      rw [innermost] at hframes
      obtain ⟨hlen, hchildren, hfs⟩ := hframes
      have hroom : maxDepth - fs.length = maxDepth - (fs.length + 1) + 1 := by omega
      have houter : Sound ⟨fs, b.root⟩ := ⟨hfs, hb.root⟩
      refine taken.sound houter ?_
      change Node.Within (maxDepth - fs.length) _
      rw [hroom]
      exact .group operands hchildren

theorem performAll_sound (hb : b.Sound) (h : b.performAll as = .ok b') : b'.Sound := by
  induction as generalizing b with
  | nil =>
    obtain rfl := Except.ok.inj h
    exact hb
  | cons a as ih =>
    obtain ⟨b1, hperforms, hrest⟩ := performAll_cons_eq_ok.1 h
    exact ih (hperforms.sound hb) hrest

/-- the root that all actions end with is the tree of their tokens, within the limits -/
theorem of_performAll_root (h : start.performAll as = .ok ⟨[], some n⟩) :
    n.tokens = as.filterMap Action.token? ∧ n.Within maxDepth := by
  refine ⟨?_, (performAll_sound sound_start h).root n rfl⟩
  have htokens := performAll_tokens h
  simpa [tokens, start] using htokens

end

/-- the tokens that tiles are read as -/
theorem tokens_rowActions {α : Type} {rs : List (Run α)} {tiles : List Tile} (h : List.Forall₂ Run.Reads rs tiles) (k : ℕ) :
    (rowActions k tiles).filterMap Action.token? = numbered k (rs.flatMap Run.tokens) := by
  induction h generalizing k with
  | nil => rfl
  | @cons r t rs tiles hr _ ih =>
    rw [rowActions, List.filterMap_append, ih, List.flatMap_cons, numbered_run]
    simp [tileActions, List.filterMap_cons, List.filterMap_map, Function.comp_def, List.filterMap_replicate,
      Action.token?, hr.filterMap_markers, hr.closing]

end Builder

/-! ## Reading a tree -/

/-- The actions by which a token is read. A tile is started before every opening and every leaf, which changes nothing as
long as there is no root. -/
def Token.actions : Token ℕ → List Builder.Action
  | .opening c => [.tile, .marker c.byte]
  | .leaf i => [.tile, .leaf i]
  | .closing => [.closing]

namespace Builder

def readAll (b : Builder) (ts : List (Token ℕ)) : Except Fault Builder := b.performAll (ts.flatMap Token.actions)

@[simp]
theorem readAll_append (b : Builder) (ts us : List (Token ℕ)) :
    b.readAll (ts ++ us) = (b.readAll ts).bind fun b => b.readAll us := by
  simp [readAll]

/-- the children of a group are read one after the other into its frame -/
theorem readAll_children {f : Frame} {fs : List Frame} {ns : List Node}
    (h : ∀ n ∈ ns, ∀ g : Frame, Builder.readAll ⟨g :: fs, none⟩ n.tokens = Builder.attach ⟨g :: fs, none⟩ n) :
    Builder.readAll ⟨f :: fs, none⟩ (ns.flatMap Node.tokens) = .ok ⟨{ f with children := f.children ++ ns } :: fs, none⟩ := by
  induction ns generalizing f with
  | nil => simp [readAll, performAll]
  | cons n ns ih =>
    rw [List.flatMap_cons, readAll_append, h n List.mem_cons_self f]
    change Builder.readAll ⟨{ f with children := f.children ++ [n] } :: fs, none⟩ (ns.flatMap Node.tokens) = _
    rw [ih fun m hm => h m (List.mem_cons_of_mem n hm)]
    simp

/-- **Reading a tree.** The tokens of a tree that fits under the open groups are read as that tree. -/
theorem readAll_node {k : ℕ} {n : Node} (hn : n.Within k) (b : Builder) (hd : b.opened.length + k ≤ maxDepth)
    (hb : b.root = none) : b.readAll n.tokens = b.attach n := by
  induction hn generalizing b with
  | leaf k i =>
    have hactions : (Node.leaf i).tokens.flatMap Token.actions = [.tile, .leaf i] := rfl
    rw [readAll, hactions, performAll_tile hb, performAll, perform]
    cases b.attach (.leaf i) <;> rfl
  | @group k c ns operands inner ih =>
    obtain ⟨opened, root⟩ := b
    obtain rfl : root = none := hb
    dsimp only at hd
    have hopening : Builder.readAll ⟨opened, none⟩ [.opening c] = .ok ⟨⟨c, []⟩ :: opened, none⟩ := by
      have hroom : opened.length < maxDepth := by omega
      exact performAll_cons_eq_ok.2 ⟨_, .tile rfl, performAll_cons_eq_ok.2 ⟨_, .marker c.ofByte?_byte hroom, rfl⟩⟩
    have hchildren : ∀ n ∈ ns, ∀ g : Frame,
        Builder.readAll ⟨g :: opened, none⟩ n.tokens = Builder.attach ⟨g :: opened, none⟩ n := by
      intro n hn g
      exact ih n hn ⟨g :: opened, none⟩ (by simp only [List.length_cons]; omega) rfl
    have hclosing : Builder.readAll ⟨⟨c, ns⟩ :: opened, none⟩ [.closing] =
        Builder.attach ⟨opened, none⟩ (.group c ns) := by
      have hands : Hands ⟨⟨c, ns⟩ :: opened, none⟩ .closing ⟨opened, none⟩ (.group c ns) :=
        .closing (f := ⟨c, ns⟩) rfl operands
      exact (performAll_singleton _ _).trans (perform_of_hands hands)
    rw [Node.tokens_group, ← List.singleton_append, readAll_append, hopening]
    change Builder.readAll ⟨⟨c, []⟩ :: opened, none⟩ (ns.flatMap Node.tokens ++ [.closing]) = _
    rw [readAll_append, readAll_children hchildren]
    exact hclosing

/-! ## Reading tiles -/

/-- no tile has to be started between the openings of a tile and its leaf -/
theorem performAll_openings (cs : List Connective) (b : Builder) (i : ℕ) (as : List Action) :
    b.performAll (.tile :: (cs.map (fun c => Action.marker c.byte) ++ Action.leaf i :: as)) =
      b.performAll ((cs.map Token.opening ++ [Token.leaf i]).flatMap Token.actions ++ as) := by
  induction cs generalizing b with
  | nil => rfl
  | cons c cs ih =>
    have hopening : ∀ {b1 : Builder}, b.performAll [.tile, .marker c.byte] = .ok b1 → b1.root = none := by
      intro b1 h
      obtain ⟨b', htile, hmarker⟩ := performAll_cons_eq_ok.1 h
      obtain ⟨b'', hperforms, hrest⟩ := performAll_cons_eq_ok.1 hmarker
      obtain rfl := Except.ok.inj hrest
      cases htile with
      | tile unfinished =>
        cases hperforms with
        | marker _ _ => exact unfinished
        | hands handed _ => cases handed
      | hands handed _ => cases handed
    change b.performAll ([.tile, .marker c.byte] ++ (cs.map (fun c => Action.marker c.byte) ++ Action.leaf i :: as)) =
      b.performAll ([.tile, .marker c.byte] ++ ((cs.map Token.opening ++ [Token.leaf i]).flatMap Token.actions ++ as))
    rw [performAll_append, performAll_append]
    cases hperform : b.performAll [.tile, .marker c.byte] with
    | error f => rfl
    | ok b1 => exact (performAll_tile (hopening hperform) _).symm.trans (ih b1)

/-- **Reading tiles is reading their tokens.** -/
theorem performAll_rowActions {α : Type} {rs : List (Run α)} {tiles : List Tile} (h : List.Forall₂ Run.Carries rs tiles)
    (b : Builder) (k : ℕ) : b.performAll (rowActions k tiles) = b.readAll (numbered k (rs.flatMap Run.tokens)) := by
  induction h generalizing b k with
  | nil => rfl
  | @cons r t rs tiles hr _ ih =>
    have htile : rowActions k (t :: tiles) = .tile :: (r.opens.map (fun c => Action.marker c.byte) ++
        Action.leaf k :: (List.replicate r.closes .closing ++ rowActions (k + 1) tiles)) := by
      simp [rowActions, tileActions, hr.markers, hr.closing, Function.comp_def]
    have hclosings : (List.replicate r.closes Token.closing).flatMap Token.actions =
        List.replicate r.closes Action.closing := by
      simp [List.flatMap_replicate, Token.actions]
    rw [htile, performAll_openings, List.flatMap_cons, numbered_run]
    simp [readAll, ih, hclosings]

end Builder

/-- **Skeletons.** A row of tiles has a skeleton exactly when its tokens are those of a tree within the depth limit
whose groups have enough operands, and the skeleton is that tree. -/
theorem skeleton_eq_ok {α : Type} {rs : List (Run α)} {tiles : List Tile} (h : List.Forall₂ Run.Carries rs tiles)
    (filter : String) {n : Node} : skeleton filter tiles = .ok n ↔
      n.tokens = numbered 0 (rs.flatMap Run.tokens) ∧ n.Within maxDepth := by
  rw [Builder.skeleton_eq_ok_iff_performAll]
  constructor
  · intro hrun
    rw [← Builder.tokens_rowActions (h.imp fun _ _ hr => hr.reads)]
    exact Builder.of_performAll_root hrun
  · rintro ⟨htokens, hn⟩
    rw [Builder.performAll_rowActions h, ← htokens, Builder.readAll_node hn .start (by simp [Builder.start]) rfl]
    rfl

end SearchFilter
