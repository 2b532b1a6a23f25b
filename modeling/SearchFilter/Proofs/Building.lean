/-
A builder at work, action by action.

A row of tiles is read by actions: a tile starts, its groups open one by one, its comparison is handed over, groups close
one by one. What the modules after this one say of a skeleton rests on these actions only.
- `Builder.run_eq_performAll`: reading tiles is performing their actions.
- `Builder.perform_eq_ok`: what an action does when it is not refused (`Performs`).
- `Builder.perform_outcome`: in the order in which the actions of tiles are due, an action is refused for one of four reasons
  (`Refuses`), or the builder holds what the next phase asks for (`Phase.Holds`).
- `Builder.performAll_holds`, `Builder.performAll_balance`, `Builder.exists_root`: hence what is held when all is performed.
- `Run.Carries`, `Run.Reads`: the tiles that carry a row of runs, by their text and by their bytes.
-/
import Mathlib.Data.List.ModifyLast
import Mathlib.Tactic
import SearchFilter.Proofs.Tiling

namespace SearchFilter

theorem bind_eq_ok {ε α β : Type} {x : Except ε α} {f : α → Except ε β} {b : β} :
    x.bind f = .ok b ↔ ∃ a, x = .ok a ∧ f a = .ok b := by
  cases x <;> simp [Except.bind]

namespace Builder

theorem bind_assoc {α β γ : Type} (x : Except Fault α) (f : α → Except Fault β) (g : β → Except Fault γ) :
    (x.bind f).bind g = x.bind fun a => (f a).bind g := by
  cases x <;> rfl

/-! ## Actions -/

/-- what a builder does, one thing at a time -/
inductive Action where
  | tile
  /-- a group opens, its operator written as this byte -/
  | marker (byte : UInt8)
  | leaf (index : ℕ)
  | closing

namespace Action

def isMarker : Action → Bool
  | .marker _ => true
  | _ => false

def isClosing : Action → Bool
  | .closing => true
  | _ => false

end Action

/-- the actions by which a tile is read as comparison `index` -/
def tileActions (index : ℕ) (t : Tile) : List Action :=
  .tile :: ((markerBytes t.markers).map .marker ++ .leaf index :: List.replicate t.closing .closing)

/-- the actions by which tiles are read, the first of them as comparison `index` -/
def rowActions (index : ℕ) : List Tile → List Action
  | [] => []
  | t :: ts => tileActions index t ++ rowActions (index + 1) ts

def perform (b : Builder) : Action → Except Fault Builder
  | .tile =>
    match b.root with
    | some _ => .error .unresolvable
    | none => .ok b
  | .marker m => b.openGroup m
  | .leaf i => b.attach (.leaf i)
  | .closing => b.closeGroup

def performAll (b : Builder) : List Action → Except Fault Builder
  | [] => .ok b
  | a :: as => (b.perform a).bind fun b => b.performAll as

@[simp]
theorem performAll_append (b : Builder) (as cs : List Action) :
    b.performAll (as ++ cs) = (b.performAll as).bind fun b => b.performAll cs := by
  induction as generalizing b with
  | nil => rfl
  | cons a as ih => simp only [List.cons_append, performAll, ih, bind_assoc]

@[simp]
theorem performAll_singleton (b : Builder) (a : Action) : b.performAll [a] = b.perform a := by
  rw [performAll]
  cases b.perform a <;> rfl

/-- starting a tile changes nothing -/
theorem performAll_tile {b : Builder} (hb : b.root = none) (as : List Action) :
    b.performAll (.tile :: as) = b.performAll as := by
  simp [performAll, perform, hb, Except.bind]

theorem openGroups_eq_performAll (ms : List UInt8) (b : Builder) : b.openGroups ms = b.performAll (ms.map .marker) := by
  induction ms generalizing b with
  | nil => rfl
  | cons m ms ih => simp only [openGroups, List.map_cons, performAll, perform, ih]

theorem closeGroups_eq_performAll (n : ℕ) (b : Builder) :
    b.closeGroups n = b.performAll (List.replicate n .closing) := by
  induction n generalizing b with
  | zero => rfl
  | succ n ih => simp only [closeGroups, List.replicate_succ, performAll, perform, ih]

theorem step_eq_performAll (b : Builder) (i : ℕ) (t : Tile) : b.step i t = b.performAll (tileActions i t) := by
  simp only [step, tileActions, performAll, perform]
  cases b.root with
  | some n => rfl
  | none =>
    simp only [Except.bind, performAll_append, openGroups_eq_performAll, performAll, perform, closeGroups_eq_performAll]

/-- **Reading tiles is performing their actions.** -/
theorem run_eq_performAll (b : Builder) (k : ℕ) (tiles : List Tile) :
    b.run k tiles = b.performAll (rowActions k tiles) := by
  induction tiles generalizing b k with
  | nil => rfl
  | cons t tiles ih => simp [run, rowActions, step_eq_performAll, ih]

theorem finish_eq_ok {b : Builder} {n : Node} : b.finish = .ok n ↔ b = ⟨[], some n⟩ := by
  obtain ⟨opened, root⟩ := b
  cases opened <;> cases root <;> simp [finish]

/-- a skeleton is the root that performing all actions ends with -/
theorem skeleton_eq_ok_iff_performAll {filter : String} {tiles : List Tile} {n : Node} :
    skeleton filter tiles = .ok n ↔ start.performAll (rowActions 0 tiles) = .ok ⟨[], some n⟩ := by
  have hmap : ∀ x : Except Fault Node, x.mapError (FilterError.mk · filter) = .ok n ↔ x = .ok n := by
    intro x
    cases x <;> simp [Except.mapError]
  rw [skeleton, hmap, bind_eq_ok, run_eq_performAll]
  simp only [finish_eq_ok, exists_eq_right]

/-! ## What an action does -/

/-- a node is taken by the innermost open group, or as the root -/
inductive Attaches (n : Node) : Builder → Builder → Prop
  | child (f : Frame) (fs : List Frame) (root : Option Node) :
      Attaches n ⟨f :: fs, root⟩ ⟨{ f with children := f.children ++ [n] } :: fs, root⟩
  | root : Attaches n ⟨[], none⟩ ⟨[], some n⟩

/-- The action hands a node over to a builder. -/
inductive Hands (b : Builder) : Action → Builder → Node → Prop
  | leaf (i : ℕ) : Hands b (.leaf i) b (.leaf i)
  /-- the group that closes goes to the one around it -/
  | closing {f : Frame} {fs : List Frame} (innermost : b.opened = f :: fs)
      (operands : f.connective.admits f.children.length = true) :
      Hands b .closing { b with opened := fs } (.group f.connective f.children)

/-- what an action does when it is not refused -/
inductive Performs (b : Builder) : Action → Builder → Prop
  | tile (unfinished : b.root = none) : Performs b .tile b
  | marker {m : UInt8} {c : Connective} (known : Connective.ofByte? m = some c) (room : b.opened.length < maxDepth) :
      Performs b (.marker m) { b with opened := ⟨c, []⟩ :: b.opened }
  | hands {a : Action} {b' b'' : Builder} {n : Node} (handed : b.Hands a b' n) (taken : Attaches n b' b'') :
      Performs b a b''

section

variable {b b' : Builder} {a : Action} {as : List Action} {n : Node}

theorem attach_eq_ok : b.attach n = .ok b' ↔ Attaches n b b' := by
  constructor
  · intro h
    obtain ⟨opened, root⟩ := b
    cases opened with
    | cons f fs =>
      obtain rfl := Except.ok.inj h
      exact .child f fs root
    | nil =>
      cases root with
      | none =>
        obtain rfl := Except.ok.inj h
        exact .root
      | some m => simp [attach] at h
  · intro h
    cases h <;> rfl

theorem perform_of_hands (h : b.Hands a b' n) : b.perform a = b'.attach n := by
  cases h with
  | leaf i => rfl
  | closing innermost operands => simp only [perform, closeGroup, innermost, operands, if_true]

/-- **One action.** -/
theorem perform_eq_ok : b.perform a = .ok b' ↔ b.Performs a b' := by
  constructor
  · intro h
    cases a with
    | tile =>
      simp only [perform] at h
      split at h
      · cases h
      · rename_i hroot
        obtain rfl := Except.ok.inj h
        exact .tile hroot
    | marker m =>
      simp only [perform, openGroup] at h
      split at h
      · cases h
      · rename_i c hc
        split_ifs at h with hfull
        obtain rfl := Except.ok.inj h
        exact .marker hc (Nat.lt_of_not_le hfull)
    | leaf i => exact .hands (.leaf i) (attach_eq_ok.1 h)
    | closing =>
      simp only [perform, closeGroup] at h
      split at h
      · cases h
      · rename_i f fs hopened
        split_ifs at h with hadmits
        exact .hands (.closing hopened hadmits) (attach_eq_ok.1 h)
  · intro h
    cases h with
    | tile unfinished => simp only [perform, unfinished]
    | marker known room => simp only [perform, openGroup, known, if_neg (Nat.not_le.2 room)]
    | hands handed taken =>
      rw [perform_of_hands handed]
      exact attach_eq_ok.2 taken

theorem performAll_cons_eq_ok :
    b.performAll (a :: as) = .ok b' ↔ ∃ b1, b.Performs a b1 ∧ b1.performAll as = .ok b' := by
  simp only [performAll, bind_eq_ok, perform_eq_ok]

theorem Attaches.length_eq (h : Attaches n b b') : b'.opened.length = b.opened.length := by
  cases h <;> rfl

theorem Performs.balance (h : b.Performs a b') :
    b'.opened.length + (if a.isClosing then 1 else 0) = b.opened.length + (if a.isMarker then 1 else 0) := by
  cases h with
  | tile _ => rfl
  | marker _ _ => rfl
  | hands handed taken =>
    rw [taken.length_eq]
    cases handed with
    | leaf _ => rfl
    | closing innermost _ =>
      rw [innermost]
      rfl

/-- what is open at the end and what was closed is what was open before and what was opened -/
theorem performAll_balance (h : b.performAll as = .ok b') :
    b'.opened.length + as.countP Action.isClosing = b.opened.length + as.countP Action.isMarker := by
  induction as generalizing b with
  | nil =>
    obtain rfl := Except.ok.inj h
    rfl
  | cons a as ih =>
    obtain ⟨b1, hperforms, hrest⟩ := performAll_cons_eq_ok.1 h
    have hbalance := hperforms.balance
    have hih := ih hrest
    rw [List.countP_cons, List.countP_cons]
    omega

/-- only markers that name an operator are performed -/
theorem known_of_performAll (h : b.performAll as = .ok b') :
    ∀ m, .marker m ∈ as → ∃ c, Connective.ofByte? m = some c := by
  induction as generalizing b with
  | nil => simp
  | cons a as ih =>
    obtain ⟨b1, hperforms, hrest⟩ := performAll_cons_eq_ok.1 h
    intro m hm
    rcases List.mem_cons.1 hm with rfl | hm
    · cases hperforms with
      | marker known _ => exact ⟨_, known⟩
      | hands handed _ => cases handed
    · exact ih hrest m hm

end

/-! ## Why an action is refused -/

/-- what is wrong with an action -/
inductive Refuses (b : Builder) : Action → Fault → Prop
  /-- a group opens while as many as are allowed are open -/
  | tooDeep (m : UInt8) (full : maxDepth ≤ b.opened.length) : Refuses b (.marker m) .tooDeep
  /-- a group closes while none is open -/
  | nothingOpen (closed : b.opened = []) : Refuses b .closing .unresolvable
  /-- an AND or an OR closes with fewer than two children -/
  | fewChildren {f : Frame} {fs : List Frame} (innermost : b.opened = f :: fs) (binary : f.connective ≠ .not)
      (few : f.children.length < 2) : Refuses b .closing .unresolvable
  /-- a tile starts behind a finished root -/
  | rootComplete {n : Node} (complete : b.root = some n) : Refuses b .tile .unresolvable

theorem Refuses.unique {b : Builder} {a : Action} {f g : Fault} (hf : b.Refuses a f) (hg : b.Refuses a g) : f = g := by
  cases hf <;> cases hg <;> rfl

/-- with children, only an AND or an OR can have too few of them -/
theorem not_admits_iff {c : Connective} {n : ℕ} (h : 0 < n) : ¬ c.admits n = true ↔ c ≠ .not ∧ n < 2 := by
  cases c <;> simp [Connective.admits, h]

/-! ## Phases -/

/-- how far the reading of tiles is: before the first, in the openings of one, or behind its comparison -/
inductive Phase where
  | idle
  | opening
  | closing

/-- the rows of actions that can be due in a phase -/
inductive Due : Phase → List Action → Prop
  | first {due : List Action} (rest : Due .opening due) : Due .idle (.tile :: due)
  | marker {m : UInt8} {c : Connective} {due : List Action} (known : Connective.ofByte? m = some c)
      (rest : Due .opening due) : Due .opening (.marker m :: due)
  | leaf (i : ℕ) {due : List Action} (rest : Due .closing due) : Due .opening (.leaf i :: due)
  | closing {due : List Action} (rest : Due .closing due) : Due .closing (.closing :: due)
  | tile {due : List Action} (rest : Due .opening due) : Due .closing (.tile :: due)
  | done : Due .closing []

/-- the innermost open group has a child -/
def Fed (b : Builder) : Prop := ∀ f ∈ b.opened.head?, f.children ≠ []

/-- what a builder holds in a phase -/
def Phase.Holds : Phase → Builder → Prop
  | .idle, b => b = start
  | .opening, b => b.root = none
  | .closing, b => b.Fed ∧ (b.root.isSome = true ↔ b.opened = [])

/-- a finished root has no group open around it -/
theorem Phase.Holds.closed {p : Phase} {b : Builder} (hb : p.Holds b) (hroot : b.root.isSome = true) :
    b.opened = [] := by
  cases p with
  | idle =>
    obtain rfl : b = start := hb
    rfl
  | opening =>
    obtain ⟨n, hn⟩ := Option.isSome_iff_exists.1 hroot
    cases hn.symm.trans hb
  | closing => exact hb.2.1 hroot

/-- while there is no root, a node is taken, and then there is a root or a group is open -/
theorem exists_attaches {b : Builder} (hroot : b.root = none) (n : Node) :
    ∃ b', Attaches n b b' ∧ Phase.closing.Holds b' := by
  obtain ⟨opened, root⟩ := b
  obtain rfl : root = none := hroot
  cases opened with
  | nil => exact ⟨_, .root, by simp [Phase.Holds, Fed]⟩
  | cons f fs => exact ⟨_, .child f fs none, by simp [Phase.Holds, Fed]⟩

/-- What an action comes to: a refusal for a reason, or a builder that holds what the next phase asks for. -/
inductive Outcome (b : Builder) (a : Action) (due : List Action) : Except Fault Builder → Prop
  | refused {f : Fault} (reason : b.Refuses a f) : Outcome b a due (.error f)
  | performed {b' : Builder} {q : Phase} (allowed : ∀ f, ¬ b.Refuses a f) (rest : Due q due) (holds : q.Holds b') :
      Outcome b a due (.ok b')

section

variable {p : Phase} {b b' : Builder} {a : Action} {n : Node} {due : List Action}

/-- a node is handed over to a builder without a root -/
theorem Hands.root_eq_none (h : b.Hands a b' n) (hdue : Due p (a :: due)) (hb : p.Holds b) : b'.root = none := by
  cases h with
  | leaf i =>
    cases hdue with
    | leaf _ _ => exact hb
  | closing innermost _ =>
    cases hdue with
    | closing _ =>
      -- with a root no group would be open to close
      by_contra hne
      have hopened : b.opened = [] := hb.closed (Option.isSome_iff_ne_none.2 hne)
      rw [innermost] at hopened
      cases hopened

/-- a group that closes has a child -/
theorem fed_of_due (hdue : Due p (.closing :: due)) (hb : p.Holds b) : b.Fed := by
  cases hdue with
  | closing _ => exact hb.1

theorem Hands.outcome (h : b.Hands a b' n) (hdue : Due p (a :: due)) (hb : p.Holds b) (rest : Due .closing due)
    (allowed : ∀ f, ¬ b.Refuses a f) : Outcome b a due (b.perform a) := by
  obtain ⟨b'', htaken, hholds⟩ := exists_attaches (h.root_eq_none hdue hb) n
  rw [perform_eq_ok.2 (.hands h htaken)]
  exact .performed allowed rest hholds

theorem tile_outcome (rest : Due .opening due) : Outcome b .tile due (b.perform .tile) := by
  cases hroot : b.root with
  | some n =>
    have hrefused : b.perform .tile = .error .unresolvable := by simp only [perform, hroot]
    rw [hrefused]
    exact .refused (.rootComplete hroot)
  | none =>
    rw [perform_eq_ok.2 (.tile hroot)]
    refine .performed (fun f hf => ?_) rest hroot
    cases hf with
    | rootComplete complete => cases hroot.symm.trans complete

theorem marker_outcome {m : UInt8} {c : Connective} (known : Connective.ofByte? m = some c) (rest : Due .opening due)
    (hb : b.root = none) : Outcome b (.marker m) due (b.perform (.marker m)) := by
  by_cases hfull : maxDepth ≤ b.opened.length
  · have hrefused : b.perform (.marker m) = .error .tooDeep := by simp only [perform, openGroup, known, if_pos hfull]
    rw [hrefused]
    exact .refused (.tooDeep m hfull)
  · rw [perform_eq_ok.2 (.marker known (Nat.lt_of_not_le hfull))]
    refine .performed (fun f hf => ?_) rest hb
    cases hf with
    | tooDeep _ full => exact hfull full

theorem closing_outcome (hdue : Due .closing (.closing :: due)) (rest : Due .closing due)
    (hb : Phase.closing.Holds b) : Outcome b .closing due (b.perform .closing) := by
  cases hopened : b.opened with
  | nil =>
    simp only [perform, closeGroup, hopened]
    exact .refused (.nothingOpen hopened)
  | cons f fs =>
    have hchildren : 0 < f.children.length := List.length_pos_of_ne_nil (hb.1 f (by rw [hopened]; rfl))
    by_cases hadmits : f.connective.admits f.children.length = true
    · refine (Hands.closing hopened hadmits).outcome hdue hb rest fun g hg => ?_
      cases hg with
      | nothingOpen closed => cases hopened.symm.trans closed
      | fewChildren innermost binary few =>
        cases hopened.symm.trans innermost
        exact (not_admits_iff hchildren).2 ⟨binary, few⟩ hadmits
    · obtain ⟨binary, few⟩ := (not_admits_iff hchildren).1 hadmits
      simp only [perform, closeGroup, hopened, if_neg hadmits]
      exact .refused (.fewChildren hopened binary few)

/-- **One action of a row.** It is refused for a reason, or there is none and the builder holds what the next phase asks
for. -/
theorem perform_outcome (hdue : Due p (a :: due)) (hb : p.Holds b) : Outcome b a due (b.perform a) := by
  cases hdue with
  | first rest => exact tile_outcome rest
  | tile rest => exact tile_outcome rest
  | marker known rest => exact marker_outcome known rest hb
  | leaf i rest => exact (Hands.leaf i).outcome (.leaf i rest) hb rest fun f hf => by cases hf
  | closing rest => exact closing_outcome (.closing rest) rest hb

theorem perform_eq_error_iff (hdue : Due p (a :: due)) (hb : p.Holds b) {f : Fault} :
    b.perform a = .error f ↔ b.Refuses a f := by
  have houtcome := perform_outcome hdue hb
  generalize b.perform a = x at houtcome
  cases houtcome with
  | @refused g reason =>
    rw [Except.error.injEq]
    constructor
    · rintro rfl
      exact reason
    · exact fun hf => reason.unique hf
  | performed allowed _ _ =>
    constructor
    · intro h
      cases h
    · exact fun hf => absurd hf (allowed f)

theorem perform_holds (hdue : Due p (a :: due)) (hb : p.Holds b) (h : b.Performs a b') : ∃ q, Due q due ∧ q.Holds b' := by
  have houtcome := perform_outcome hdue hb
  rw [perform_eq_ok.2 h] at houtcome
  cases houtcome with
  | performed _ rest holds => exact ⟨_, rest, holds⟩

/-- **All actions of a row.** -/
theorem performAll_holds (hdue : Due p due) (hb : p.Holds b) (h : b.performAll due = .ok b') : Phase.closing.Holds b' := by
  induction due generalizing p b with
  | nil =>
    obtain rfl := Except.ok.inj h
    cases hdue with
    | done => exact hb
  | cons a due ih =>
    obtain ⟨b1, hperforms, hrest⟩ := performAll_cons_eq_ok.1 h
    obtain ⟨q, hdue', hb1⟩ := perform_holds hdue hb hperforms
    exact ih hdue' hb1 hrest

/-- when as many groups open as close, a run that is not refused ends with a root and nothing open -/
theorem exists_root (hdue : Due .idle due) (hcount : due.countP Action.isMarker = due.countP Action.isClosing)
    (h : start.performAll due = .ok b) : ∃ n, b = ⟨[], some n⟩ := by
  have hopened : b.opened = [] := by
    have hbalance := performAll_balance h
    rw [hcount] at hbalance
    exact List.length_eq_zero_iff.1 (Nat.add_right_cancel hbalance)
  obtain ⟨n, hroot⟩ := Option.isSome_iff_exists.1 ((performAll_holds hdue rfl h).2.2 hopened)
  obtain ⟨opened, root⟩ := b
  obtain ⟨rfl, rfl⟩ : opened = [] ∧ root = some n := ⟨hopened, hroot⟩
  exact ⟨n, rfl⟩

end

end Builder

/-! ## Rows of tiles that carry runs -/

/-- a tile carries the parentheses of a run -/
structure Run.Carries {α : Type} (r : Run α) (t : Tile) : Prop where
  markers : t.markers = String.ofList (Connective.markers r.opens)
  closing : t.closing = r.closes

/-- the markers of a tile, read byte by byte, name the groups that open, and as many close -/
structure Run.Reads {α : Type} (r : Run α) (t : Tile) : Prop where
  markers : (Builder.markerBytes t.markers).map Connective.ofByte? = r.opens.map some
  closing : t.closing = r.closes

def Connective.byte : Connective → UInt8
  | and => 38
  | or => 124
  | not => 33

@[simp]
theorem Connective.ofByte?_byte (c : Connective) : ofByte? c.byte = some c := by
  cases c <;> rfl

namespace Builder

@[simp]
theorem markerBytes_markers (cs : List Connective) :
    markerBytes (String.ofList (Connective.markers cs)) = cs.map Connective.byte := by
  have hp : String.utf8EncodeChar '(' = [40] := by decide
  have hc : ∀ c : Connective, String.utf8EncodeChar c.symbol = [c.byte] := by
    intro c
    cases c <;> decide
  induction cs with
  | nil => rfl
  | cons c cs ih =>
    simp only [markerBytes, String.toList_ofList] at ih
    simp [markerBytes, Connective.markers, hp, hc, everySecond, ← ih]

end Builder

namespace Run

variable {α : Type} {r : Run α} {t : Tile}

theorem Carries.reads (h : r.Carries t) : r.Reads t :=
  ⟨by simp [h.markers], h.closing⟩

theorem Reads.known (h : r.Reads t) : ∀ m ∈ Builder.markerBytes t.markers, ∃ c, Connective.ofByte? m = some c := by
  intro m hm
  have hnames : Connective.ofByte? m ∈ r.opens.map some := h.markers ▸ List.mem_map_of_mem hm
  obtain ⟨c, -, hc⟩ := List.mem_map.1 hnames
  exact ⟨c, hc.symm⟩

theorem Reads.filterMap_markers {β : Type} (h : r.Reads t) (f : Connective → β) :
    (Builder.markerBytes t.markers).filterMap (fun m => (Connective.ofByte? m).map f) = r.opens.map f := by
  have hnames := congrArg (List.filterMap (Option.map f)) h.markers
  simpa [List.filterMap_map, Function.comp_def] using hnames

end Run

namespace Builder

theorem due_markers {ms : List UInt8} (h : ∀ m ∈ ms, ∃ c, Connective.ofByte? m = some c) {due : List Action}
    (hdue : Due .opening due) : Due .opening (ms.map .marker ++ due) := by
  induction ms with
  | nil => exact hdue
  | cons m ms ih =>
    obtain ⟨⟨c, hc⟩, hms⟩ := List.forall_mem_cons.1 h
    exact .marker hc (ih hms)

theorem due_closings (n : ℕ) {due : List Action} (h : Due .closing due) :
    Due .closing (List.replicate n .closing ++ due) := by
  induction n with
  | zero => exact h
  | succ n ih => exact .closing ih

section

variable {α : Type} {rs : List (Run α)} {tiles : List Tile}

theorem due_rowActions (h : List.Forall₂ Run.Reads rs tiles) (k : ℕ) : Due .closing (rowActions k tiles) := by
  induction h generalizing k with
  | nil => exact .done
  | @cons r t rs tiles hr _ ih =>
    have htile : Due .opening ((markerBytes t.markers).map .marker ++
        .leaf k :: (List.replicate t.closing .closing ++ rowActions (k + 1) tiles)) :=
      due_markers hr.known (.leaf k (due_closings t.closing (ih (k + 1))))
    simpa [rowActions, tileActions] using Due.tile htile

/-- the first tile needs nothing before it -/
theorem due_rowActions_idle (h : List.Forall₂ Run.Reads rs tiles) (hne : rs ≠ []) (k : ℕ) :
    Due .idle (rowActions k tiles) := by
  have hdue := due_rowActions h k
  cases h with
  | nil => exact absurd rfl hne
  | cons _ _ =>
    cases hdue with
    | tile rest => exact .first rest

end

end Builder

end SearchFilter
