/-
What is said of a filter that does not compile.

A filter is refused for the first thing wrong with it, and a text usually has several faults at once. The order is: the
outer parentheses, their number, the properties of the tiles the lower-cased text starts with, what follows these tiles,
and last the groups, read from the left.
- `scan_eq_iff`: the tiles that are read are the longest row the text starts with, and no other row is.
- `resolveTiles_eq_error`: the property that is named is the leftmost unknown one.
- `Builder.performAll_meets`: performing the actions of a row fails at its first fault and with that fault, where a fault is
  described by the numbers of groups and children met so far (`Faulty`).
- `skeleton_eq_error`: when as many parentheses open as close, nothing else can go wrong with the groups.
- `compileExpr_eq_error_iff`: hence every error is the diagnosis of the filter, and every diagnosis is reported.
-/
import Mathlib
import SearchFilter.Proofs.Grammar
import SearchFilter.Strategy.Library

namespace SearchFilter

/-! ## The tiles a text starts with -/

/-- `rs` is the longest row of tiles that `s` starts with, and `rest` is what follows it -/
structure LongestRow (s : List Char) (rs : List (Run Atom)) (rest : List Char) : Prop where
  legal : ∀ r ∈ rs, r.leaf.Legal
  text : s = rs.flatMap Run.text ++ rest
  longest : ∀ (qs : List (Run Atom)) (rest' : List Char), (∀ q ∈ qs, q.leaf.Legal) → s = qs.flatMap Run.text ++ rest' →
    (qs.flatMap Run.text).length ≤ (rs.flatMap Run.text).length

/-- a tile is read with all the closing parentheses that follow it -/
theorem read?_text_append {q : Run Atom} (hq : q.leaf.Legal) (s : List Char) :
    ∃ t, Tile.read? (q.text ++ s) = some (t, s.dropWhile (· == ')')) := by
  set k := (s.takeWhile (· == ')')).length with hk
  have hs : s = List.replicate k ')' ++ s.dropWhile (· == ')') := by
    rw [hk, replicate_takeWhile, List.takeWhile_append_dropWhile]
  have htext : q.text ++ s = Run.text { q with closes := q.closes + k } ++ s.dropWhile (· == ')') := by
    rw [Run.text, Run.text, List.replicate_add]
    nth_rewrite 1 [hs]
    simp only [List.append_assoc]
  have hlegal : Atom.Legal (Run.leaf { q with closes := q.closes + k }) := hq
  rw [htext]
  exact ⟨_, read?_text hlegal (afterTile_dropWhile s)⟩

theorem scanFor_succ {fuel : ℕ} {s u : List Char} {t : Tile.Raw} (h : Tile.read? s = some (t, u)) :
    Tile.scanFor (fuel + 1) s = (t :: (Tile.scanFor fuel u).1, (Tile.scanFor fuel u).2) := by
  rw [Tile.scanFor, h]

theorem length_rest_le (fuel : ℕ) (s : List Char) : (Tile.scanFor fuel s).2.length ≤ s.length := by
  have hscan : Tile.scanFor fuel s = ((Tile.scanFor fuel s).1, (Tile.scanFor fuel s).2) := rfl
  obtain ⟨rs, -, -, htext⟩ := scanFor_eq hscan
  have hlength := congrArg List.length htext
  rw [List.length_append] at hlength
  omega

/-- no row of tiles leaves less of the text than the one that is read -/
theorem scanFor_longest {qs : List (Run Atom)} (hqs : ∀ q ∈ qs, q.leaf.Legal) {fuel : ℕ} (hfuel : qs.length ≤ fuel)
    (rest : List Char) : (Tile.scanFor fuel (qs.flatMap Run.text ++ rest)).2.length ≤ rest.length := by
  induction qs generalizing fuel with
  | nil => exact length_rest_le fuel rest
  | cons q qs ih =>
    obtain ⟨fuel, rfl⟩ := Nat.exists_eq_add_one_of_ne_zero (Nat.ne_of_gt (Nat.lt_of_lt_of_le (by simp) hfuel))
    obtain ⟨t, hread⟩ := read?_text_append (hqs q List.mem_cons_self) (qs.flatMap Run.text ++ rest)
    rw [List.flatMap_cons, List.append_assoc, scanFor_succ hread]
    cases qs with
    | nil => exact (length_rest_le fuel _).trans (List.dropWhile_suffix _).length_le
    | cons p qs =>
      -- the next tile starts with an opening parenthesis, so nothing was dropped
      obtain ⟨u, hu⟩ := text_cons p
      have hdrop : ((p :: qs).flatMap Run.text ++ rest).dropWhile (· == ')') = (p :: qs).flatMap Run.text ++ rest := by
        rw [List.flatMap_cons, hu]
        rfl
      rw [hdrop]
      exact ih (fun r hr => hqs r (List.mem_cons_of_mem q hr)) (Nat.le_of_succ_le_succ hfuel)

theorem scan_longest {s rest : List Char} {ts : List Tile.Raw} (h : Tile.scan s = (ts, rest)) :
    ∃ rs, ts = rs.map Run.raw ∧ LongestRow s rs rest := by
  obtain ⟨rs, hlegal, hts, htext⟩ := scan_eq h
  refine ⟨rs, hts, hlegal, htext, fun qs rest' hqs hs => ?_⟩
  have hfuel : qs.length ≤ s.length := by
    rw [hs, List.length_append]
    exact (length_le_texts qs).trans (Nat.le_add_right _ _)
  have hrest : (Tile.scan s).2.length ≤ rest'.length := by
    rw [Tile.scan]
    nth_rewrite 2 [hs]
    exact scanFor_longest hqs hfuel rest'
  rw [h] at hrest
  have hlength := congrArg List.length (htext.symm.trans hs)
  simp only [List.length_append] at hlength
  dsimp only at hrest
  omega

/-- two rows that are the longest of one text are the same row -/
theorem LongestRow.unique {s rest rest' : List Char} {rs qs : List (Run Atom)} (h : LongestRow s rs rest)
    (h' : LongestRow s qs rest') : rs = qs ∧ rest = rest' := by
  have hlength : (rs.flatMap Run.text).length = (qs.flatMap Run.text).length :=
    le_antisymm (h'.longest rs rest h.legal h.text) (h.longest qs rest' h'.legal h'.text)
  obtain ⟨htexts, hrest⟩ := List.append_inj (h.text.symm.trans h'.text) hlength
  have hscan := scan_texts h.legal
  rw [htexts, scan_texts h'.legal] at hscan
  exact ⟨(List.map_injective_iff.2 raw_injective (Prod.mk.inj hscan).1).symm, hrest⟩

/-- **What is scanned.** The tiles read at the start of a text are its longest row. -/
theorem scan_eq_iff {s rest : List Char} {rs : List (Run Atom)} :
    Tile.scan s = (rs.map Run.raw, rest) ↔ LongestRow s rs rest := by
  constructor
  · intro h
    obtain ⟨qs, hqs, hrow⟩ := scan_longest h
    rwa [List.map_injective_iff.2 raw_injective hqs]
  · intro h
    rcases hscan : Tile.scan s with ⟨ts, rest'⟩
    obtain ⟨qs, rfl, hrow⟩ := scan_longest hscan
    obtain ⟨rfl, rfl⟩ := h.unique hrow
    rfl

/-! ## Properties -/

/-- the schema resolves the property of a tile -/
def Run.Known (schema : Schema) (r : Run Atom) : Prop :=
  (schema.resolve (String.ofList r.leaf.property)).isSome = true

theorem ofRaw_eq_error {schema : Schema} {r : Run Atom} {f : Fault} : Tile.ofRaw schema r.raw = .error f ↔
    ¬ r.Known schema ∧ f = .unknownProperty (String.ofList r.leaf.property) := by
  simp only [Tile.ofRaw, Run.raw, Run.Known]
  cases schema.resolve (String.ofList r.leaf.property) with
  | none => simp [eq_comm]
  | some field => simp

/-- `f` names the leftmost property of the row that the schema does not resolve -/
def LeftmostUnknown (schema : Schema) (rs : List (Run Atom)) (f : Fault) : Prop :=
  ∃ (before : List (Run Atom)) (r : Run Atom) (after : List (Run Atom)), rs = before ++ r :: after ∧
    (∀ q ∈ before, q.Known schema) ∧ ¬ r.Known schema ∧ f = .unknownProperty (String.ofList r.leaf.property)

theorem leftmostUnknown_of_not_known {schema : Schema} {r : Run Atom} {rs : List (Run Atom)} {f : Fault}
    (h : ¬ r.Known schema) :
    LeftmostUnknown schema (r :: rs) f ↔ f = .unknownProperty (String.ofList r.leaf.property) := by
  constructor
  · rintro ⟨before, q, after, hrow, hbefore, -, hf⟩
    cases before with
    | nil =>
      obtain ⟨rfl, -⟩ := List.cons.inj hrow
      exact hf
    | cons p before =>
      obtain ⟨rfl, -⟩ := List.cons.inj hrow
      exact absurd (hbefore r List.mem_cons_self) h
  · intro hf
    exact ⟨[], r, rs, rfl, by simp, h, hf⟩

theorem leftmostUnknown_of_known {schema : Schema} {r : Run Atom} {rs : List (Run Atom)} {f : Fault}
    (h : r.Known schema) : LeftmostUnknown schema (r :: rs) f ↔ LeftmostUnknown schema rs f := by
  constructor
  · rintro ⟨before, q, after, hrow, hbefore, hq, hf⟩
    cases before with
    | nil =>
      obtain ⟨rfl, -⟩ := List.cons.inj hrow
      exact absurd h hq
    | cons p before =>
      exact ⟨before, q, after, (List.cons.inj hrow).2, fun p' hp' => hbefore p' (List.mem_cons_of_mem p hp'), hq, hf⟩
  · rintro ⟨before, q, after, rfl, hbefore, hq, hf⟩
    exact ⟨r :: before, q, after, rfl, List.forall_mem_cons.2 ⟨h, hbefore⟩, hq, hf⟩

/-- **The property that is named.** It is the leftmost one the schema does not resolve. -/
theorem resolveTiles_eq_error {schema : Schema} {rs : List (Run Atom)} {f : Fault} :
    resolveTiles schema (rs.map Run.raw) = .error f ↔ LeftmostUnknown schema rs f := by
  induction rs with
  | nil => simp [resolveTiles, LeftmostUnknown]
  | cons r rs ih =>
    rw [List.map_cons, resolveTiles]
    cases hr : Tile.ofRaw schema r.raw with
    | error g =>
      obtain ⟨hunknown, rfl⟩ := ofRaw_eq_error.1 hr
      rw [leftmostUnknown_of_not_known hunknown]
      simp [eq_comm]
    | ok t =>
      have hknown : r.Known schema := by
        by_contra hunknown
        rw [ofRaw_eq_error.2 ⟨hunknown, rfl⟩] at hr
        cases hr
      rw [leftmostUnknown_of_known hknown, ← ih]
      cases resolveTiles schema (rs.map Run.raw) <;> simp

/-! ## Faults of a row of tiles -/

/-- what is met when a row of tiles is read from the left -/
inductive Event where
  | tile
  | opening (c : Connective)
  | leaf
  | closing
  deriving DecidableEq

namespace Event

def isOpening : Event → Bool
  | .opening _ => true
  | _ => false

def isClosing : Event → Bool
  | .closing => true
  | _ => false

end Event

/-- a tile starts, its groups open, its comparison is read, and groups close after it -/
def Run.events {α : Type} (r : Run α) : List Event :=
  Event.tile :: (r.opens.map Event.opening ++ Event.leaf :: List.replicate r.closes Event.closing)

/-- the open groups, the innermost first, each with the number of children it has so far -/
abbrev Groups := List (Connective × ℕ)

namespace Groups

def child : Groups → Groups
  | [] => []
  | (c, n) :: gs => (c, n + 1) :: gs

def meet (gs : Groups) : Event → Groups
  | .tile => gs
  | .opening c => (c, 0) :: gs
  | .leaf => gs.child
  | .closing => Groups.child gs.tail

end Groups

/-- the groups that are open after some events -/
def groupsAfter (before : List Event) : Groups := before.foldl Groups.meet []

theorem groupsAfter_concat (before : List Event) (x : Event) :
    groupsAfter (before ++ [x]) = (groupsAfter before).meet x := by
  rw [groupsAfter, List.foldl_concat, groupsAfter]

/-- a comparison was read and no group is open -/
structure RootComplete (before : List Event) : Prop where
  read : .leaf ∈ before
  closed : groupsAfter before = []

/-- what is wrong with meeting an event after others -/
inductive Faulty (before : List Event) : Event → Fault → Prop
  /-- a group opens while as many as are allowed are open -/
  | tooDeep (c : Connective) (full : (groupsAfter before).length = maxDepth) : Faulty before (.opening c) .tooDeep
  /-- a group closes while none is open -/
  | nothingOpen (closed : groupsAfter before = []) : Faulty before .closing .unresolvable
  /-- an AND or an OR closes with fewer than two children -/
  | fewChildren {c : Connective} {n : ℕ} {gs : Groups} (innermost : groupsAfter before = (c, n) :: gs) (binary : c ≠ .not)
      (few : n < 2) : Faulty before .closing .unresolvable
  /-- a tile starts behind a complete root -/
  | rootComplete (complete : RootComplete before) : Faulty before .tile .unresolvable

/-- no event of `evs`, met after `before`, is at fault -/
def Faultless (before evs : List Event) : Prop :=
  ∀ us x vs, evs = us ++ x :: vs → ∀ f, ¬ Faulty (before ++ us) x f

/-- `f` is the fault of the first event of `evs` that is at fault when they are met after `before` -/
def FirstFault (before evs : List Event) (f : Fault) : Prop :=
  ∃ us x vs, evs = us ++ x :: vs ∧ Faultless before us ∧ Faulty (before ++ us) x f

theorem faultless_nil (before : List Event) : Faultless before [] := by
  intro us x vs h
  simp at h

theorem faultless_singleton {before : List Event} {x : Event} (h : ∀ f, ¬ Faulty before x f) : Faultless before [x] := by
  intro us y vs hxy
  obtain ⟨rfl, rfl, -⟩ : us = [] ∧ x = y ∧ vs = [] := by
    cases us with
    | nil => simpa [eq_comm] using hxy
    | cons u us => simp at hxy
  simpa using h

theorem Faultless.append {before us vs : List Event} (hu : Faultless before us) (hv : Faultless (before ++ us) vs) :
    Faultless before (us ++ vs) := by
  intro ws x zs h
  rcases List.append_eq_append_iff.1 h with ⟨as, rfl, hvs⟩ | ⟨as, hus, hvs⟩
  · rw [← List.append_assoc]
    exact hv as x zs hvs
  · cases as with
    | nil =>
      obtain rfl : us = ws := by simpa using hus
      have hx := hv [] x zs (by simpa using hvs.symm)
      simpa using hx
    | cons a as =>
      obtain ⟨rfl, -⟩ := List.cons.inj hvs
      exact hu ws x as hus

theorem firstFault_singleton {before : List Event} {x : Event} {f : Fault} (h : Faulty before x f) :
    FirstFault before [x] f :=
  ⟨[], x, [], rfl, faultless_nil before, by simpa using h⟩

theorem FirstFault.append_right {before us : List Event} {f : Fault} (h : FirstFault before us f) (vs : List Event) :
    FirstFault before (us ++ vs) f := by
  obtain ⟨ws, x, zs, rfl, hws, hx⟩ := h
  exact ⟨ws, x, zs ++ vs, by simp, hws, hx⟩

theorem FirstFault.append_left {before us vs : List Event} {f : Fault} (hu : Faultless before us)
    (h : FirstFault (before ++ us) vs f) : FirstFault before (us ++ vs) f := by
  obtain ⟨ws, x, zs, rfl, hws, hx⟩ := h
  exact ⟨us ++ ws, x, zs, by simp, hu.append hws, by rwa [← List.append_assoc]⟩

theorem Faulty.unique {before : List Event} {x : Event} {f g : Fault} (hf : Faulty before x f) (hg : Faulty before x g) :
    f = g := by
  cases hf <;> cases hg <;> rfl

/-- there is one first fault -/
theorem FirstFault.unique {before evs : List Event} {f g : Fault} (hf : FirstFault before evs f)
    (hg : FirstFault before evs g) : f = g := by
  obtain ⟨us, x, vs, rfl, hus, hx⟩ := hf
  obtain ⟨ws, y, zs, heq, hws, hy⟩ := hg
  rcases List.append_eq_append_iff.1 heq with ⟨as, rfl, has⟩ | ⟨as, rfl, has⟩
  · cases as with
    | nil =>
      obtain ⟨rfl, -⟩ := List.cons.inj has
      rw [List.append_nil] at hy
      exact hx.unique hy
    | cons a as =>
      obtain ⟨rfl, -⟩ := List.cons.inj has
      exact absurd hx (hws us x as rfl f)
  · cases as with
    | nil =>
      obtain ⟨rfl, -⟩ := List.cons.inj has
      rw [List.append_nil] at hx
      exact hx.unique hy
    | cons a as =>
      obtain ⟨rfl, -⟩ := List.cons.inj has
      exact absurd hy (hus ws y as rfl g)

theorem FirstFault.not_faultless {before evs : List Event} {f : Fault} (h : FirstFault before evs f) :
    ¬ Faultless before evs := by
  obtain ⟨us, x, vs, hevs, -, hx⟩ := h
  exact fun hall => hall us x vs hevs f hx

/-! ## The builder meets the events -/

/-- an open group and the number of its children -/
def Frame.summary (f : Frame) : Connective × ℕ := (f.connective, f.children.length)

namespace Builder

/-- the event of an action, if its marker is known -/
def Action.event? : Action → Option Event
  | .tile => some .tile
  | .marker m => (Connective.ofByte? m).map .opening
  | .leaf _ => some .leaf
  | .closing => some .closing

/-- a builder that has met `before` and nothing was at fault -/
structure Tracks (before : List Event) (b : Builder) : Prop where
  groups : b.opened.map Frame.summary = groupsAfter before
  root : b.root.isSome = true ↔ RootComplete before
  limit : b.opened.length ≤ maxDepth
  read : ∀ f ∈ b.opened, f.children ≠ [] → .leaf ∈ before

theorem tracks_start : Tracks [] start where
  groups := rfl
  root := ⟨fun h => absurd h (by simp [start]), fun h => absurd h.read (by simp)⟩
  limit := Nat.zero_le _
  read := by simp [start]

section

variable {before : List Event} {b b' : Builder} {a : Action} {e : Event} {n : Node} {p : Phase} {due : List Action}

theorem Tracks.length_groups (h : Tracks before b) : (groupsAfter before).length = b.opened.length := by
  rw [← h.groups, List.length_map]

theorem Tracks.faulty (h : Tracks before b) (he : a.event? = some e) {f : Fault} (hrefuses : b.Refuses a f) :
    Faulty before e f := by
  cases hrefuses with
  | tooDeep m full =>
    obtain ⟨c, -, rfl⟩ := Option.map_eq_some_iff.1 he
    exact .tooDeep c (h.length_groups.trans (le_antisymm h.limit full))
  | nothingOpen closed =>
    obtain rfl := Option.some.inj he
    exact .nothingOpen (by rw [← h.groups, closed]; rfl)
  | fewChildren innermost binary few =>
    obtain rfl := Option.some.inj he
    exact .fewChildren (by rw [← h.groups, innermost]; rfl) binary few
  | rootComplete complete =>
    obtain rfl := Option.some.inj he
    exact .rootComplete (h.root.1 (by rw [complete]; rfl))

theorem Tracks.refuses_closing (h : Tracks before b) {f : Fault} (hfaulty : Faulty before .closing f) :
    b.Refuses .closing f := by
  have hgroups := h.groups
  cases hfaulty with
  | nothingOpen closed =>
    rw [closed, List.map_eq_nil_iff] at hgroups
    exact .nothingOpen hgroups
  | fewChildren innermost binary few =>
    rw [innermost] at hgroups
    obtain ⟨f, fs, hopened, hf, -⟩ := List.map_eq_cons_iff.1 hgroups
    obtain ⟨rfl, rfl⟩ := Prod.mk.inj hf
    exact .fewChildren hopened binary few

/-- **Faults.** An action is refused for what is wrong with its event. -/
theorem Tracks.refuses_iff (h : Tracks before b) (he : a.event? = some e) {f : Fault} :
    b.Refuses a f ↔ Faulty before e f := by
  refine ⟨h.faulty he, fun hfaulty => ?_⟩
  cases a with
  | tile =>
    obtain rfl := Option.some.inj he
    cases hfaulty with
    | rootComplete complete =>
      obtain ⟨n, hn⟩ := Option.isSome_iff_exists.1 (h.root.2 complete)
      exact .rootComplete hn
  | marker m =>
    obtain ⟨c, -, rfl⟩ := Option.map_eq_some_iff.1 he
    cases hfaulty with
    | tooDeep _ full => exact .tooDeep m (by rw [← h.length_groups, full])
  | leaf i =>
    obtain rfl := Option.some.inj he
    cases hfaulty
  | closing =>
    obtain rfl := Option.some.inj he
    exact h.refuses_closing hfaulty

/-- after a node is taken the root is complete if no group is open -/
theorem Attaches.tracks (h : Attaches n b b') (hroot : b.root = none) (hlimit : b.opened.length ≤ maxDepth)
    (hread : .leaf ∈ before ++ [e]) (hgroups : groupsAfter (before ++ [e]) = Groups.child (b.opened.map Frame.summary)) :
    Tracks (before ++ [e]) b' := by
  cases h with
  | root => exact ⟨hgroups.symm, ⟨fun _ => ⟨hread, hgroups⟩, fun _ => rfl⟩, hlimit, by simp⟩
  | child f fs root =>
    obtain rfl : root = none := hroot
    refine ⟨?_, ⟨nofun, fun hcomplete => ?_⟩, hlimit, fun _ _ _ => hread⟩
    · rw [hgroups]
      simp [Frame.summary, Groups.child]
    · -- a group is open, so nothing is complete
      cases hgroups.symm.trans hcomplete.closed

theorem Tracks.tile (h : Tracks before b) : Tracks (before ++ [.tile]) b := by
  have hgroups : groupsAfter (before ++ [.tile]) = groupsAfter before := groupsAfter_concat before .tile
  refine ⟨hgroups ▸ h.groups, ?_, h.limit, fun f hf hne => List.mem_append_left _ (h.read f hf hne)⟩
  rw [h.root]
  constructor
  · exact fun hcomplete => ⟨List.mem_append_left _ hcomplete.read, hgroups.trans hcomplete.closed⟩
  · exact fun hcomplete => ⟨by simpa using hcomplete.read, hgroups.symm.trans hcomplete.closed⟩

/-- behind an opening nothing is complete -/
theorem Tracks.opening (h : Tracks before b) (hroot : b.root = none) (room : b.opened.length < maxDepth)
    (c : Connective) : Tracks (before ++ [.opening c]) { b with opened := ⟨c, []⟩ :: b.opened } := by
  have hgroups : groupsAfter (before ++ [.opening c]) = (c, 0) :: groupsAfter before :=
    groupsAfter_concat before (.opening c)
  refine ⟨?_, ⟨fun hsome => ?_, fun hcomplete => ?_⟩, room, ?_⟩
  · rw [hgroups, ← h.groups]
    rfl
  · simp [hroot] at hsome
  · cases hgroups.symm.trans hcomplete.closed
  · intro f hf hne
    rcases List.mem_cons.1 hf with rfl | hf
    · exact absurd rfl hne
    · exact List.mem_append_left _ (h.read f hf hne)

/-- **One action of a row.** -/
theorem Tracks.performs (h : Tracks before b) (hdue : Due p (a :: due)) (hb : p.Holds b) (hperforms : b.Performs a b')
    (he : a.event? = some e) : Tracks (before ++ [e]) b' := by
  cases hperforms with
  | tile _ =>
    obtain rfl := Option.some.inj he
    exact h.tile
  | @marker m c known room =>
    obtain rfl : .opening c = e := by simpa [Action.event?, known] using he
    cases hdue with
    | marker _ _ => exact h.opening hb room c
  | hands handed taken =>
    have hroot := handed.root_eq_none hdue hb
    cases handed with
    | leaf i =>
      obtain rfl := Option.some.inj he
      refine taken.tracks hroot h.limit (by simp) ?_
      rw [groupsAfter_concat, ← h.groups]
      rfl
    | @closing f fs innermost operands =>
      obtain rfl := Option.some.inj he
      have hgroups : groupsAfter before = f.summary :: fs.map Frame.summary := by
        rw [← h.groups, innermost]
        rfl
      have hlimit := h.limit
      rw [innermost, List.length_cons] at hlimit
      -- the group has a child, so a comparison was read
      have hchildren : f.children ≠ [] := fed_of_due hdue hb f (by rw [innermost]; rfl)
      have hread : .leaf ∈ before := h.read f (by simp [innermost]) hchildren
      refine taken.tracks hroot (Nat.le_of_succ_le hlimit) (List.mem_append_left _ hread) ?_
      rw [groupsAfter_concat, hgroups]
      rfl

/-- what is due has an event -/
theorem Due.exists_event (h : Due p (a :: due)) : ∃ e, a.event? = some e := by
  cases h with
  | @marker m c _ known _ => exact ⟨.opening c, by simp [Action.event?, known]⟩
  | first _ | leaf _ _ | closing _ | tile _ => exact ⟨_, rfl⟩

/-- The outcome of meeting `evs` after `before`: either nothing was at fault, or the failure is the first fault. -/
inductive Meets (before evs : List Event) : Except Fault Builder → Prop
  | ok {b : Builder} (faultless : Faultless before evs) : Meets before evs (.ok b)
  | error {f : Fault} (first : FirstFault before evs f) : Meets before evs (.error f)

theorem Meets.cons {evs : List Event} {x : Except Fault Builder} (he : ∀ f, ¬ Faulty before e f)
    (h : Meets (before ++ [e]) evs x) : Meets before (e :: evs) x := by
  have hsingle := faultless_singleton he
  cases h with
  | ok faultless => exact .ok (hsingle.append faultless)
  | error first => exact .error (.append_left hsingle first)

/-- **A row of actions.** The builder fails at the first fault of the row, or performs all of it. -/
theorem performAll_meets (hdue : Due p due) (hb : p.Holds b) (h : Tracks before b) :
    Meets before (due.filterMap Action.event?) (b.performAll due) := by
  induction due generalizing p b before with
  | nil => exact .ok (faultless_nil before)
  | cons a due ih =>
    obtain ⟨e, he⟩ := hdue.exists_event
    have houtcome := perform_outcome hdue hb
    rw [List.filterMap_cons_some he, performAll]
    cases hperform : b.perform a with
    | error f =>
      rw [hperform] at houtcome
      cases houtcome with
      | refused reason => exact .error ((firstFault_singleton ((h.refuses_iff he).1 reason)).append_right _)
    | ok b' =>
      rw [hperform] at houtcome
      cases houtcome with
      | performed allowed rest holds =>
        refine Meets.cons (fun f hf => allowed f ((h.refuses_iff he).2 hf)) ?_
        exact ih rest holds (h.performs hdue hb (perform_eq_ok.1 hperform) he)

theorem Due.countP_event (h : Due p due) :
    due.countP Action.isMarker = (due.filterMap Action.event?).countP Event.isOpening ∧
      due.countP Action.isClosing = (due.filterMap Action.event?).countP Event.isClosing := by
  induction h with
  | done => exact ⟨rfl, rfl⟩
  | marker known _ ih =>
    simp [List.countP_cons, Action.event?, known, Action.isMarker, Action.isClosing, Event.isOpening, Event.isClosing, ih]
  | first _ ih | leaf _ _ ih | closing _ ih | tile _ ih =>
    simp [List.countP_cons, Action.event?, Action.isMarker, Action.isClosing, Event.isOpening, Event.isClosing, ih]

end

/-- the events that tiles are read as -/
theorem events_rowActions {α : Type} {rs : List (Run α)} {tiles : List Tile} (h : List.Forall₂ Run.Reads rs tiles) (k : ℕ) :
    (rowActions k tiles).filterMap Action.event? = rs.flatMap Run.events := by
  induction h generalizing k with
  | nil => rfl
  | @cons r t rs tiles hr _ ih =>
    rw [rowActions, List.filterMap_append, ih, List.flatMap_cons]
    simp [tileActions, Run.events, List.filterMap_map, Function.comp_def, List.filterMap_replicate, Action.event?,
      hr.filterMap_markers, hr.closing]

end Builder

/-- **The groups.** In a row of tiles with as many closings as openings, what fails is the first fault. -/
theorem skeleton_eq_error {α : Type} {rs : List (Run α)} {tiles : List Tile} (h : List.Forall₂ Run.Carries rs tiles)
    (hne : rs ≠ [])
    (hbalance : (rs.flatMap Run.events).countP Event.isOpening = (rs.flatMap Run.events).countP Event.isClosing)
    {filter : String} {e : FilterError} : skeleton filter tiles = .error e ↔
      e.filter = filter ∧ FirstFault [] (rs.flatMap Run.events) e.fault := by
  have hreads := h.imp fun _ _ hr => Run.Carries.reads hr
  have hdue := Builder.due_rowActions_idle hreads hne 0
  have hevents := Builder.events_rowActions hreads 0
  have hmeets := Builder.performAll_meets hdue rfl Builder.tracks_start
  obtain ⟨hmarkers, hclosings⟩ := hdue.countP_event
  rw [hevents] at hmeets hmarkers hclosings
  have hcount := hmarkers.trans (hbalance.trans hclosings.symm)
  obtain ⟨fault, text⟩ := e
  rw [skeleton, Builder.run_eq_performAll]
  cases hrun : Builder.start.performAll (Builder.rowActions 0 tiles) with
  | error f =>
    rw [hrun] at hmeets
    cases hmeets with
    | error first =>
      simp only [Except.bind, Except.mapError, Except.error.injEq, FilterError.mk.injEq]
      constructor
      · rintro ⟨rfl, rfl⟩
        exact ⟨rfl, first⟩
      · rintro ⟨rfl, hfault⟩
        exact ⟨first.unique hfault, rfl⟩
  | ok b =>
    rw [hrun] at hmeets
    obtain ⟨n, rfl⟩ := Builder.exists_root hdue hcount hrun
    simp only [Except.bind, Builder.finish_eq_ok.2 rfl, Except.mapError]
    constructor
    · intro h
      cases h
    · rintro ⟨-, hfirst⟩
      cases hmeets with
      | ok faultless => exact absurd faultless hfirst.not_faultless

/-! ## Diagnoses -/

/-- a filter starts with an opening and ends with a closing parenthesis -/
structure Enclosed (filter : String) : Prop where
  first : filter.toList.head? = some '('
  last : filter.toList.getLast? = some ')'

/-- as many parentheses open as close -/
def Balanced (filter : String) : Prop := filter.toList.count '(' = filter.toList.count ')'

/-- what is wrong with a filter -/
inductive Diagnosis (schema : Schema) (filter : String) : Fault → Prop
  | missingParentheses (bare : ¬ Enclosed filter) : Diagnosis schema filter .missingParentheses
  | unbalanced (enclosed : Enclosed filter) (uneven : ¬ Balanced filter) : Diagnosis schema filter .unbalanced
  /-- the leftmost property of the longest row of tiles that the schema does not resolve -/
  | unknownProperty {before after : List (Run Atom)} {r : Run Atom} {rest : List Char} (enclosed : Enclosed filter)
      (balanced : Balanced filter) (row : LongestRow (Text.lower filter.toList) (before ++ r :: after) rest)
      (known : ∀ q ∈ before, q.Known schema) (unknown : ¬ r.Known schema) :
      Diagnosis schema filter (.unknownProperty (String.ofList r.leaf.property))
  /-- tiles do not cover the text -/
  | malformed {rs : List (Run Atom)} {rest : List Char} (enclosed : Enclosed filter) (balanced : Balanced filter)
      (row : LongestRow (Text.lower filter.toList) rs rest) (known : ∀ r ∈ rs, r.Known schema)
      (uncovered : rest ≠ [] ∨ rs = []) : Diagnosis schema filter .malformed
  /-- tiles cover the text, and `f` is the first fault of their groups -/
  | groups {rs : List (Run Atom)} {f : Fault} (enclosed : Enclosed filter) (balanced : Balanced filter)
      (row : LongestRow (Text.lower filter.toList) rs []) (nonempty : rs ≠ []) (known : ∀ r ∈ rs, r.Known schema)
      (first : FirstFault [] (rs.flatMap Run.events) f) : Diagnosis schema filter f

theorem validate_of_not_enclosed {filter : String} (h : ¬ Enclosed filter) :
    validate filter = .error ⟨.missingParentheses, filter⟩ := by
  rw [validate]
  refine if_pos ?_
  by_contra hnot
  rw [not_or, not_not, not_not] at hnot
  exact h ⟨hnot.1, hnot.2⟩

theorem validate_of_not_balanced {filter : String} (henclosed : Enclosed filter) (h : ¬ Balanced filter) :
    validate filter = .error ⟨.unbalanced, filter⟩ := by
  have hbare : ¬ (filter.toList.head? ≠ some '(' ∨ filter.toList.getLast? ≠ some ')') := by
    simp [henclosed.first, henclosed.last]
  rw [validate]
  exact (if_neg hbare).trans (if_pos h)

theorem validate_of_balanced {filter : String} (henclosed : Enclosed filter) (h : Balanced filter) :
    validate filter = .ok () := by
  have hbare : ¬ (filter.toList.head? ≠ some '(' ∨ filter.toList.getLast? ≠ some ')') := by
    simp [henclosed.first, henclosed.last]
  rw [validate]
  exact (if_neg hbare).trans (if_neg (not_not.2 h))

/-- extraction, said of the longest row -/
theorem extract_of_row {schema : Schema} {filter : String} {rs : List (Run Atom)} {rest : List Char}
    (row : LongestRow (Text.lower filter.toList) rs rest) : extract schema filter =
      match resolveTiles schema (rs.map Run.raw) with
      | .error f => .error ⟨f, filter⟩
      | .ok tiles => if rest ≠ [] ∨ tiles = [] then .error ⟨.malformed, filter⟩ else .ok tiles := by
  have hscan := scan_eq_iff.2 row
  rw [extract]
  generalize Tile.scan (Text.lower filter.toList) = scanned at hscan ⊢
  subst hscan
  rfl

theorem forall_known {schema : Schema} {rs : List (Run Atom)} {tiles : List Tile}
    (h : List.Forall₂ (Run.Resolves schema) rs tiles) : ∀ r ∈ rs, r.Known schema := by
  induction h with
  | nil => simp
  | cons hr _ ih =>
    obtain ⟨field, hfield, -⟩ := resolves_iff.1 hr
    refine List.forall_mem_cons.2 ⟨?_, ih⟩
    rw [Run.Known, hfield]
    rfl

theorem Run.count_text {r : Run Atom} (h : r.leaf.Legal) :
    r.text.count '(' = r.events.countP Event.isOpening + 1 ∧ r.text.count ')' = r.events.countP Event.isClosing + 1 := by
  have hmarkers : (Connective.markers r.opens).count '(' = r.opens.length ∧
      (Connective.markers r.opens).count ')' = 0 := by
    induction r.opens with
    | nil => exact ⟨rfl, rfl⟩
    | cons c cs ih => cases c <;> simpa [Connective.markers, Connective.symbol] using ih
  have hopenings : (r.opens.map Event.opening).countP Event.isOpening = r.opens.length ∧
      (r.opens.map Event.opening).countP Event.isClosing = 0 := by
    simp [List.countP_map, Event.isOpening, Event.isClosing, Function.comp_def]
  constructor
  · rw [Run.text, List.count_append, List.count_append, hmarkers.1, h.count_text (Or.inl rfl), List.count_replicate]
    simp [Run.events, hopenings.1, Event.isOpening, List.countP_replicate]
  · rw [Run.text, List.count_append, List.count_append, hmarkers.2, h.count_text (Or.inr rfl), List.count_replicate]
    simp [Run.events, hopenings.2, Event.isClosing, List.countP_replicate]
    omega

theorem countP_events {rs : List (Run Atom)} (h : ∀ r ∈ rs, r.leaf.Legal) :
    (rs.flatMap Run.text).count '(' = (rs.flatMap Run.events).countP Event.isOpening + rs.length ∧
      (rs.flatMap Run.text).count ')' = (rs.flatMap Run.events).countP Event.isClosing + rs.length := by
  induction rs with
  | nil => exact ⟨rfl, rfl⟩
  | cons r rs ih =>
    obtain ⟨hr, hrs⟩ := List.forall_mem_cons.1 h
    obtain ⟨hopen, hclose⟩ := Run.count_text hr
    obtain ⟨ihopen, ihclose⟩ := ih hrs
    simp only [List.flatMap_cons, List.count_append, List.countP_append, List.length_cons]
    omega

/-- in a balanced filter covered by tiles as many groups close as open -/
theorem LongestRow.balance {filter : String} {rs : List (Run Atom)}
    (row : LongestRow (Text.lower filter.toList) rs []) (h : Balanced filter) :
    (rs.flatMap Run.events).countP Event.isOpening = (rs.flatMap Run.events).countP Event.isClosing := by
  obtain ⟨hopen, hclose⟩ := countP_events row.legal
  have htext : Text.lower filter.toList = rs.flatMap Run.text := by rw [row.text, List.append_nil]
  rw [← htext, Text.count_lower Text.isFixed_opening] at hopen
  rw [← htext, Text.count_lower Text.isFixed_closing, ← show _ = _ from h] at hclose
  omega

/-- **Diagnoses are reported.** -/
theorem Diagnosis.compileExpr_eq {schema : Schema} {filter : String} {f : Fault} (h : Diagnosis schema filter f)
    (o : Options) : compileExpr o schema filter = .error ⟨f, filter⟩ := by
  rw [compileExpr]
  cases h with
  | missingParentheses bare => rw [validate_of_not_enclosed bare]; rfl
  | unbalanced enclosed uneven => rw [validate_of_not_balanced enclosed uneven]; rfl
  | @unknownProperty before after r rest enclosed balanced row known unknown =>
    have hresolve := resolveTiles_eq_error.2 ⟨before, r, after, rfl, known, unknown, rfl⟩
    rw [validate_of_balanced enclosed balanced, extract_of_row row, hresolve]
    rfl
  | @malformed rs rest enclosed balanced row known uncovered =>
    obtain ⟨tiles, htiles⟩ := exists_tiles known
    have huncovered : rest ≠ [] ∨ tiles = [] := uncovered.imp_right fun hrs => by
      rw [hrs] at htiles
      exact List.forall₂_nil_left_iff.1 htiles
    rw [validate_of_balanced enclosed balanced, extract_of_row row, resolveTiles_eq_ok.2 htiles]
    simp only [if_pos huncovered]
    rfl
  | @groups rs _ enclosed balanced row nonempty known first =>
    obtain ⟨tiles, htiles⟩ := exists_tiles known
    have hcovered : ¬ (([] : List Char) ≠ [] ∨ tiles = []) := by
      rintro (h | rfl)
      · exact h rfl
      · exact nonempty (List.forall₂_nil_right_iff.1 htiles)
    have hskeleton := (skeleton_eq_error (htiles.imp fun _ _ hr => hr.carries) nonempty (row.balance balanced)).2
      (show (⟨f, filter⟩ : FilterError).filter = filter ∧ _ from ⟨rfl, first⟩)
    rw [validate_of_balanced enclosed balanced, extract_of_row row, resolveTiles_eq_ok.2 htiles]
    simp only [if_neg hcovered]
    change (skeleton filter tiles).bind _ = _
    rw [hskeleton]
    rfl

/-- **Every error is a diagnosis.** -/
theorem exists_diagnosis {o : Options} {schema : Schema} {filter : String} {e : FilterError}
    (h : compileExpr o schema filter = .error e) : ∃ f, Diagnosis schema filter f := by
  by_cases henclosed : Enclosed filter
  swap
  · exact ⟨_, .missingParentheses henclosed⟩
  by_cases hbalanced : Balanced filter
  swap
  · exact ⟨_, .unbalanced henclosed hbalanced⟩
  rcases hscan : Tile.scan (Text.lower filter.toList) with ⟨ts, rest⟩
  obtain ⟨rs, rfl, row⟩ := scan_longest hscan
  cases hresolve : resolveTiles schema (rs.map Run.raw) with
  | error f =>
    obtain ⟨before, r, after, rfl, known, unknown, -⟩ := resolveTiles_eq_error.1 hresolve
    exact ⟨_, .unknownProperty henclosed hbalanced row known unknown⟩
  | ok tiles =>
    have htiles := resolveTiles_eq_ok.1 hresolve
    have known := forall_known htiles
    by_cases huncovered : rest ≠ [] ∨ rs = []
    · exact ⟨_, .malformed henclosed hbalanced row known huncovered⟩
    · obtain ⟨rfl, nonempty⟩ : rest = [] ∧ rs ≠ [] := by simpa using huncovered
      have hextract : extract schema filter = .ok tiles :=
        extract_eq_ok.2 ⟨rs, nonempty, row.legal, by rw [row.text, List.append_nil], htiles⟩
      cases hskeleton : skeleton filter tiles with
      | error g =>
        have hcarries := htiles.imp fun _ _ hr => hr.carries
        exact ⟨_, .groups henclosed hbalanced row nonempty known
          ((skeleton_eq_error hcarries nonempty (row.balance hbalanced)).1 hskeleton).2⟩
      | ok n =>
        -- a skeleton comes from a derivation, and then the filter compiles
        obtain ⟨d, hd, hdepth, htext, -, -⟩ := exists_derivation hextract hskeleton
        rw [Sentence.compileExpr_eq hd hdepth htext o] at h
        cases h

/-- **Errors are classified.** Compiling fails exactly when something is wrong with the filter, with what is wrong first,
and the error carries the filter as it was given. -/
theorem compileExpr_eq_error_iff (o : Options) (schema : Schema) (filter : String) (e : FilterError) :
    compileExpr o schema filter = .error e ↔ e.filter = filter ∧ Diagnosis schema filter e.fault := by
  constructor
  · intro h
    obtain ⟨f, hf⟩ := exists_diagnosis h
    obtain rfl := Except.error.inj ((hf.compileExpr_eq o).symm.trans h)
    exact ⟨rfl, hf⟩
  · rintro ⟨rfl, hf⟩
    exact hf.compileExpr_eq o

/-- an unknown property is named if it stands before the first gap between tiles, and not if it stands behind it -/
example :
    compileExpr (.default Like.library .standard) (.ofNames ["Sn"]) "(&(cn=a)+(sn=b))" =
      .error ⟨.unknownProperty "cn", "(&(cn=a)+(sn=b))"⟩ ∧
    compileExpr (.default Like.library .standard) (.ofNames ["Sn"]) "(&(sn=a)+(cn=b))" = .error ⟨.malformed, "(&(sn=a)+(cn=b))"⟩ := by
  constructor
  · cbv
  · cbv

end SearchFilter
