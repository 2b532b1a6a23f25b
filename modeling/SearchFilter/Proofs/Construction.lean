/-
What cannot happen while a skeleton is built.

The builder is on its guard throughout: it refuses a marker it does not know, a second root, a group that closes without a
child, and an end with groups open. After validation and extraction none of this can be met.
- `Builder.Reaches`: the points of a run, each with the actions that are still due, which decide how the run ends.
- `Builder.Safe`: an action for which these defences are not needed; `Builder.safe_of_holds` from what the builder holds.
- `skeleton_safe`: nothing is refused for another reason than the four, and a run that is not refused ends with a root and
  nothing open.
-/
import Mathlib
import SearchFilter.Proofs.Diagnosis

namespace SearchFilter

namespace Builder

/-! ## The points of a run -/

/-- In the run over `tiles` the builder comes to be `b`, with the actions `due` still to be performed. -/
inductive Reaches (tiles : List Tile) : Builder → List Action → Prop
  | initial : Reaches tiles .start (rowActions 0 tiles)
  | next {b b' : Builder} {a : Action} {due : List Action} (before : Reaches tiles b (a :: due))
      (performed : b.perform a = .ok b') : Reaches tiles b' due

namespace Reaches

variable {tiles : List Tile} {b : Builder} {due : List Action}

/-- how a run ends is decided by what is still due -/
theorem run_eq (h : Reaches tiles b due) : Builder.start.run 0 tiles = b.performAll due := by
  induction h with
  | initial => exact run_eq_performAll Builder.start 0 tiles
  | next _ performed ih =>
    rw [ih, performAll, performed]
    rfl

/-- a run fails at one of its points -/
theorem of_performAll_error (h : Reaches tiles b due) {f : Fault} (herror : b.performAll due = .error f) :
    ∃ b' a due', Reaches tiles b' (a :: due') ∧ b'.perform a = .error f := by
  induction due generalizing b with
  | nil => cases herror
  | cons a due ih =>
    rw [performAll] at herror
    cases hperform : b.perform a with
    | error g =>
      rw [hperform] at herror
      obtain rfl : g = f := Except.error.inj herror
      exact ⟨b, a, due, h, hperform⟩
    | ok b1 =>
      rw [hperform] at herror
      exact ih (h.next hperform) herror

end Reaches

/-! ## Safety -/

/-- an action for which the other defences of the builder are not needed -/
structure Safe (b : Builder) (a : Action) : Prop where
  /-- a marker names an operator -/
  known : ∀ m, a = .marker m → ∃ c, Connective.ofByte? m = some c
  /-- a node that is handed over is taken -/
  taken : ∀ b' n, b.Hands a b' n → ∃ b'', b'.attach n = .ok b''
  /-- a group, NOT or other, that closes has a child -/
  fed : ∀ f fs, a = .closing → b.opened = f :: fs → f.children ≠ []

theorem safe_of_holds {p : Phase} {b : Builder} {a : Action} {due : List Action} (hdue : Due p (a :: due))
    (hb : p.Holds b) : b.Safe a := by
  refine ⟨?_, ?_, ?_⟩
  · intro m hm
    subst hm
    cases hdue with
    | marker known _ => exact ⟨_, known⟩
  · intro b' n h
    obtain ⟨b'', htaken, -⟩ := exists_attaches (h.root_eq_none hdue hb) n
    exact ⟨b'', attach_eq_ok.2 htaken⟩
  · intro f fs ha hopened
    subst ha
    apply fed_of_due hdue hb
    rw [hopened]
    rfl

/-- **The run.** At every point of a run the builder holds what the phase asks for. -/
theorem Reaches.holds {tiles : List Tile} {b : Builder} {due : List Action} (hrow : Due .idle (rowActions 0 tiles))
    (h : Reaches tiles b due) : ∃ p, Due p due ∧ p.Holds b := by
  induction h with
  | initial => exact ⟨.idle, hrow, rfl⟩
  | next _ performed ih =>
    obtain ⟨p, hdue, hb⟩ := ih
    exact perform_holds hdue hb (perform_eq_ok.1 performed)

end Builder

/-! ## The tiles of a filter -/

open Builder

section

variable {schema : Schema} {filter : String} {tiles : List Tile}

theorem due_of_extract (h : extract schema filter = .ok tiles) : Due .idle (rowActions 0 tiles) := by
  obtain ⟨rs, hne, -, -, hall⟩ := extract_eq_ok.1 h
  exact due_rowActions_idle (hall.imp fun _ _ hr => hr.carries.reads) hne 0

/-- as many parentheses open as close, and each comparison has one of either: so as many groups open as close -/
theorem countP_of_validate (hvalid : validate filter = .ok ()) (hextract : extract schema filter = .ok tiles) :
    (rowActions 0 tiles).countP Action.isMarker = (rowActions 0 tiles).countP Action.isClosing := by
  obtain ⟨rs, -, hlegal, htext, hall⟩ := extract_eq_ok.1 hextract
  obtain ⟨-, -, hcount⟩ := validate_eq_ok.1 hvalid
  obtain ⟨hopen, hclose⟩ := countP_events hlegal
  obtain ⟨hmarkers, hclosings⟩ := (due_of_extract hextract).countP_event
  rw [hmarkers, hclosings, events_rowActions (hall.imp fun _ _ hr => hr.carries.reads)]
  rw [← htext] at hcount
  omega

/-- a run that is not refused ends with a root and nothing open -/
theorem exists_root_of_run (hvalid : validate filter = .ok ()) (hextract : extract schema filter = .ok tiles)
    {b : Builder} (h : Builder.start.run 0 tiles = .ok b) : ∃ n, b = ⟨[], some n⟩ := by
  rw [run_eq_performAll] at h
  exact exists_root (due_of_extract hextract) (countP_of_validate hvalid hextract) h

theorem skeleton_of_run_ok {n : Node} (h : Builder.start.run 0 tiles = .ok ⟨[], some n⟩) :
    skeleton filter tiles = .ok n := by
  rw [skeleton, h]
  rfl

theorem skeleton_of_run_error {f : Fault} (h : Builder.start.run 0 tiles = .error f) :
    skeleton filter tiles = .error ⟨f, filter⟩ := by
  rw [skeleton, h]
  rfl

/-- **What cannot happen while a skeleton is built.** Over the tiles extracted from a filter whose parentheses were checked:
- at every point of the run, what is still due decides how the run ends, and a finished root has no group open;
- every action of the run is one for which the defences of the builder are not needed;
- a run that is not refused ends with a root and nothing open, and that root is the skeleton;
- a skeleton is refused exactly when the run reaches an action that opens a group beyond the depth limit, closes a group
  where none is open, closes an AND or an OR with fewer than two children, or starts a tile behind a finished root. -/
theorem skeleton_safe (hvalid : validate filter = .ok ()) (hextract : extract schema filter = .ok tiles) :
    (∀ b due, Reaches tiles b due →
      Builder.start.run 0 tiles = b.performAll due ∧ (b.root.isSome = true → b.opened = [])) ∧
    (∀ b a due, Reaches tiles b (a :: due) → b.Safe a) ∧
    (∀ b, Builder.start.run 0 tiles = .ok b →
      ∃ n, b.root = some n ∧ b.opened = [] ∧ skeleton filter tiles = .ok n) ∧
    ∀ e, skeleton filter tiles = .error e ↔
      e.filter = filter ∧ ∃ b a due, Reaches tiles b (a :: due) ∧ b.Refuses a e.fault := by
  have hrow : Due .idle (rowActions 0 tiles) := due_of_extract hextract
  refine ⟨fun b due h => ⟨h.run_eq, ?_⟩, fun b a due h => ?_, fun b h => ?_, fun e => ⟨fun h => ?_, ?_⟩⟩
  · obtain ⟨p, -, hb⟩ := h.holds hrow
    exact hb.closed
  · obtain ⟨p, hdue, hb⟩ := h.holds hrow
    exact safe_of_holds hdue hb
  · obtain ⟨n, rfl⟩ := exists_root_of_run hvalid hextract h
    exact ⟨n, rfl, rfl, skeleton_of_run_ok h⟩
  · cases hrun : Builder.start.run 0 tiles with
    | ok b =>
      obtain ⟨n, rfl⟩ := exists_root_of_run hvalid hextract hrun
      cases (skeleton_of_run_ok hrun).symm.trans h
    | error f =>
      obtain rfl := Except.error.inj ((skeleton_of_run_error hrun).symm.trans h)
      rw [run_eq_performAll] at hrun
      obtain ⟨b, a, due, hreaches, hperform⟩ := Reaches.initial.of_performAll_error hrun
      obtain ⟨p, hdue, hb⟩ := hreaches.holds hrow
      exact ⟨rfl, b, a, due, hreaches, (perform_eq_error_iff hdue hb).1 hperform⟩
  · obtain ⟨fault, text⟩ := e
    rintro ⟨rfl, b, a, due, hreaches, hrefuses⟩
    obtain ⟨p, hdue, hb⟩ := hreaches.holds hrow
    have hperform : b.perform a = .error fault := (perform_eq_error_iff hdue hb).2 hrefuses
    apply skeleton_of_run_error
    rw [hreaches.run_eq, performAll, hperform]
    rfl

end

/-- A NOT group closes over its comparison and is the root, and the tile behind it is refused. Without that tile the root is
the skeleton. -/
theorem skeleton_safe_sibling :
    (∃ tiles, validate "(!(a=1))(b=2)" = .ok () ∧ extract (.ofNames ["a", "b"]) "(!(a=1))(b=2)" = .ok tiles ∧
      (∃ due, Reaches tiles ⟨[⟨.not, [.leaf 0]⟩], none⟩ (.closing :: due) ∧ Safe ⟨[⟨.not, [.leaf 0]⟩], none⟩ .closing) ∧
      (∃ b due, Reaches tiles b (.tile :: due) ∧ b.root.isSome = true ∧ b.opened = []) ∧
      skeleton "(!(a=1))(b=2)" tiles = .error ⟨.unresolvable, "(!(a=1))(b=2)"⟩) ∧
    ∃ tiles, validate "(!(a=1))" = .ok () ∧ extract (.ofNames ["a", "b"]) "(!(a=1))" = .ok tiles ∧
      ∃ n, skeleton "(!(a=1))" tiles = .ok n := by
  constructor
  · set tiles : List Tile := [⟨"(!", 1, ⟨"a", .equal, "1", true⟩⟩, ⟨"", 0, ⟨"b", .equal, "2", false⟩⟩]
    have hvalid : validate "(!(a=1))(b=2)" = .ok () := rfl
    have hextract : extract (.ofNames ["a", "b"]) "(!(a=1))(b=2)" = .ok tiles := rfl
    have hclosing : Reaches tiles ⟨[⟨.not, [.leaf 0]⟩], none⟩ [.closing, .tile, .leaf 1] :=
      ((Reaches.initial.next rfl).next rfl).next rfl
    have hroot : Reaches tiles ⟨[], some (.group .not [.leaf 0])⟩ [.tile, .leaf 1] := hclosing.next rfl
    obtain ⟨hpoints, hsafe, -, hrefused⟩ := skeleton_safe hvalid hextract
    refine ⟨tiles, hvalid, hextract, ⟨_, hclosing, hsafe _ _ _ hclosing⟩, ?_, ?_⟩
    · exact ⟨_, _, hroot, rfl, (hpoints _ _ hroot).2 rfl⟩
    · exact (hrefused _).2 ⟨rfl, _, _, _, hroot, .rootComplete rfl⟩
  · set tiles : List Tile := [⟨"(!", 1, ⟨"a", .equal, "1", true⟩⟩]
    have hvalid : validate "(!(a=1))" = .ok () := rfl
    have hextract : extract (.ofNames ["a", "b"]) "(!(a=1))" = .ok tiles := rfl
    obtain ⟨-, -, hends, -⟩ := skeleton_safe hvalid hextract
    obtain ⟨n, -, -, hn⟩ := hends ⟨[], some (.group .not [.leaf 0])⟩ rfl
    exact ⟨tiles, hvalid, hextract, n, hn⟩

end SearchFilter
