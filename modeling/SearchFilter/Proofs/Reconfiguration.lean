/-
Options over the life of a process.

The current options come from the defaults, from a configuration file, or from builder calls on options that were there
before. Whichever it was, their namespaces are listed once and start with the default one. A predicate is compiled, evaluated
and rendered with the options that were current when it was compiled, and no later step takes them away.
- `Options.addNew_eq`, `Options.changes_namespaces`: builder calls put behind the list what was not in it, once, in the order
  of the calls.
- `Options.Listed`: what holds of the namespaces of every options value.
- `Session.Sound`, `Session.step_sound`, `Session.run_sound`: the invariant of a process, over one step and over a run.
- `Session.step_compile`: all that compiling does; `Session.lookup_run`: what was compiled under a name stays there until
  another filter is compiled under it.
- `Session.run_reconfigured`: the three together, over every run from the start of a process.
-/
import Mathlib
import SearchFilter.Session
import SearchFilter.Strategy.Library

namespace SearchFilter

/-! ## Namespaces -/

namespace Options

/-- those of `xs` that are not in `old`, each once, in the order in which they first come -/
def newcomers (old xs : List String) : List String := (xs.filter (· ∉ old)).eraseDups

/-- **What adding does.** The old list stays in front. -/
theorem addNew_eq (old xs : List String) : addNew old xs = old ++ newcomers old xs := by
  induction xs generalizing old with
  | nil => exact (List.append_nil old).symm
  | cons x xs ih =>
    rw [addNew, ih]
    by_cases hx : x ∈ old
    · simp [newcomers, hx]
    · -- later copies of `x` are dropped on the left as members of the list, on the right as seen before
      have hlater : xs.filter (· ∉ old ++ [x]) = (xs.filter (· ∉ old)).filter (fun y => !y == x) := by
        rw [List.filter_filter]
        refine List.filter_congr fun y _ => ?_
        simp [beq_eq_decide, and_comm]
      rw [if_neg hx, newcomers, hlater, newcomers, List.filter_cons_of_pos (by simpa using hx), List.eraseDups_cons,
        List.append_assoc, List.singleton_append]

theorem addNew_append (old xs ys : List String) : addNew old (xs ++ ys) = addNew (addNew old xs) ys := by
  induction xs generalizing old with
  | nil => rfl
  | cons x xs ih => exact ih _

theorem nodup_addNew {old : List String} (h : old.Nodup) (xs : List String) : (addNew old xs).Nodup := by
  induction xs generalizing old with
  | nil => exact h
  | cons x xs ih =>
    rw [addNew]
    split_ifs with hx
    · exact ih h
    · refine ih (h.append (List.nodup_singleton x) ?_)
      exact List.disjoint_singleton.2 hx

end Options

/-- the namespaces a builder call adds -/
def Change.names : Change → List String
  | .namespaces xs => xs
  | _ => []

namespace Options

variable {o : Options}

@[simp]
theorem change_namespaces (o : Options) (c : Change) : (o.change c).namespaces = addNew o.namespaces c.names := by
  cases c <;> rfl

/-- **Builder calls.** They add namespaces as one call with all their namespaces would. -/
theorem changes_namespaces (o : Options) (cs : List Change) :
    (o.changes cs).namespaces = o.namespaces ++ newcomers o.namespaces (cs.flatMap Change.names) := by
  rw [← addNew_eq]
  induction cs generalizing o with
  | nil => rfl
  | cons c cs ih =>
    have hrest : o.changes (c :: cs) = (o.change c).changes cs := rfl
    simp [hrest, ih, addNew_append]

/-- namespaces are listed once, the default one first -/
structure Listed (o : Options) : Prop where
  nodup : o.namespaces.Nodup
  first : o.namespaces.head? = some defaultNamespace

theorem listed_default {Regex : Type} (engine : Like.Engine Regex) (locale : Locale) :
    (Options.default engine locale).Listed := ⟨List.nodup_singleton _, rfl⟩

theorem Listed.change (h : o.Listed) (c : Change) : (o.change c).Listed := by
  refine ⟨?_, ?_⟩
  · rw [change_namespaces]
    exact nodup_addNew h.nodup c.names
  · simp [addNew_eq, h.first]

theorem Listed.changes (h : o.Listed) (cs : List Change) : (o.changes cs).Listed := by
  induction cs generalizing o with
  | nil => exact h
  | cons c cs ih => exact ih (h.change c)

end Options

/-- a configuration gives its namespaces by one builder call on the defaults -/
theorem Config.listed_toOptions {Regex : Type} (c : Config) (engine : Like.Engine Regex) (env : String → Option String) :
    (c.toOptions engine env).Listed := by
  have hnames : (c.toOptions engine env).namespaces =
      ((Options.default engine (.ofEnvironment env)).change (.namespaces c.namespaces)).namespaces := by
    rw [Config.toOptions]
    split_ifs <;> rfl
  have hlisted := (Options.listed_default engine (.ofEnvironment env)).change (.namespaces c.namespaces)
  exact ⟨hnames ▸ hlisted.nodup, hnames ▸ hlisted.first⟩

/-! ## The invariant of a process -/

namespace Session

variable {Regex : Type} {s : Session Regex}

theorem lookup_bind_self {α : Type} (table : List (String × α)) (id : String) (a : α) :
    (bind table id a).lookup id = some a := by
  simp [bind]

theorem lookup_bind_ne {α : Type} (table : List (String × α)) {id other : String} (a : α) (h : other ≠ id) :
    (bind table other a).lookup id = table.lookup id := by
  rw [bind, List.lookup_cons, beq_false_of_ne h.symm]

/-- The current options are listed, and so are those that can become current again. -/
structure Sound (s : Session Regex) : Prop where
  current : s.current.Listed
  kept : ∀ id o, s.snapshots.lookup id = some o → o.Listed

theorem sound_start (engine : Like.Engine Regex) (locale : Locale) : (start engine locale).Sound :=
  ⟨Options.listed_default engine locale, nofun⟩

theorem Sound.install (h : s.Sound) {o : Options} (ho : o.Listed) : (s.install o).1.Sound := ⟨ho, h.kept⟩

theorem Sound.snapshot (h : s.Sound) (id : String) :
    Sound { s with snapshots := bind s.snapshots id s.current } := by
  refine ⟨h.current, fun other o hlookup => ?_⟩
  by_cases hid : id = other
  · subst hid
    rw [lookup_bind_self] at hlookup
    obtain rfl := Option.some.inj hlookup
    exact h.current
  · rw [lookup_bind_ne _ _ hid] at hlookup
    exact h.kept other o hlookup

/-- **Compiling.** Either there is an expression, and the predicate kept under the name carries it together with the options
it was built with, or nothing changes. -/
theorem step_compile (s : Session Regex) (id filter : String) (schema : Schema) (compiler : Option String) :
    (∃ o e, s.optionsFor compiler = some o ∧ compileExpr o schema filter = .ok e ∧
      s.step (.compile id filter schema compiler) =
        ({ s with predicates := bind s.predicates id ⟨filter, e, o⟩ }, .compiled ⟨filter, e, o⟩)) ∨
    ((s.step (.compile id filter schema compiler)).1 = s ∧
      ∀ p, (s.step (.compile id filter schema compiler)).2 ≠ .compiled p) := by
  cases ho : s.optionsFor compiler with
  | none =>
    refine .inr ⟨?_, fun p => ?_⟩ <;> simp [step, ho]
  | some o =>
    cases he : compileExpr o schema filter with
    | error e => refine .inr ⟨?_, fun p => ?_⟩ <;> simp [step, ho, he, Predicate.compile, Except.map]
    | ok e => exact .inl ⟨o, e, rfl, he, by simp [step, ho, he, Predicate.compile, Except.map]⟩

/-- **One step.** -/
theorem step_sound (h : s.Sound) (x : Step) : (s.step x).1.Sound := by
  cases x with
  | configure cs => exact h.install (h.current.changes cs)
  | replace cs => exact h.install ((Options.listed_default s.engine s.locale).changes cs)
  | load c env => exact h.install (c.listed_toOptions s.engine env)
  | reset => exact h.install (Options.listed_default s.engine s.locale)
  | snapshot id => exact h.snapshot id
  | restore id =>
    rw [step]
    cases hlookup : s.snapshots.lookup id with
    | none => exact h
    | some o => exact h.install (h.kept id o hlookup)
  | compile id filter schema compiler =>
    rcases s.step_compile id filter schema compiler with ⟨o, e, -, -, hstep⟩ | ⟨hsame, -⟩
    · rw [hstep]
      exact ⟨h.current, h.kept⟩
    · rw [hsame]
      exact h
  | compiler id => exact ⟨h.current, h.kept⟩
  | current | debug | inspect id | eval id r | render id | encode word | like subject pattern => exact h

/-- **All steps.** -/
theorem run_sound (h : s.Sound) (steps : List Step) : (s.run steps).1.Sound := by
  induction steps generalizing s with
  | nil => exact h
  | cons x steps ih => exact ih (step_sound h x)

/-! ## What was compiled stays -/

/-- the name under which a step keeps a predicate -/
def Step.bound : Step → Option String
  | .compile id _ _ _ => some id
  | _ => none

theorem lookup_step (s : Session Regex) {x : Step} {id : String} (h : x.bound ≠ some id) :
    (s.step x).1.predicates.lookup id = s.predicates.lookup id := by
  cases x with
  | compile other filter schema compiler =>
    rcases s.step_compile other filter schema compiler with ⟨o, e, -, -, hstep⟩ | ⟨hsame, -⟩
    · rw [hstep]
      exact lookup_bind_ne s.predicates _ fun heq => h (congrArg some heq)
    · rw [hsame]
  | restore id =>
    rw [step]
    split <;> rfl
  | _ => rfl

theorem lookup_run (s : Session Regex) {steps : List Step} {id : String} (h : ∀ x ∈ steps, x.bound ≠ some id) :
    (s.run steps).1.predicates.lookup id = s.predicates.lookup id := by
  induction steps generalizing s with
  | nil => rfl
  | cons x steps ih =>
    obtain ⟨hx, hsteps⟩ := List.forall_mem_cons.1 h
    have hrest := ih (s.step x).1 hsteps
    rw [← s.lookup_step hx, ← hrest]
    rfl

/-- what a predicate answers is in the predicate alone -/
theorem step_eval_of_lookup {id : String} {p : Predicate} (h : s.predicates.lookup id = some p) (r : Record) :
    (s.step (.eval id r)).2 = .outcome (p.evaluate r) := by
  simp [step, h]

theorem step_render_of_lookup {id : String} {p : Predicate} (h : s.predicates.lookup id = some p) :
    (s.step (.render id)).2 = .rendered p (p.expr.render s.current) := by
  simp [step, h]

/-- **Reconfiguring.** At every moment of a process, however it was reconfigured until then, the namespaces of the current
options are listed once with the default one first; builder calls leave them in front and put behind them what was not there,
each once, in the order of the calls; and a filter that compiles was built with the options it was given, is evaluated and
rendered with them, and goes on so after all later steps, as long as no other filter is compiled under its name. -/
theorem run_reconfigured (engine : Like.Engine Regex) (locale : Locale) (steps : List Step) :
    let s := ((start engine locale).run steps).1
    (s.current.namespaces.Nodup ∧ s.current.namespaces.head? = some Options.defaultNamespace) ∧
    (∀ cs, (s.step (.configure cs)).1.current.namespaces =
      s.current.namespaces ++ Options.newcomers s.current.namespaces (cs.flatMap Change.names)) ∧
    ∀ id filter schema compiler p, (s.step (.compile id filter schema compiler)).2 = .compiled p →
      ∃ o e, s.optionsFor compiler = some o ∧ compileExpr o schema filter = .ok e ∧ p = ⟨filter, e, o⟩ ∧
        ∀ later : List Step, (∀ x ∈ later, x.bound ≠ some id) →
          let s' := ((s.step (.compile id filter schema compiler)).1.run later).1
          (∀ r, (s'.step (.eval id r)).2 = .outcome (e.evaluate o r)) ∧
          p.render = e.render o ∧ (s'.step (.render id)).2 = .rendered p (e.render s'.current) := by
  intro s
  have hsound : s.Sound := run_sound (sound_start engine locale) steps
  refine ⟨⟨hsound.current.nodup, hsound.current.first⟩, s.current.changes_namespaces, ?_⟩
  intro id filter schema compiler p hreply
  rcases s.step_compile id filter schema compiler with ⟨o, e, ho, he, hstep⟩ | ⟨-, hnone⟩
  · rw [hstep] at hreply ⊢
    obtain rfl : ⟨filter, e, o⟩ = p := Reply.compiled.inj hreply
    refine ⟨o, e, ho, he, rfl, fun later hlater => ?_⟩
    intro s'
    have hkept : s'.predicates.lookup id = some ⟨filter, e, o⟩ := by
      rw [lookup_run _ hlater]
      exact lookup_bind_self s.predicates id _
    exact ⟨fun r => step_eval_of_lookup hkept r, rfl, step_render_of_lookup hkept⟩
  · exact absurd hreply (hnone p)

/-- a strategy under which every text is like every pattern -/
def anyText : LikeStrategy := ⟨.ofSlots "store::any" 2, fun _ _ => .ok true⟩

/-- the text is not like the pattern under the options after the reset -/
theorem run_reconfigured_reset :
    let changes := [Change.like anyText, .namespaces ["store", Options.defaultNamespace, "store"]]
    let s := ((start Like.library .standard).run [.configure changes]).1
    let compiled := s.step (.compile "p" "(sn=d*)" (.ofNames ["sn"]) none)
    let later := [Step.reset, .configure [.caseInsensitiveStore], .snapshot "p"]
    s.current.namespaces = [Options.defaultNamespace, "store"] ∧
    ∃ p, compiled.2 = .compiled p ∧
      ((compiled.1.run later).1.step (.eval "p" fun _ => some "roe")).2 = .outcome (.ok true) := by
  intro changes s compiled later
  obtain ⟨-, -, hcompiled⟩ := run_reconfigured Like.library .standard [.configure changes]
  have hexpr : compileExpr s.current (.ofNames ["sn"]) "(sn=d*)" = .ok (.like "sn" "d%" false) := by cbv
  have hreply : compiled.2 = .compiled ⟨"(sn=d*)", .like "sn" "d%" false, s.current⟩ := by
    simp only [compiled, step, optionsFor, Predicate.compile, hexpr, Except.map]
  obtain ⟨o, e, ho, he, -, hlater⟩ := hcompiled "p" "(sn=d*)" (.ofNames ["sn"]) none _ hreply
  obtain rfl : s.current = o := Option.some.inj ho
  obtain rfl : .like "sn" "d%" false = e := Except.ok.inj (hexpr.symm.trans he)
  obtain ⟨heval, -⟩ := hlater later (by decide)
  exact ⟨rfl, _, hreply, (heval _).trans rfl⟩

end Session
end SearchFilter
