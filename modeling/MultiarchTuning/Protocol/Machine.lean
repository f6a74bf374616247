import Mathlib.Order.Basic

/-!
# Guarded transition systems

A system is a set of initial states and a guarded step function: `step s e` is the state after event `e`, or `none`
when `e` is not enabled in `s`. Because the step is a function, one definition serves the proofs and the replay of a
concrete run (`runFrom`), so a trace that refutes an invariant is checked by the same guards the invariants are proved
against.

The proof rules: an invariant holds in every reachable state once the initial states have it and every step keeps it
(`invariant_of_inductive`); a property that the steps of some events keep holds along every run of such events
(`runFrom_preserves`); and a run from an initial state to a state outside a property refutes its invariance
(`not_invariant_of_runFrom`).
-/

/-- A transition system with initial states `init` and a guarded step function. -/
structure Machine (S E : Type) where
  init : S → Prop
  step : S → E → Option S

namespace Machine

variable {S E : Type} (M : Machine S E)

/-- Replay the events `evs` from `s`; `none` as soon as one of them is not enabled. -/
def runFrom (s : S) (evs : List E) : Option S :=
  evs.foldlM M.step s

/-- The states reachable from an initial state by enabled events. -/
inductive Reachable : S → Prop
  | init {s : S} : M.init s → Reachable s
  | step {s s' : S} {e : E} : Reachable s → M.step s e = some s' → Reachable s'

/-- `P` holds in every reachable state. -/
def Invariant (P : S → Prop) : Prop :=
  ∀ s, M.Reachable s → P s

variable {M}

@[simp]
theorem runFrom_nil (s : S) : M.runFrom s [] = some s := rfl

@[simp]
theorem runFrom_cons (s : S) (e : E) (evs : List E) :
    M.runFrom s (e :: evs) = (M.step s e).bind (M.runFrom · evs) := rfl

/-- The invariant rule; the step may use that its source is reachable. -/
theorem invariant_of_inductive {P : S → Prop} (hinit : ∀ s, M.init s → P s)
    (hstep : ∀ s e s', M.Reachable s → P s → M.step s e = some s' → P s') : M.Invariant P := by
  intro s hs
  induction hs with
  | init h => exact hinit _ h
  | step hr he ih => exact hstep _ _ _ hr ih he

/-- The run rule: what the steps of the events of `Q` keep from a state of `P` holds after every run of such events. -/
theorem runFrom_preserves {P : S → Prop} {Q : E → Prop}
    (hstep : ∀ s e s', Q e → P s → M.step s e = some s' → P s') :
    ∀ {s s' : S} (evs : List E), (∀ e ∈ evs, Q e) → P s → M.runFrom s evs = some s' → P s' := by
  intro s s' evs
  induction evs generalizing s with
  | nil =>
    intro _ hs h
    rw [runFrom_nil, Option.some.injEq] at h
    exact h ▸ hs
  | cons e evs ih =>
    intro hq hs h
    rw [runFrom_cons, Option.bind_eq_some_iff] at h
    obtain ⟨s₁, h₁, h⟩ := h
    exact ih (fun e' he' => hq e' (List.mem_cons_of_mem e he')) (hstep s e s₁ (hq e List.mem_cons_self) hs h₁) h

/-- Replay never leaves the reachable states. -/
theorem Reachable.runFrom {s s' : S} (hs : M.Reachable s) {evs : List E} (h : M.runFrom s evs = some s') :
    M.Reachable s' := by
  have hrun : ∀ s e s', True → M.Reachable s → M.step s e = some s' → M.Reachable s' :=
    fun _ _ _ _ hr he => hr.step he
  exact runFrom_preserves hrun evs (fun _ _ => trivial) hs h

/-- A run from an initial state to a state outside `P` refutes the invariance of `P`. -/
theorem not_invariant_of_runFrom {P : S → Prop} {s₀ s : S} {evs : List E} (h₀ : M.init s₀)
    (h : M.runFrom s₀ evs = some s) (hs : ¬P s) : ¬M.Invariant P :=
  fun hP => hs (hP s ((Reachable.init h₀).runFrom h))

end Machine
