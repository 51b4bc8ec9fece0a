import Mathlib.Data.List.Induction

/-! # Input/output machines and their runs

A `Machine σ ι ο` is a deterministic state machine with a guard: `enabled s i` says which
inputs the environment may offer in state `s`, `step s i` is the output and the next
state.  All nondeterminism (the order of calls, what a peer sends, which thread moves
next) sits in the choice of inputs.

`Run M s tr t` records a finite run from `s` to `t` with the list `tr` of its events, so
that a statement can speak about what happened before what.  A run splits at every event
(`Run.split`), which turns "event `a` before event `b`" into two runs that can be treated
one after the other.  The induction rules are `Run.invariant` and `Run.history`. -/

/-- A state machine whose steps have an output. -/
structure Machine (σ ι ο : Type) where
  init : σ → Prop
  enabled : σ → ι → Prop
  step : σ → ι → ο × σ

namespace Machine

/-- One step as it is recorded in a run. -/
structure Event (σ ι ο : Type) where
  before : σ
  input : ι
  output : ο
  after : σ

variable {σ ι ο : Type} (M : Machine σ ι ο)

/-- The event is a step the machine can make. -/
def Fires (e : Event σ ι ο) : Prop :=
  M.enabled e.before e.input ∧ M.step e.before e.input = (e.output, e.after)

/-- `Run M s tr t`: the events `tr`, in this order, lead from `s` to `t`. -/
inductive Run : σ → List (Event σ ι ο) → σ → Prop
  | nil (s : σ) : Run s [] s
  | snoc {s : σ} {tr : List (Event σ ι ο)} {e : Event σ ι ο} :
      Run s tr e.before → M.Fires e → Run s (tr ++ [e]) e.after

/-- States reached from an initial state. -/
def Reachable (t : σ) : Prop := ∃ s tr, M.init s ∧ M.Run s tr t

variable {M} {e : Event σ ι ο} {tr : List (Event σ ι ο)} {tr1 tr2 : List (Event σ ι ο)} {s t : σ}
  {I : σ → Prop}

lemma Fires.output_eq (h : M.Fires e) : e.output = (M.step e.before e.input).1 := by rw [h.2]

lemma Fires.after_eq (h : M.Fires e) : e.after = (M.step e.before e.input).2 := by rw [h.2]

lemma Run.append {s t u : σ} (h1 : M.Run s tr1 t)
    (h2 : M.Run t tr2 u) : M.Run s (tr1 ++ tr2) u := by
  induction h2 with
  | nil => simpa using h1
  | snoc _ he ih =>
    rw [← List.append_assoc]
    exact Run.snoc ih he

lemma Run.split_append {s u : σ}
    (h : M.Run s (tr1 ++ tr2) u) : ∃ t, M.Run s tr1 t ∧ M.Run t tr2 u := by
  induction tr2 using List.reverseRecOn generalizing u with
  | nil => exact ⟨u, by simpa using h, Run.nil u⟩
  | append_singleton tr e ih =>
    rw [← List.append_assoc] at h
    generalize hw : tr1 ++ tr ++ [e] = w at h
    cases h with
    | nil => simp at hw
    | snoc hr he =>
      obtain ⟨rfl, he'⟩ := List.append_inj' hw rfl
      obtain rfl := List.singleton_inj.mp he'
      obtain ⟨t, ht, hu⟩ := ih hr
      exact ⟨t, ht, Run.snoc hu he⟩

/-- A run splits at each of its events. -/
lemma Run.split (h : M.Run s (tr1 ++ e :: tr2) t) :
    M.Run s tr1 e.before ∧ M.Fires e ∧ M.Run e.after tr2 t := by
  rw [show tr1 ++ e :: tr2 = (tr1 ++ [e]) ++ tr2 by simp] at h
  obtain ⟨u, h1, h2⟩ := h.split_append
  generalize hw : tr1 ++ [e] = w at h1
  cases h1 with
  | nil => simp at hw
  | snoc hr he =>
    obtain ⟨rfl, he'⟩ := List.append_inj' hw rfl
    obtain rfl := List.singleton_inj.mp he'
    exact ⟨hr, he, h2⟩

/-- A property of states that every step keeps holds at the end of a run. -/
lemma Run.invariant (hstep : ∀ s i, M.enabled s i → I s → I (M.step s i).2)
    (h : M.Run s tr t) (hs : I s) : I t := by
  induction h with
  | nil => exact hs
  | snoc _ he ih =>
    rw [he.after_eq]
    exact hstep _ _ he.1 ih

/-- A property of states that the events of the run keep holds before each of them. -/
lemma Run.kept {P : σ → Prop} (h : M.Run s tr t)
    (hkept : ∀ e ∈ tr, P e.before → P e.after) (hs : P s) : P t ∧ ∀ e ∈ tr, P e.before := by
  induction h with
  | nil => exact ⟨hs, by simp⟩
  | @snoc _ e _ _ ih =>
    obtain ⟨hbefore, hall⟩ := ih fun f hf => hkept f (List.mem_append_left _ hf)
    exact ⟨hkept e List.mem_concat_self hbefore,
      List.forall_mem_append.mpr ⟨hall, List.forall_mem_singleton.mpr hbefore⟩⟩

/-- A property of trace and state that every recorded step keeps holds of every run. -/
lemma Run.history {P : List (Event σ ι ο) → σ → Prop} (h : M.Run s tr t) (hs : P [] s)
    (hstep : ∀ tr e, M.Run s tr e.before → M.Fires e → P tr e.before →
      P (tr ++ [e]) e.after) : P tr t := by
  induction h with
  | nil => exact hs
  | snoc hr he ih => exact hstep _ _ hr he ih

/-- Invariant rule: what holds initially and is kept by every step holds everywhere. -/
lemma Reachable.invariant (hinit : ∀ s, M.init s → I s)
    (hstep : ∀ s i, M.enabled s i → I s → I (M.step s i).2) (h : M.Reachable t) : I t := by
  obtain ⟨s, tr, hs, hr⟩ := h
  exact hr.invariant hstep (hinit s hs)

/-! ### The run of a list of inputs -/

lemma Run.single (he : M.Fires e) : M.Run e.before [e] e.after := by
  simpa using Run.snoc (Run.nil e.before) he

variable (M)

/-- The event of one input. -/
def eventOf (s : σ) (i : ι) : Event σ ι ο := ⟨s, i, (M.step s i).1, (M.step s i).2⟩

/-- Every step is the event of its input. -/
lemma Fires.eq_eventOf {M : Machine σ ι ο} (h : M.Fires e) :
    ∃ s i, M.enabled s i ∧ e = M.eventOf s i := by
  obtain ⟨s, i, out, t⟩ := e
  obtain ⟨hi, hstep⟩ := h
  refine ⟨s, i, hi, ?_⟩
  unfold eventOf
  rw [hstep]

/-- The events of the inputs, one after the other. -/
def trace (s : σ) : List ι → List (Event σ ι ο)
  | [] => []
  | i :: inputs => M.eventOf s i :: trace (M.step s i).2 inputs

/-- The state after the inputs. -/
def final (s : σ) : List ι → σ
  | [] => s
  | i :: inputs => final (M.step s i).2 inputs

/-- Each input is enabled when its turn comes. -/
def Allowed (s : σ) : List ι → Prop
  | [] => True
  | i :: inputs => M.enabled s i ∧ Allowed (M.step s i).2 inputs

instance decidableAllowed [∀ s i, Decidable (M.enabled s i)] :
    ∀ (s : σ) (inputs : List ι), Decidable (M.Allowed s inputs)
  | _, [] => inferInstanceAs (Decidable True)
  | s, i :: inputs =>
    have := decidableAllowed (M.step s i).2 inputs
    inferInstanceAs (Decidable (M.enabled s i ∧ M.Allowed (M.step s i).2 inputs))

variable {M}

lemma Allowed.run {inputs : List ι} (h : M.Allowed s inputs) :
    M.Run s (M.trace s inputs) (M.final s inputs) := by
  induction inputs generalizing s with
  | nil => exact Run.nil s
  | cons i inputs ih =>
    have hi : M.Run s [M.eventOf s i] (M.step s i).2 :=
      Run.single (e := M.eventOf s i) ⟨h.1, rfl⟩
    exact hi.append (ih h.2)

end Machine
