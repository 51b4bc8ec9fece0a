import Mathlib.Logic.Basic

/-! # Programs that ask an environment

`Prog Op Ans α` is a finite tree: a program returns, or asks one operation and goes on with
its answer.  An `Environment` gives operations their meaning: `exec c s op` is the answer
and the next state under the choice `c`, which stands for everything the program does not
control (a failing device, what a peer sends, the order of a listing), and `admissible`
says which choices can be made at all.

`Steps p s p' s'` is a run that was stopped anywhere: `p'` is what is left of the program
and `s'` the state it was stopped in, so a statement about `Steps` speaks about every crash
point.  `eval c` runs a program to its end under one choice.

The rules for proofs are those of a weakest precondition: `wp safe p Q s` says that every
operation asked in a run from `s` is asked in a state where `safe` allows it and that the
run ends in `Q`.  `Steps.wp_rest` turns it into a statement about stopped runs, `eval_of_wp`
into one about `eval`. -/

/-- A program asks operations until it returns. -/
inductive Prog (Op : Type) (Ans : Op → Type) (α : Type) where
  | ret (a : α)
  | ask (op : Op) (next : Ans op → Prog Op Ans α)

/-- What operations do, for every choice the program does not control. -/
structure Environment (Op : Type) (Ans : Op → Type) (σ κ : Type) where
  admissible : κ → σ → Op → Prop
  exec : κ → σ → (op : Op) → Ans op × σ

namespace Prog

variable {Op : Type} {Ans : Op → Type} {σ κ α β γ ε τ : Type}

def bind : Prog Op Ans α → (α → Prog Op Ans β) → Prog Op Ans β
  | ret a, f => f a
  | ask op next, f => ask op fun x => (next x).bind f

instance : Monad (Prog Op Ans) where
  pure := ret
  bind := bind

/-- The program that asks one operation and returns its answer. -/
def perform (op : Op) : Prog Op Ans (Ans op) := ask op ret

lemma bind_ret (p : Prog Op Ans α) : p.bind ret = p := by
  induction p with
  | ret a => rfl
  | ask op next ih => exact congrArg (ask op) (funext ih)

lemma bind_assoc (p : Prog Op Ans α) (f : α → Prog Op Ans β) (g : β → Prog Op Ans γ) :
    (p.bind f).bind g = p.bind fun a => (f a).bind g := by
  induction p with
  | ret a => rfl
  | ask op next ih => exact congrArg (ask op) (funext ih)

instance : LawfulMonad (Prog Op Ans) := LawfulMonad.mk' _ bind_ret (fun _ _ => rfl) bind_assoc

/-! ### Runs -/

variable (E : Environment Op Ans σ κ)

/-- A run that was stopped after some of its operations. -/
inductive Steps : Prog Op Ans α → σ → Prog Op Ans α → σ → Prop
  | refl (p : Prog Op Ans α) (s : σ) : Steps p s p s
  | step {op : Op} {next : Ans op → Prog Op Ans α} {s s' : σ} {p' : Prog Op Ans α} (c : κ) :
      E.admissible c s op → Steps (next (E.exec c s op).1) (E.exec c s op).2 p' s' →
      Steps (ask op next) s p' s'

/-- The run under a list of choices, stopped when the list is used up. -/
def advance [∀ c s op, Decidable (E.admissible c s op)] :
    List κ → Prog Op Ans α → σ → Prog Op Ans α × σ
  | [], p, s => (p, s)
  | _ :: _, ret a, s => (ret a, s)
  | c :: cs, ask op next, s =>
    if E.admissible c s op then advance cs (next (E.exec c s op).1) (E.exec c s op).2
    else (ask op next, s)

/-- The value of a program that has ended. -/
def result : Prog Op Ans α → Option α
  | ret a => some a
  | ask _ _ => none

variable {p p' : Prog Op Ans α} {s' : σ} {a : α}

lemma eq_ret_of_result (h : p.result = some a) : p = ret a := by
  cases p with
  | ret b => exact congrArg ret (Option.some.inj h)
  | ask op next => cases h

/-- The run under one choice, to its end. -/
def eval (c : κ) : Prog Op Ans α → σ → α × σ
  | ret a, s => (a, s)
  | ask op next, s => eval c (next (E.exec c s op).1) (E.exec c s op).2

variable {E} {E' : Environment Op Ans σ κ}

lemma advance_steps [∀ c s op, Decidable (E.admissible c s op)] (cs : List κ)
    (p : Prog Op Ans α) (s : σ) : Steps E p s (advance E cs p s).1 (advance E cs p s).2 := by
  induction cs generalizing p s with
  | nil => exact Steps.refl p s
  | cons c cs ih =>
    cases p with
    | ret a => exact Steps.refl _ s
    | ask op next =>
      unfold advance
      by_cases hc : E.admissible c s op
      · rw [if_pos hc]
        exact Steps.step c hc (ih _ _)
      · rw [if_neg hc]
        exact Steps.refl _ s

/-- What is possible with fewer choices is possible. -/
lemma Steps.mono (hexec : E'.exec = E.exec)
    (hadm : ∀ c s op, E.admissible c s op → E'.admissible c s op) {s : σ} (h : Steps E p s p' s') :
    Steps E' p s p' s' := by
  induction h with
  | refl => exact Steps.refl _ _
  | step c hc _ ih =>
    refine Steps.step c (hadm _ _ _ hc) ?_
    rw [hexec]
    exact ih

/-! ### Weakest preconditions -/

variable (E)

/-- From `s`, every operation is asked where `safe` allows it, and the end satisfies `Q`. -/
def wp (safe : σ → Op → Prop) : Prog Op Ans α → (α → σ → Prop) → σ → Prop
  | ret a, Q, s => Q a s
  | ask op next, Q, s => safe s op ∧ ∀ c, E.admissible c s op →
      wp safe (next (E.exec c s op).1) Q (E.exec c s op).2

variable {E} {safe safe' : σ → Op → Prop} {s : σ} {Q Q' : α → σ → Prop} {op : Op}
  {f : α → Prog Op Ans β} {I : σ → Prop}

@[simp] lemma wp_pure (a : α) : wp E safe (pure a) Q s ↔ Q a s := Iff.rfl

@[simp] lemma wp_bind (p : Prog Op Ans α) (f : α → Prog Op Ans β) {Q : β → σ → Prop} :
    wp E safe (p >>= f) Q s ↔ wp E safe p (fun a s => wp E safe (f a) Q s) s := by
  induction p generalizing s with
  | ret a => exact Iff.rfl
  | ask op next ih =>
    exact and_congr_right fun _ => forall_congr' fun c => imp_congr_right fun _ => ih _

@[simp] lemma wp_map (f : α → β) (p : Prog Op Ans α) {Q : β → σ → Prop} :
    wp E safe (f <$> p) Q s ↔ wp E safe p (fun a s => Q (f a) s) s := by
  rw [map_eq_pure_bind, wp_bind]
  exact Iff.rfl

lemma wp_perform {Q : Ans op → σ → Prop} (hsafe : safe s op)
    (h : ∀ c, E.admissible c s op → Q (E.exec c s op).1 (E.exec c s op).2) :
    wp E safe (perform op) Q s := ⟨hsafe, h⟩

lemma wp_weaken (hsafe : ∀ s op, safe s op → safe' s op) (hQ : ∀ a s, Q a s → Q' a s)
    (h : wp E safe p Q s) : wp E safe' p Q' s := by
  induction p generalizing s with
  | ret a => exact hQ a s h
  | ask op next ih => exact ⟨hsafe s op h.1, fun c hc => ih _ (h.2 c hc)⟩

lemma wp_mono (hQ : ∀ a s, Q a s → Q' a s) (h : wp E safe p Q s) : wp E safe p Q' s :=
  wp_weaken (fun _ _ h => h) hQ h

/-- Sequencing: what the first part ends with lets the rest begin. -/
lemma wp_seq {R : β → σ → Prop} (h : wp E safe p Q s)
    (hf : ∀ a s, Q a s → wp E safe (f a) R s) : wp E safe (p >>= f) R s :=
  (wp_bind p f).mpr (wp_mono hf h)

lemma wp_and (h : wp E safe p Q s) (h' : wp E safe' p Q' s) :
    wp E (fun s op => safe s op ∧ safe' s op) p (fun a s => Q a s ∧ Q' a s) s := by
  induction p generalizing s with
  | ret a => exact ⟨h, h'⟩
  | ask op next ih => exact ⟨⟨h.1, h'.1⟩, fun c hc => ih _ (h.2 c hc) (h'.2 c hc)⟩

lemma wp_trivial (p : Prog Op Ans α) (s : σ) : wp E (fun _ _ => True) p (fun _ _ => True) s := by
  induction p generalizing s with
  | ret a => trivial
  | ask op next ih => exact ⟨trivial, fun c _ => ih _ _⟩

/-- What holds under more choices holds under fewer. -/
lemma wp_restrict (hexec : E'.exec = E.exec)
    (hadm : ∀ c s op, E'.admissible c s op → E.admissible c s op) (h : wp E safe p Q s) :
    wp E' safe p Q s := by
  induction p generalizing s with
  | ret a => exact h
  | ask op next ih =>
    refine ⟨h.1, fun c hc => ?_⟩
    rw [hexec]
    exact ih _ (h.2 c (hadm c s op hc))

lemma Steps.wp_rest (hr : Steps E p s p' s') (h : wp E safe p Q s) : wp E safe p' Q s' := by
  induction hr with
  | refl => exact h
  | step c hc _ ih => exact ih (h.2 c hc)

/-- Where a run is about to ask an operation, `safe` allows it. -/
lemma Steps.safe_of_wp {next : Ans op → Prog Op Ans α}
    (hr : Steps E p s (ask op next) s') (h : wp E safe p Q s) : safe s' op := (hr.wp_rest h).1

/-- Where a run has ended, its postcondition holds. -/
lemma Steps.post_of_wp (hr : Steps E p s (ret a) s') (h : wp E safe p Q s) : Q a s' := hr.wp_rest h

/-- A property of states that holds at every operation and at the end holds wherever a run
is stopped. -/
lemma Steps.invariant_of_wp
    (hr : Steps E p s p' s') (h : wp E (fun s _ => I s) p (fun _ s => I s) s) : I s' := by
  cases p' with
  | ret a => exact hr.post_of_wp h
  | ask op next => exact hr.safe_of_wp h

lemma eval_of_wp {c : κ} (hc : ∀ s op, safe s op → E.admissible c s op)
    (h : wp E safe p Q s) : Q (eval E c p s).1 (eval E c p s).2 := by
  induction p generalizing s with
  | ret a => exact h
  | ask op next ih => exact ih _ (h.2 c (hc s op h.1))

/-! ### Programs and what they leave in a log -/

variable {τ' : Type}

/-- What a run of the program adds to the log fits its result. -/
def Traces (E : Environment Op Ans σ κ) (log : σ → List τ') (p : Prog Op Ans α)
    (T : α → List τ' → Prop) : Prop :=
  ∀ s, wp E (fun _ _ => True) p (fun a s' => ∃ trace, log s' = log s ++ trace ∧ T a trace) s

section

variable {log : σ → List τ'} {T T' : α → List τ' → Prop} {U : β → List τ' → Prop}

lemma traces_pure (h : T a []) : Traces E log (pure a : Prog Op Ans α) T :=
  fun _ => ⟨[], (List.append_nil _).symm, h⟩

lemma Traces.bind (hp : Traces E log p T)
    (hf : ∀ a, Traces E log (f a) fun b trace' => ∀ trace, T a trace → U b (trace ++ trace')) :
    Traces E log (p >>= f) U := by
  intro s
  rw [wp_bind]
  refine wp_mono ?_ (hp s)
  rintro a s' ⟨trace, hlog, ha⟩
  refine wp_mono ?_ (hf a s')
  rintro b s'' ⟨trace', hlog', hb⟩
  refine ⟨trace ++ trace', ?_, hb trace ha⟩
  rw [hlog', hlog, List.append_assoc]

lemma Traces.mono (hp : Traces E log p T) (h : ∀ a trace, T a trace → T' a trace) :
    Traces E log p T' := by
  intro s
  refine wp_mono ?_ (hp s)
  rintro a s' ⟨trace, hlog, ha⟩
  exact ⟨trace, hlog, h a trace ha⟩

lemma traces_perform {T : Ans op → List τ' → Prop} (h : ∀ c s, E.admissible c s op →
      ∃ trace, log (E.exec c s op).2 = log s ++ trace ∧ T (E.exec c s op).1 trace) :
    Traces E log (perform op) T :=
  fun s => wp_perform trivial fun c hc => h c s hc

lemma Traces.of_steps (hp : Traces E log p T) (hr : Steps E p s (ret a) s') :
    ∃ trace, log s' = log s ++ trace ∧ T a trace := hr.post_of_wp (hp s)

end

/-! ### Programs that are answered anything -/

section Free

/-- A request with its answer. -/
abbrev Event (Op : Type) (Ans : Op → Type) : Type := (op : Op) × Ans op

/-- The environment that may answer anything; its state is the log of what happened. -/
def free (Op : Type) (Ans : Op → Type) :
    Environment Op Ans (List (Event Op Ans)) ((op : Op) → Ans op) where
  admissible _ _ _ := True
  exec answer log op := (answer op, log ++ [⟨op, answer op⟩])

instance (answer : (op : Op) → Ans op) (log : List (Event Op Ans)) (op : Op) :
    Decidable ((free Op Ans).admissible answer log op) := isTrue trivial

variable {log log' : List (Event Op Ans)} {guard : List (Event Op Ans) → Op → Prop}

lemma wp_free {Q : Ans op → List (Event Op Ans) → Prop} (hsafe : guard log op)
    (h : ∀ x, Q x (log ++ [⟨op, x⟩])) : wp (free Op Ans) guard (perform op) Q log :=
  wp_perform hsafe fun answer _ => h (answer op)

/-- Every event that a run adds to the log was asked where `guard` allowed it. -/
lemma Steps.free_safe {Q : α → List (Event Op Ans) → Prop}
    (hr : Steps (free Op Ans) p log p' log') (h : wp (free Op Ans) guard p Q log) :
    ∃ trace, log' = log ++ trace ∧
      ∀ before e after, trace = before ++ e :: after → guard (log ++ before) e.1 := by
  induction hr with
  | refl p log => exact ⟨[], (List.append_nil _).symm, fun before e after h => by simp at h⟩
  | @step op next log log' p' answer _ _ ih =>
    obtain ⟨trace, hlog, htrace⟩ := ih (h.2 answer trivial)
    refine ⟨⟨op, answer op⟩ :: trace, ?_, ?_⟩
    · rw [hlog]
      simp [free]
    intro before e after heq
    cases before with
    | nil =>
      cases heq
      rw [List.append_nil]
      exact h.1
    | cons x before =>
      cases heq
      have hsafe := htrace before e after rfl
      simpa [free] using hsafe

end Free

/-! ### Programs that make only some requests -/

/-- Every operation the program can ask satisfies `P` and every value it can return satisfies
`R`, whatever it is answered. -/
def Only (P : Op → Prop) (R : α → Prop) : Prog Op Ans α → Prop
  | ret a => R a
  | ask op next => P op ∧ ∀ x, (next x).Only P R

section Only

variable {P P' : Op → Prop} {R R' : α → Prop} {S : β → Prop}

/-- A program whose requests all keep `I` keeps `I`. -/
lemma Only.keeps (hp : p.Only P R)
    (hI : ∀ s op c, P op → E.admissible c s op → I s → I (E.exec c s op).2) (hs : I s) :
    wp E (fun s op => P op ∧ I s) p (fun a s => R a ∧ I s) s := by
  induction p generalizing s with
  | ret a => exact ⟨hp, hs⟩
  | ask op next ih => exact ⟨⟨hp.1, hs⟩, fun c hc => ih _ (hp.2 _) (hI s op c hp.1 hc hs)⟩

end Only

/-! ### Programs with errors and with a record they update -/

@[simp] lemma wp_except_bind {x : ExceptT ε (Prog Op Ans) α}
    {f : α → ExceptT ε (Prog Op Ans) β} {Q : Except ε β → σ → Prop} :
    wp E safe (x >>= f).run Q s ↔ wp E safe x.run (fun r s => match r with
        | .ok a => wp E safe (f a).run Q s
        | .error e => Q (.error e) s) s := by
  rw [ExceptT.run_bind, wp_bind]
  constructor <;> refine wp_mono fun r s h => ?_ <;> cases r <;> exact h

@[simp] lemma wp_except_lift {Q : Except ε α → σ → Prop} :
    wp E safe (ExceptT.lift p).run Q s ↔ wp E safe p (fun a s => Q (.ok a) s) s := by
  change wp E safe (Except.ok <$> p) Q s ↔ _
  rw [wp_map]

/-- A method that can fail and updates the record `τ`, whose updates stay when it fails. -/
abbrev Method (Op : Type) (Ans : Op → Type) (ε τ α : Type) : Type :=
  ExceptT ε (StateT τ (Prog Op Ans)) α

@[simp] lemma wp_method_bind {x : Method Op Ans ε τ α} {f : α → Method Op Ans ε τ β} {t : τ}
    {Q : Except ε β × τ → σ → Prop} :
    wp E safe ((x >>= f).run.run t) Q s ↔ wp E safe (x.run.run t) (fun r s => match r with
        | (.ok a, t) => wp E safe ((f a).run.run t) Q s
        | (.error e, t) => Q (.error e, t) s) s := by
  rw [ExceptT.run_bind, StateT.run_bind, wp_bind]
  constructor <;> refine wp_mono fun r s h => ?_ <;> obtain ⟨r | r, t⟩ := r <;> exact h

end Prog
