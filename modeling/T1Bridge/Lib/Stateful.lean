import T1Bridge.Lib.Program

/-! # Programs with a state and failures

`Proc Op Ans σ ε α` is a program that also carries a state `σ` and may fail with `ε`; a failure
keeps the state.  `Proc.wp` is the weakest precondition of such a program: `Q` speaks about the
runs that return, `R` about those that fail.  `zoom` runs a program on a part of a larger state. -/

namespace Prog

abbrev Proc (Op : Type) (Ans : Op → Type) (σ ε α : Type) : Type :=
  ExceptT ε (StateT σ (Prog Op Ans)) α

namespace Proc

variable {Op : Type} {Ans : Op → Type} {σ σ' ε α β S κ : Type} {R : ε → σ → S → Prop}
  {Q : α → σ → S → Prop} {op : Op} {E : Environment Op Ans S κ} {p : Proc Op Ans σ ε α}

/-- A run of the program from a state. -/
def start (p : Proc Op Ans σ ε α) (t : σ) : Prog Op Ans (Except ε α × σ) := p.run.run t

/-- The two ends of a run. -/
def Ends (Q : α → σ → S → Prop) (R : ε → σ → S → Prop) : Except ε α × σ → S → Prop
  | (.ok a, t) => Q a t
  | (.error e, t) => R e t

/-- Weakest precondition with one postcondition for success and one for failure. -/
def wp (E : Environment Op Ans S κ) (safe : S → Op → Prop) (p : Proc Op Ans σ ε α)
    (Q : α → σ → S → Prop) (R : ε → σ → S → Prop) (t : σ) (s : S) : Prop :=
  Prog.wp E safe (p.start t) (Ends Q R) s

/-- A program on a part of the state. -/
def zoom (part : σ' → σ) (put : σ → σ' → σ') (p : Proc Op Ans σ ε α) : Proc Op Ans σ' ε α :=
  ExceptT.mk fun t' => do
    let (r, t) ← p.start (part t')
    pure (r, put t t')

section

variable {safe safe' : S → Op → Prop} {Q' : α → σ → S → Prop} {R' : ε → σ → S → Prop} {t : σ}
  {s : S} {f : PUnit → Proc Op Ans σ ε α}

lemma wp_pure {a : α} (h : Q a t s) : wp E safe (pure a : Proc Op Ans σ ε α) Q R t s := h

lemma wp_throw {e : ε} (h : R e t s) : wp E safe (throw e : Proc Op Ans σ ε α) Q R t s := h

lemma wp_bind {f : α → Proc Op Ans σ ε β} {Q : β → σ → S → Prop}
    (h : wp E safe p (fun a t s => wp E safe (f a) Q R t s) R t s) :
    wp E safe (p >>= f) Q R t s := by
  refine (Prog.wp_bind _ _).mpr (Prog.wp_mono ?_ h)
  intro r s' hr
  obtain ⟨r, t'⟩ := r
  cases r with
  | ok a => exact hr
  | error e => exact hr

lemma wp_get {f : σ → Proc Op Ans σ ε α} (h : wp E safe (f t) Q R t s) :
    wp E safe (get >>= f) Q R t s := h

lemma wp_set {t' : σ} (h : wp E safe (f ⟨⟩) Q R t' s) : wp E safe (set t' >>= f) Q R t s := h

lemma wp_modify {g : σ → σ} (h : wp E safe (f ⟨⟩) Q R (g t) s) :
    wp E safe (modify g >>= f) Q R t s := h

lemma wp_mono (hQ : ∀ a t s, Q a t s → Q' a t s) (hR : ∀ e t s, R e t s → R' e t s)
    (h : wp E safe p Q R t s) : wp E safe p Q' R' t s := by
  refine Prog.wp_mono ?_ h
  intro r s' hr
  obtain ⟨r, t'⟩ := r
  cases r with
  | ok a => exact hQ a t' s' hr
  | error e => exact hR e t' s' hr

lemma wp_tryCatch {handler : ε → Proc Op Ans σ ε α}
    (h : wp E safe p Q (fun e t s => wp E safe (handler e) Q R t s) t s) :
    wp E safe (tryCatch p handler) Q R t s := by
  refine (Prog.wp_bind _ _).mpr (Prog.wp_mono ?_ h)
  intro r s' hr
  obtain ⟨r, t'⟩ := r
  cases r with
  | ok a => exact hr
  | error e => exact hr

lemma wp_weaken (hsafe : ∀ s op, safe s op → safe' s op) (h : wp E safe p Q R t s) :
    wp E safe' p Q R t s := Prog.wp_weaken hsafe (fun _ _ => id) h

lemma wp_zoom {part : σ' → σ} {put : σ → σ' → σ'} {Q : α → σ' → S → Prop}
    {R : ε → σ' → S → Prop} {t' : σ'}
    (h : wp E safe p (fun a t s => Q a (put t t') s) (fun e t s => R e (put t t') s)
      (part t') s) : wp E safe (zoom part put p) Q R t' s := by
  refine (Prog.wp_bind _ _).mpr (Prog.wp_mono ?_ h)
  intro r s' hr
  obtain ⟨r, t⟩ := r
  cases r with
  | ok a => exact hr
  | error e => exact hr

end

lemma wp_lift {safe : S → Op → Prop} {f : Ans op → Proc Op Ans σ ε α} {t : σ} {s : S}
    (h : Prog.wp E safe (perform op) (fun x s' => wp E safe (f x) Q R t s') s) :
    wp E safe ((perform op : Prog Op Ans (Ans op)) >>= f) Q R t s :=
  (Prog.wp_bind _ _).mpr h

variable {safe : S → Op → Prop} {t t' : σ} {s s' : S}

lemma safe_of_wp {next : Ans op → Prog Op Ans (Except ε α × σ)} (h : wp E safe p Q R t s)
    (hr : Steps E (p.start t) s (ask op next) s') : safe s' op := hr.safe_of_wp h

lemma post_of_wp {T : Except ε α → σ → S → Prop} {r : Except ε α}
    (h : wp E safe p (fun a => T (.ok a)) (fun e => T (.error e)) t s)
    (hr : Steps E (p.start t) s (ret (r, t')) s') : T r t' s' := by
  have hend := hr.post_of_wp h
  cases r with
  | ok a => exact hend
  | error e => exact hend

end Proc

end Prog
