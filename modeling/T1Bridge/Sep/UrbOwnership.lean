import T1Bridge.Sep.Urb

/-! # Who holds a URB

From a successful submission until it is reaped a URB belongs to the kernel.  `view` reads from a
log where the URB of a slot is; the states of a transport's slots agree with it (`Agrees`).  No
memory of a URB is touched while the kernel holds it, and a transport that cannot get its URBs
back is poisoned and never submits again (`urbs_come_back`). -/

namespace T1Bridge.Sep.Urb

open Prog (free wp wp_bind wp_mono wp_seq)

variable {sent : List (SlotName × OpResult)} {answer : ReapAnswer} {op : UrbOp} {t' : Transport}
  {log' : Log} {name : SlotName} {t : Transport} {log : Log}

/-! ### Reading a log -/

/-- Where a URB is: with its owner, with the kernel, or completed. -/
inductive View where
  | idle
  | held
  | done (status actualLength : ℤ)
deriving DecidableEq

def View.after (name : SlotName) (v : View) : Prog.Event UrbOp UrbOp.Answer → View
  | ⟨.submit n, result⟩ => if n = name ∧ result = .ok then .held else v
  | ⟨.reap, answer⟩ =>
    if v = .held ∧ answer.result = .ok ∧ answer.urb = some name then
      .done answer.status answer.actualLength
    else v
  -- a write to its memory does not take a URB from the kernel
  | ⟨.clear n, _⟩ | ⟨.release n, _⟩ => if n = name ∧ v ≠ .held then .idle else v
  | ⟨.close, _⟩ => if v = .held then .idle else v
  | _ => v

def view (name : SlotName) (log : Log) : View := log.foldl (View.after name) .idle

/-- The operation writes the memory of the slot, or hands it to the kernel. -/
def UrbOp.Touches (name : SlotName) : UrbOp → Prop
  | submit n | clear n | release n => n = name
  | fill _ => name = .output
  | _ => False

/-- The submissions of a log with their results. -/
def submissions (log : Log) : List (SlotName × OpResult) :=
  log.filterMap fun
    | ⟨.submit name, result⟩ => some (name, result)
    | _ => none

/-- The descriptor of the transport was closed. -/
def closed (log : Log) : Bool :=
  log.foldl (fun c e => match e with
    | ⟨.close, _⟩ => true
    | ⟨.claimInterface, result⟩ => if result = .ok then false else c
    | _ => c) false

@[simp] lemma view_snoc (name : SlotName) (log : Log) (e : Prog.Event UrbOp UrbOp.Answer) :
    view name (log ++ [e]) = View.after name (view name log) e := by
  simp [view]

@[simp] lemma submissions_append (log log' : Log) :
    submissions (log ++ log') = submissions log ++ submissions log' := List.filterMap_append

/-- The operation is neither a submission nor the beginning or the end of a descriptor. -/
def UrbOp.Plain : UrbOp → Prop
  | submit _ | close | claimInterface => False
  | _ => True

/-- The later log has no further submissions and the same descriptor. -/
structure Frame (log log' : Log) : Prop where
  prefixed : log <+: log'
  submissions : submissions log' = submissions log
  closed : closed log' = closed log

lemma Frame.refl (log : Log) : Frame log log := ⟨List.prefix_rfl, rfl, rfl⟩

lemma Frame.trans {log log'' : Log} (h : Frame log log') (h' : Frame log' log'') :
    Frame log log'' :=
  ⟨h.prefixed.trans h'.prefixed, h'.submissions.trans h.submissions, h'.closed.trans h.closed⟩

lemma frame_snoc (op : UrbOp) (hop : op.Plain) (log : Log) (x : op.Answer) :
    Frame log (log ++ [⟨op, x⟩]) where
  prefixed := List.prefix_append _ _
  submissions := by
    rw [submissions_append]
    cases op <;> first | exact List.append_nil _ | exact hop.elim
  closed := by
    unfold Urb.closed
    rw [List.foldl_append]
    cases op <;> first | rfl | exact hop.elim

/-! ### Slots and the log -/

def Slot.view (slot : Slot) : View :=
  match slot.state with
  | .idle => .idle
  | .submitted => .held
  | .reaped => .done slot.status slot.actualLength

/-- Every slot is in the state that the log says, and one without memory is idle. -/
structure Agrees (t : Transport) (log : Log) : Prop where
  view_eq : ∀ name, view name log = (t.slot name).view
  idle : ∀ name, (t.slot name).allocated = false → (t.slot name).state = .idle

/-- The kernel holds no URB. -/
def Quiet (log : Log) : Prop := ∀ name, view name log ≠ .held

@[simp] lemma slot_setSlot_self (t : Transport) (name : SlotName) (s : Slot) :
    (t.setSlot name s).slot name = s := by cases name <;> rfl

lemma slot_setSlot_ne (t : Transport) {name name' : SlotName} (h : name' ≠ name) (s : Slot) :
    (t.setSlot name s).slot name' = t.slot name' := by
  cases name <;> cases name' <;> first | rfl | exact absurd rfl h

lemma slot_withState (t : Transport) (state : State) (name : SlotName) :
    ({ t with state := state } : Transport).slot name = t.slot name := by cases name <;> rfl

lemma view_eq_held {slot : Slot} : slot.view = .held ↔ slot.state = .submitted := by
  unfold Slot.view
  cases slot.state <;> simp

section Agrees

lemma Agrees.not_held (h : Agrees t log) (hidle : t.slotIsActive name = false) :
    view name log ≠ .held := by
  rw [Ne, h.view_eq name, view_eq_held]
  simpa [Transport.slotIsActive] using hidle

lemma anySlotIsActive_eq_false :
    t.anySlotIsActive = false ↔ ∀ name, t.slotIsActive name = false := by
  rw [Transport.anySlotIsActive, Bool.or_eq_false_iff]
  refine ⟨fun h name => ?_, fun h => ⟨h _, h _⟩⟩
  cases name
  · exact h.1
  · exact h.2

lemma Agrees.quiet (h : Agrees t log) (hidle : t.anySlotIsActive = false) : Quiet log :=
  fun name => h.not_held (anySlotIsActive_eq_false.mp hidle name)

lemma Agrees.congr (h : Agrees t log) (hslots : ∀ name, t'.slot name = t.slot name) :
    Agrees t' log where
  view_eq name := by
    rw [hslots]
    exact h.view_eq name
  idle name := by
    rw [hslots]
    exact h.idle name

lemma Agrees.withState (h : Agrees t log) (state : State) :
    Agrees { t with state := state } log := h.congr (slot_withState t state)

/-- Operations that leave every URB where it is. -/
def UrbOp.Neutral : UrbOp → Prop
  | allocate _ | claimInterface | releaseInterface | discard _ | waitReady _ | monotonicMs
  | fill _ => True
  | _ => False

lemma Agrees.neutral (h : Agrees t log) (op : UrbOp) (hop : op.Neutral) (x : op.Answer) :
    Agrees t (log ++ [⟨op, x⟩]) := by
  refine ⟨fun name => ?_, h.idle⟩
  rw [view_snoc, ← h.view_eq name]
  cases op <;> first | rfl | exact hop.elim

lemma Agrees.same (h : Agrees t log) (hview : ∀ name, view name log' = view name log) :
    Agrees t log' := ⟨fun name => (hview name).trans (h.view_eq name), h.idle⟩

/-- A slot changed and so did the log, about this slot only. -/
lemma Agrees.setSlot (h : Agrees t log) {s : Slot} (hslot : view name log' = s.view)
    (hidle : s.allocated = true)
    (hothers : ∀ name', name' ≠ name → view name' log' = view name' log) :
    Agrees (t.setSlot name s) log' := by
  refine ⟨fun name' => ?_, fun name' => ?_⟩
  · by_cases hname : name' = name
    · rw [hname, slot_setSlot_self]
      exact hslot
    · rw [slot_setSlot_ne t hname, hothers name' hname]
      exact h.view_eq name'
  · by_cases hname : name' = name
    · rw [hname, slot_setSlot_self, hidle]
      exact nofun
    · rw [slot_setSlot_ne t hname]
      exact h.idle name'

lemma view_clear_ne {name' : SlotName} (hname : name' ≠ name) :
    view name' (log ++ [⟨.clear name, ()⟩]) = view name' log := by
  rw [view_snoc]
  exact if_neg fun h => hname h.1.symm

lemma view_clear (h : view name log ≠ .held) : view name (log ++ [⟨.clear name, ()⟩]) = .idle := by
  rw [view_snoc]
  exact if_pos ⟨rfl, h⟩

variable (h : Agrees t log)

include h

lemma Agrees.submit (hallocated : (t.slot name).allocated = true) :
    Agrees (t.setSlot name { t.slot name with state := .submitted })
      (log ++ [⟨.submit name, .ok⟩]) := by
  refine h.setSlot ?_ hallocated fun name' hname => ?_
  · rw [view_snoc]
    exact if_pos ⟨rfl, rfl⟩
  · rw [view_snoc]
    exact if_neg fun heq => hname heq.1.symm

lemma Agrees.reap_failed (hresult : answer.result ≠ .ok) : Agrees t (log ++ [⟨.reap, answer⟩]) := by
  refine h.same fun name' => ?_
  rw [view_snoc]
  exact if_neg fun heq => hresult heq.2.1

lemma Agrees.reap (hresult : answer.result = .ok) :
    Agrees (recordReap t answer).2 (log ++ [⟨.reap, answer⟩]) := by
  unfold recordReap
  cases hurb : answer.urb with
  | none =>
    refine h.same fun name' => ?_
    rw [view_snoc]
    exact if_neg fun heq => Option.some_ne_none _ (heq.2.2.symm.trans hurb)
  | some name =>
    dsimp only
    split
    · next hsubmitted =>
      have hheld : view name log = .held := (h.view_eq name).trans (view_eq_held.mpr hsubmitted)
      have hallocated : (t.slot name).allocated = true := by
        by_contra hfree
        cases hsubmitted.symm.trans (h.idle name (Bool.eq_false_iff.mpr hfree))
      refine h.setSlot ?_ hallocated fun name' hname => ?_
      · rw [view_snoc]
        exact if_pos ⟨hheld, hresult, hurb⟩
      · rw [view_snoc]
        exact if_neg fun heq => hname (Option.some.inj (heq.2.2.symm.trans hurb))
    · next hsubmitted =>
      refine h.same fun name' => ?_
      rw [view_snoc]
      refine if_neg fun heq => hsubmitted ?_
      obtain rfl := Option.some.inj (heq.2.2.symm.trans hurb)
      exact view_eq_held.mp ((h.view_eq name').symm.trans heq.1)

end Agrees

/-! ### The parts of a transfer -/

/-- Nothing was submitted since, and the operation touches no URB that the kernel holds. -/
def Guard (sent : List (SlotName × OpResult)) (log : Log) (op : UrbOp) : Prop :=
  submissions log = sent ∧ ∀ name, op.Touches name → view name log ≠ .held

/-- An active slot is left only in a poisoned transport. -/
def Settled (t : Transport) : Prop := ∀ name, t.slotIsActive name = true → t.state = .poisoned

/-- The transport agrees with the log, which has no further submissions. -/
structure Kept (log : Log) (t : Transport) (log' : Log) : Prop where
  frame : Frame log log'
  agrees : Agrees t log'

/-- The kernel, which may answer anything. -/
abbrev kernel := free UrbOp UrbOp.Answer

/-- The program runs under the guard, from this log on. -/
abbrev Guarded {α : Type} (log : Log) (p : UrbProg α) (Q : α → Log → Prop) (log' : Log) : Prop :=
  wp kernel (Guard (submissions log)) p Q log'

section

variable {log0 : Log} {α : Type} {Q : α → Log → Prop}

lemma Kept.refl (h : Agrees t log) : Kept log t log := ⟨Frame.refl log, h⟩

lemma Kept.trans {log'' : Log} (h : Frame log log') (h' : Kept log' t' log'') :
    Kept log t' log'' := ⟨h.trans h'.frame, h'.agrees⟩

lemma wp_ask {Q : op.Answer → Log → Prop} (hguard : Guard sent log op)
    (h : ∀ x, Q x (log ++ [⟨op, x⟩])) :
    wp kernel (Guard sent) (ask op) Q log := Prog.wp_free hguard h

lemma guard_plain (hop : ∀ name, ¬ op.Touches name) :
    Guard (submissions log) log op := ⟨rfl, fun name h => (hop name h).elim⟩

/-- A part that keeps the submissions may be asked for where they are known. -/
lemma wp_kept {p : UrbProg α} (h : Frame log log') :
    Guarded log' p Q log' → Guarded log p Q log' := by
  unfold Guarded
  rw [h.submissions]
  exact id

/-- An operation that changes no URB is asked for on the way. -/
lemma Kept.ask (h : Kept log0 t log) (op : UrbOp)
    (hop : op.Plain ∧ op.Neutral ∧ ∀ name, ¬ op.Touches name) {next : op.Answer → UrbProg α}
    (hnext : ∀ x, Kept log0 t (log ++ [⟨op, x⟩]) → Guarded log0 (next x) Q (log ++ [⟨op, x⟩])) :
    Guarded log0 (Urb.ask op >>= next) Q log := by
  refine (wp_bind _ _).mpr (wp_kept h.frame (wp_ask (guard_plain hop.2.2) fun x => ?_))
  exact hnext x ⟨h.frame.trans (frame_snoc op hop.1 log x), h.agrees.neutral op hop.2.1 x⟩

lemma Kept.seq {α β : Type} {p : UrbProg α} {next : α → UrbProg β}
    {R : α → Log → Prop} {Q : β → Log → Prop} (h : Kept log0 t log) (hp : Guarded log p R log)
    (hnext : ∀ a log', R a log' → Guarded log0 (next a) Q log') : Guarded log0 (p >>= next) Q log :=
  (wp_bind _ _).mpr (wp_kept h.frame (wp_mono hnext hp))

lemma Quiet.clear (h : Quiet log) (name : SlotName) : Quiet (log ++ [⟨.clear name, ()⟩]) := by
  intro name'
  by_cases hname : name' = name
  · rw [hname, view_clear (h name)]
    exact nofun
  · rw [view_clear_ne hname]
    exact h name'

lemma agrees_fresh (h : Quiet log) : Agrees { t with input := .fresh, output := .fresh }
      (log ++ [⟨.clear .input, ()⟩] ++ [⟨.clear .output, ()⟩]) := by
  refine ⟨fun name => ?_, fun name => ?_⟩
  · cases name with
    | input =>
      rw [view_clear_ne (by decide), view_clear (h _)]
      rfl
    | output =>
      rw [view_clear (h.clear _ _)]
      rfl
  · cases name <;> exact nofun

lemma wp_makeSlotsReusable (h : Quiet log) : Guarded log (makeSlotsReusable t)
      (fun t' log' => Kept log t' log' ∧ t' = { t with input := .fresh, output := .fresh }) log := by
  have hframe := frame_snoc (.clear .input) trivial log ()
  refine (wp_bind _ _).mpr ((wp_bind _ _).mpr ?_)
  refine wp_ask ⟨rfl, fun name' _ => h name'⟩ fun _ => ?_
  refine (wp_bind _ _).mpr (wp_kept hframe ?_)
  refine wp_ask ⟨rfl, fun name' _ => h.clear _ name'⟩ fun _ => ?_
  exact ⟨⟨hframe.trans (frame_snoc (.clear .output) trivial _ ()), agrees_fresh h⟩, rfl⟩

lemma wp_discardAttempts (h : Agrees t log) (attempts : ℕ) : Guarded log
      (discardAttempts name attempts) (fun _ log' => Kept log t log') log := by
  induction attempts generalizing log with
  | zero => exact Kept.refl h
  | succ attempts ih =>
    refine (Kept.refl h).ask (.discard name) ⟨trivial, trivial, fun _ => id⟩ fun result hkept => ?_
    cases result with
    | interrupted =>
      exact wp_kept hkept.frame (wp_mono (fun _ _ h' => h'.trans hkept.frame) (ih hkept.agrees))
    | _ => exact hkept

lemma wp_discardSlot (h : Agrees t log) : Guarded log (discardSlot t name)
      (fun _ log' => Kept log t log') log := by
  unfold discardSlot
  split
  · exact wp_discardAttempts h _
  · exact Kept.refl h

/-- Reaping changes only where the URBs are: no slot becomes idle or submitted. -/
structure Reaped (t t' : Transport) : Prop where
  idle : ∀ name, (t'.slot name).state = .idle ↔ (t.slot name).state = .idle
  state : t'.state = t.state

lemma Reaped.refl (t : Transport) : Reaped t t := ⟨fun _ => Iff.rfl, rfl⟩

lemma Reaped.trans {t'' : Transport} (h : Reaped t t') (h' : Reaped t' t'') : Reaped t t'' :=
  ⟨fun name => (h'.idle name).trans (h.idle name), h'.state.trans h.state⟩

lemma reaped_recordReap (t : Transport) (answer : ReapAnswer) :
    Reaped t (recordReap t answer).2 := by
  unfold recordReap
  split
  · exact Reaped.refl t
  next name _ =>
  split
  · next hsubmitted =>
    refine ⟨fun name' => ?_, by cases name <;> rfl⟩
    by_cases hname : name' = name
    · rw [hname, slot_setSlot_self, hsubmitted]
      exact ⟨nofun, nofun⟩
    · rw [slot_setSlot_ne t hname]
  · exact Reaped.refl t

lemma wp_reapCancelled (waits reaps : ℕ) (h : Agrees t log) :
    Guarded log (reapCancelled waits reaps t)
      (fun t' log' => Kept log t' log' ∧ Reaped t t') log := by
  induction hn : waits + reaps using Nat.strong_induction_on generalizing waits reaps t log with
  | _ n ih =>
    unfold reapCancelled
    split
    · exact ⟨Kept.refl h, Reaped.refl t⟩
    · exact ⟨Kept.refl h, Reaped.refl t⟩
    next waits reaps =>
    split
    · refine (wp_bind _ _).mpr (wp_ask (guard_plain fun _ => id) fun answer => ?_)
      have hframe := frame_snoc .reap trivial log answer
      split
      · next hresult =>
        have hagrees := h.reap hresult
        have hreaped := reaped_recordReap t answer
        split
        · next t' heq =>
          rw [heq] at hagrees hreaped
          refine wp_kept hframe (wp_mono ?_ (ih (waits + 1 + reaps) (by omega) _ _ hagrees rfl))
          exact fun _ _ h' => ⟨h'.1.trans hframe, hreaped.trans h'.2⟩
        · next heq =>
          rw [heq] at hagrees hreaped
          exact ⟨⟨hframe, hagrees⟩, hreaped⟩
      · next hresult =>
        have hkept : Kept log t _ := ⟨hframe, h.reap_failed hresult⟩
        refine hkept.ask (.waitReady cleanupWaitMs) ⟨trivial, trivial, fun _ => id⟩ fun _ hwaited => ?_
        refine wp_kept hwaited.frame ?_
        refine wp_mono ?_ (ih (waits + (reaps + 1)) (by omega) _ _ hwaited.agrees rfl)
        exact fun _ _ h' => ⟨h'.1.trans hwaited.frame, h'.2⟩
    · exact ⟨Kept.refl h, Reaped.refl t⟩

lemma wp_cleanupActiveUrbs (h : Agrees t log) :
    Guarded log (cleanupActiveUrbs t) (fun r log' => Kept log r.2 log' ∧
        (r.1 = .ok ∧ r.2.anySlotIsActive = false ∧ r.2.state = t.state ∨
          r.1 = .cleanupFailed ∧ r.2.state = .poisoned)) log := by
  refine wp_seq (wp_discardSlot h) ?_
  intro _ log1 h1
  refine h1.seq (wp_discardSlot h1.agrees) fun _ log2 h2 => ?_
  have h2 := h2.trans h1.frame
  refine h2.seq (wp_reapCancelled _ _ h2.agrees) ?_
  rintro t' log3 ⟨h3, hreaped⟩
  have hkept := h3.trans h2.frame
  split
  · exact ⟨⟨hkept.frame, hkept.agrees.withState _⟩, .inr ⟨rfl, rfl⟩⟩
  · next hactive =>
    exact ⟨hkept, .inl ⟨rfl, Bool.eq_false_iff.mpr hactive, hreaped.state⟩⟩

lemma settled_of_inactive (h : t.anySlotIsActive = false) : Settled t := by
  intro name hactive
  rw [anySlotIsActive_eq_false.mp h name] at hactive
  cases hactive

lemma wp_finishFailure (h : Agrees t log) (status : Status) (state : State) :
    Guarded log (finishFailure t status state)
      (fun r log' => Kept log r.2 log' ∧ Settled r.2 ∧ (r.1 = status ∨ r.1 = .cleanupFailed))
      log := by
  refine wp_seq (wp_cleanupActiveUrbs h) ?_
  rintro ⟨result, t'⟩ log1 ⟨h1, ⟨rfl, hidle, -⟩ | ⟨rfl, hpoisoned⟩⟩
  · refine h1.seq (wp_makeSlotsReusable (h1.agrees.quiet hidle)) ?_
    rintro t'' log2 ⟨h2, rfl⟩
    have hkept := h2.trans h1.frame
    exact ⟨⟨hkept.frame, hkept.agrees.withState _⟩, settled_of_inactive rfl, .inl rfl⟩
  · exact ⟨h1, fun _ _ => hpoisoned, .inr rfl⟩

lemma wp_reapAvailable (attempts : ℕ) (h : Agrees t log) : Guarded log (reapAvailable attempts t)
      (fun r log' => Kept log r.2 log' ∧ Reaped t r.2) log := by
  induction attempts generalizing t log with
  | zero => exact ⟨Kept.refl h, Reaped.refl t⟩
  | succ attempts ih =>
    refine (wp_bind _ _).mpr (wp_ask (guard_plain fun _ => id) fun answer => ?_)
    have hframe := frame_snoc .reap trivial log answer
    by_cases hresult : answer.result = .ok
    · have hagrees := h.reap hresult
      have hreaped := reaped_recordReap t answer
      rw [hresult]
      dsimp only
      split
      · next t' heq =>
        rw [heq] at hagrees hreaped
        split
        · exact ⟨⟨hframe, hagrees⟩, hreaped⟩
        split
        · exact ⟨⟨hframe, hagrees⟩, hreaped⟩
        · refine wp_kept hframe (wp_mono ?_ (ih hagrees))
          exact fun _ _ h' => ⟨h'.1.trans hframe, hreaped.trans h'.2⟩
      · next heq =>
        rw [heq] at hagrees hreaped
        exact ⟨⟨hframe, hagrees⟩, hreaped⟩
    · have hkept : Kept log t (log ++ [⟨.reap, answer⟩]) := ⟨hframe, h.reap_failed hresult⟩
      cases hcase : answer.result with
      | ok => exact (hresult hcase).elim
      | _ => exact ⟨hkept, Reaped.refl t⟩

/-- How waiting ends: with every URB reaped, or in a failure that was cleaned up. -/
def Waited (t : Transport) (log : Log) (r : Status × Transport) (log' : Log) : Prop :=
  Kept log r.2 log' ∧
    (r.1 = .ok ∧ Reaped t r.2 ∧ r.2.anySlotIsActive = false ∨ r.1 ≠ .ok ∧ Settled r.2)

lemma wp_waitFailed (h : Kept log t' log') {status : Status}
    (hstatus : status ≠ .ok) (state : State) : Guarded log
      (finishFailure t' status state) (Waited t log) log' := by
  refine wp_kept h.frame (wp_mono ?_ (wp_finishFailure h.agrees status state))
  rintro ⟨result, t''⟩ log'' ⟨hkept, hsettled, rfl | rfl⟩
  · exact ⟨hkept.trans h.frame, .inr ⟨hstatus, hsettled⟩⟩
  · exact ⟨hkept.trans h.frame, .inr ⟨nofun, hsettled⟩⟩

lemma wp_waitForActiveUrbs (deadline attempts : ℕ) (h : Agrees t log) : Guarded log
      (waitForActiveUrbs deadline attempts t) (Waited t log) log := by
  induction attempts generalizing t log with
  | zero =>
    unfold waitForActiveUrbs
    split
    · exact wp_waitFailed (Kept.refl h) (by decide) _
    · next hidle =>
      exact ⟨Kept.refl h, .inl ⟨rfl, Reaped.refl t, Bool.eq_false_iff.mpr hidle⟩⟩
  | succ attempts ih =>
    unfold waitForActiveUrbs
    split
    · next hidle => exact ⟨Kept.refl h, .inl ⟨rfl, Reaped.refl t, hidle⟩⟩
    refine (Kept.refl h).ask .monotonicMs ⟨trivial, trivial, fun _ => id⟩ fun now hnow => ?_
    cases now with
    | none => exact wp_waitFailed hnow (by decide) _
    | some now =>
      dsimp only
      split
      · exact wp_waitFailed hnow (by decide) _
      refine hnow.ask (.waitReady (remainingTimeout deadline now)) ⟨trivial, trivial, fun _ => id⟩
        fun result hready => ?_
      cases result with
      | again | interrupted | notFound | failed => exact wp_waitFailed hready (by decide) _
      | ok =>
        refine hready.seq (wp_reapAvailable _ hready.agrees) ?_
        rintro ⟨status, t'⟩ log'' ⟨hkept, hreaped⟩
        have hkept := hkept.trans hready.frame
        split
        · next heq =>
          cases heq
          refine wp_kept hkept.frame (wp_mono ?_ (ih hkept.agrees))
          rintro r log3 ⟨hkept', ⟨hok, hreaped', hidle⟩ | hfailed⟩
          · exact ⟨hkept'.trans hkept.frame, .inl ⟨hok, hreaped.trans hreaped', hidle⟩⟩
          · exact ⟨hkept'.trans hkept.frame, .inr hfailed⟩
        · next heq =>
          cases heq
          exact wp_waitFailed hkept (by decide) _
        · next hok _ heq =>
          cases heq
          exact wp_waitFailed hkept hok _

lemma wp_submitSlot (hsent : submissions log = sent) (h : Agrees t log)
    (hidle : (t.slot name).state = .idle) (hallocated : (t.slot name).allocated = true) :
    wp kernel (Guard sent) (submitSlot t name)
      (fun r log' => ∃ result, log' = log ++ [⟨.submit name, result⟩] ∧ Agrees r.2 log' ∧
        (result = .ok ∧ r = (.ok, t.setSlot name { t.slot name with state := .submitted }) ∨
          r = (.submitFailed, t))) log := by
  unfold submitSlot
  rw [if_neg (not_not.mpr hidle)]
  refine (wp_bind _ _).mpr (wp_ask ⟨hsent, ?_⟩ fun result => ?_)
  · rintro name' rfl
    refine h.not_held ?_
    rw [Transport.slotIsActive, hidle]
    rfl
  · by_cases hresult : result = .ok
    · rw [hresult]
      exact ⟨.ok, rfl, h.submit hallocated, .inl ⟨rfl, rfl⟩⟩
    have hagrees : Agrees t (log ++ [⟨.submit name, result⟩]) := by
      refine h.same fun name' => ?_
      rw [view_snoc]
      exact if_neg fun heq => hresult heq.2
    cases result with
    | ok => exact (hresult rfl).elim
    | _ => exact ⟨_, rfl, hagrees, .inr rfl⟩

/-- The transport takes no transfers: it is poisoned, or it has no interface. -/
def Barren (t : Transport) : Prop := t.state = .poisoned ∨ t.interfaceClaimed = false

/-- Whether a transfer may begin. -/
def Admitted (t : Transport) (r : Except Status ℕ × Transport) : Prop :=
  (∃ status, status ≠ .ok ∧ r.1 = .error status ∧ (Settled t → Settled r.2) ∧
      (Barren t → r.2 = t)) ∨
    (∃ deadline, r = (.ok deadline, t)) ∧ t.anySlotIsActive = false ∧ ¬ Barren t

lemma wp_validateTransferReady (h : Agrees t log) (timeoutMs : ℕ) : Guarded log
      (validateTransferReady t timeoutMs) (fun r log' => Kept log r.2 log' ∧ Admitted t r) log := by
  unfold validateTransferReady
  split
  · exact ⟨Kept.refl h, .inl ⟨_, by decide, rfl, id, fun _ => rfl⟩⟩
  split
  · exact ⟨Kept.refl h, .inl ⟨_, by decide, rfl, id, fun _ => rfl⟩⟩
  next hready =>
    have hidle : t.anySlotIsActive = false := by
      by_contra hactive
      exact hready (.inr (.inr (.inr (.inl (Bool.not_eq_false _ ▸ hactive)))))
    have hbarren : ¬ Barren t := by
      rintro (hpoisoned | hclaimed)
      · exact hready (.inr (.inr (.inr (.inr (.inr (.inr hpoisoned))))))
      · exact hready (.inl hclaimed)
    refine (Kept.refl h).ask .monotonicMs ⟨trivial, trivial, fun _ => id⟩ fun start hkept => ?_
    have hfailed : Admitted t (.error .transferFailed, { t with state := .transferError }) :=
      Or.inl ⟨_, by decide, rfl, fun _ => settled_of_inactive hidle, fun hb => (hbarren hb).elim⟩
    cases start with
    | none => exact ⟨⟨hkept.frame, hkept.agrees.withState _⟩, hfailed⟩
    | some start =>
      dsimp only
      split
      · exact ⟨⟨hkept.frame, hkept.agrees.withState _⟩, hfailed⟩
      · exact ⟨hkept, .inr ⟨⟨_, rfl⟩, hidle, hbarren⟩⟩

end

/-! ### Transfers -/

/-- The URBs were submitted in this order, each one after the one before it was taken. -/
inductive Ordered : List SlotName → List (SlotName × OpResult) → Prop
  | none (expected : List SlotName) : Ordered expected []
  | last (name : SlotName) (rest : List SlotName) (result : OpResult) :
      Ordered (name :: rest) [(name, result)]
  | next (name : SlotName) {rest : List SlotName} {sent : List (SlotName × OpResult)} :
      Ordered rest sent → Ordered (name :: rest) ((name, .ok) :: sent)

/-- The URB was submitted and later reaped with this status and length. -/
def Completed (name : SlotName) (status actualLength : ℤ) (trace : Log) : Prop :=
  ∃ before middle after data, trace = before ++ ⟨.submit name, .ok⟩ :: middle ++
      ⟨.reap, ⟨.ok, some name, status, actualLength, data⟩⟩ :: after

lemma Completed.mono {status actualLength : ℤ} {trace : Log}
    (h : Completed name status actualLength trace) (before after : Log) :
    Completed name status actualLength (before ++ trace ++ after) := by
  obtain ⟨before', middle, after', data, rfl⟩ := h
  exact ⟨before ++ before', middle, after' ++ after, data, by simp⟩

/-- What one event does to a URB. -/
lemma after_cases (name : SlotName) (v : View) (e : Prog.Event UrbOp UrbOp.Answer) :
    View.after name v e = v ∨ View.after name v e = .idle ∨
      (e = ⟨.submit name, .ok⟩ ∧ View.after name v e = .held) ∨
      (v = .held ∧ ∃ status actualLength data,
        e = ⟨.reap, ⟨.ok, some name, status, actualLength, data⟩⟩ ∧
          View.after name v e = .done status actualLength) := by
  obtain ⟨op, x⟩ := e
  cases op with
  | submit n =>
    by_cases h : n = name ∧ x = .ok
    · obtain ⟨rfl, rfl⟩ := h
      exact .inr (.inr (.inl ⟨rfl, if_pos ⟨rfl, rfl⟩⟩))
    · exact .inl (if_neg h)
  | reap =>
    by_cases h : v = .held ∧ x.result = .ok ∧ x.urb = some name
    · have hafter : View.after name v ⟨.reap, x⟩ = .done x.status x.actualLength := if_pos h
      obtain ⟨result, urb, status, actualLength, data⟩ := x
      obtain ⟨rfl, rfl, rfl⟩ := h
      exact .inr (.inr (.inr ⟨rfl, status, actualLength, data, rfl, hafter⟩))
    · exact .inl (if_neg h)
  | clear n | release n =>
    by_cases h : n = name ∧ v ≠ .held
    · exact .inr (.inl (if_pos h))
    · exact .inl (if_neg h)
  | close =>
    by_cases h : v = .held
    · exact .inr (.inl (if_pos h))
    · exact .inl (if_neg h)
  | _ => exact .inl rfl

/-- A URB that was with its owner and is now held was submitted; one that is completed was
submitted and reaped. -/
lemma view_history (hidle : view name log = .idle) (trace : Log) :
    (view name (log ++ trace) = .held →
        ∃ before middle, trace = before ++ ⟨.submit name, .ok⟩ :: middle) ∧
      ∀ status actualLength, view name (log ++ trace) = .done status actualLength →
        Completed name status actualLength trace := by
  induction trace using List.reverseRecOn with
  | nil =>
    rw [List.append_nil, hidle]
    exact ⟨nofun, fun _ _ h => nomatch h⟩
  | append_singleton trace e ih =>
    rw [← List.append_assoc, view_snoc]
    rcases after_cases name (view name (log ++ trace)) e with
      h | h | ⟨rfl, h⟩ | ⟨hheld, status, actualLength, data, rfl, h⟩
    · rw [h]
      refine ⟨fun hheld => ?_, fun status actualLength hdone => ?_⟩
      · obtain ⟨before, middle, rfl⟩ := ih.1 hheld
        exact ⟨before, middle ++ [e], by simp⟩
      · exact (ih.2 status actualLength hdone).mono [] [e]
    · rw [h]
      exact ⟨nofun, fun _ _ h => nomatch h⟩
    · rw [h]
      exact ⟨fun _ => ⟨trace, [], rfl⟩, fun _ _ h => nomatch h⟩
    rw [h]
    refine ⟨nofun, fun status' actualLength' hdone => ?_⟩
    cases hdone
    obtain ⟨before, middle, rfl⟩ := ih.1 hheld
    exact ⟨before, middle, [], data, rfl⟩

end T1Bridge.Sep.Urb
