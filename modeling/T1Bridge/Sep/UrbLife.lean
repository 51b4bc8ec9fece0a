import T1Bridge.Sep.UrbOwnership

/-! # The life of a URB transport

Transfers are put together from the parts, and calls from transfers.  `Calls` is any sequence of
calls on a transport, and `urbs_come_back` says what holds wherever it is stopped. -/

namespace T1Bridge.Sep.Urb

open List (append_nil foldl_append prefix_append prefix_rfl)
open Prog (free wp_bind wp_mono wp_seq)

variable {α : Type}

variable {p : UrbProg α} {Q : α → Log → Prop} {state : State} {claimed : Bool} {result : OpResult}
  {name : SlotName} {log0 log log' log'' : Log} {status : Status}

/-! ### Transfers -/

section Transfers

variable {expected : List SlotName} {t t' t'' : Transport} {sent : List (SlotName × OpResult)}

/-- In a transfer, what was submitted so far is in order, and the operation touches no URB that
the kernel holds. -/
def Watch (expected : List SlotName) (base : List (SlotName × OpResult)) (log : Log)
    (op : UrbOp) : Prop :=
  (∃ sent, submissions log = base ++ sent ∧ Ordered expected sent) ∧
    ∀ name, op.Touches name → view name log ≠ .held

/-- The weakest precondition with every operation under `Watch`. -/
abbrev Watched (expected : List SlotName) (log : Log) (p : UrbProg α) (Q : α → Log → Prop)
    (log' : Log) : Prop := Prog.wp kernel (Watch expected (submissions log)) p Q log'

/-- A transfer on its way. -/
structure Stage (expected : List SlotName) (log : Log) (sent : List (SlotName × OpResult))
    (t' : Transport) (log' : Log) : Prop where
  prefixed : log <+: log'
  agrees : Agrees t' log'
  closed_eq : closed log' = closed log
  submissions_eq : submissions log' = submissions log ++ sent
  ordered : Ordered expected sent

lemma Stage.step (h : Stage expected log sent t' log') (hkept : Kept log' t'' log'') :
    Stage expected log sent t'' log'' where
  prefixed := h.prefixed.trans hkept.frame.prefixed
  agrees := hkept.agrees
  closed_eq := hkept.frame.closed.trans h.closed_eq
  submissions_eq := hkept.frame.submissions.trans h.submissions_eq
  ordered := h.ordered

lemma Stage.wp (h : Stage expected log sent t' log') (hp : Guarded log' p Q log') :
    Watched expected log p Q log' := by
  refine Prog.wp_weaken ?_ (fun _ _ => id) hp
  rintro log'' op ⟨hsent, htouches⟩
  exact ⟨⟨sent, hsent.trans h.submissions_eq, h.ordered⟩, htouches⟩

lemma Stage.seq {β : Type} {next : α → UrbProg β} {R : α → Log → Prop}
    {Q : β → Log → Prop} (h : Stage expected log sent t' log')
    (hp : Guarded log' p R log')
    (hnext : ∀ a log'', R a log'' → Watched expected log (next a) Q log'') :
    Watched expected log (p >>= next) Q log' :=
  (wp_bind _ _).mpr (h.wp (wp_mono hnext hp))

/-- How a transfer ends. -/
structure Outcome (expected : List SlotName) (t : Transport) (log : Log) (status : Status)
    (t' : Transport) (log' : Log) : Prop where
  agrees : Agrees t' log'
  settled : Settled t'
  closed_eq : closed log' = closed log
  ordered : ∃ sent, submissions log' = submissions log ++ sent ∧ Ordered expected sent
  barren : Barren t → t' = t ∧ submissions log' = submissions log
  completed : status = .ok → ∀ name ∈ expected, ∃ trace, log' = log ++ trace ∧
    Completed name 0 transferSize trace

lemma Stage.failed (h : Stage expected log sent t' log') (hsettled : Settled t')
    (hbarren : ¬ Barren t) (hstatus : status ≠ .ok) :
    Outcome expected t log status t' log' :=
  { h with
    settled := hsettled
    ordered := ⟨sent, h.submissions_eq, h.ordered⟩
    barren := fun hb => (hbarren hb).elim
    completed := fun hok => (hstatus hok).elim }

lemma outcome_refused (hsettled : Settled t) (hkept : Kept log t' log')
    (hstatus : status ≠ .ok) (hsettled' : Settled t → Settled t')
    (hbarren : Barren t → t' = t) : Outcome expected t log status t' log' where
  agrees := hkept.agrees
  settled := hsettled' hsettled
  closed_eq := hkept.frame.closed
  ordered := ⟨[], by rw [hkept.frame.submissions, append_nil], Ordered.none _⟩
  barren hb := ⟨hbarren hb, hkept.frame.submissions⟩
  completed hok := (hstatus hok).elim

lemma outcome_invalid (h : Agrees t log) (hsettled : Settled t) :
    Outcome expected t log .invalidArgument t log :=
  outcome_refused hsettled (Kept.refl h) (by decide) id fun _ => rfl

lemma Stage.wp_failed (h : Stage expected log sent t' log') (hbarren : ¬ Barren t)
    (hstatus : status ≠ .ok) (state : State) : Watched expected log (finishFailure t' status state)
      (fun r log' => r.1 ≠ .ok ∧ Outcome expected t log r.1 r.2 log') log' := by
  refine h.wp (wp_mono ?_ (wp_finishFailure h.agrees status state))
  rintro ⟨result, t''⟩ log'' ⟨hkept, hsettled, hresult⟩
  have hresult : result ≠ .ok := by
    rcases hresult with rfl | rfl
    · exact hstatus
    · decide
  exact ⟨hresult, (h.step hkept).failed hsettled hbarren hresult⟩

lemma Stage.submitted (h : Stage expected log sent t' log')
    (hordered : Ordered expected (sent ++ [(name, result)]))
    (hagrees : Agrees t'' (log' ++ [⟨.submit name, result⟩])) :
    Stage expected log (sent ++ [(name, result)]) t'' (log' ++ [⟨.submit name, result⟩]) where
  prefixed := h.prefixed.trans (prefix_append _ _)
  agrees := hagrees
  closed_eq := by
    rw [← h.closed_eq]
    unfold closed
    rw [foldl_append]
    rfl
  submissions_eq := by
    rw [submissions_append, h.submissions_eq, List.append_assoc]
    rfl
  ordered := hordered

lemma Stage.submit (name : SlotName) (h : Stage expected log sent t' log')
    (hidle : (t'.slot name).state = .idle) (hallocated : (t'.slot name).allocated = true)
    (hordered : ∀ result, Ordered expected (sent ++ [(name, result)]))
    {next : Status × Transport → UrbProg α}
    (hok : ∀ log'', log'' = log' ++ [⟨.submit name, .ok⟩] → Stage expected log
      (sent ++ [(name, .ok)]) (t'.setSlot name { t'.slot name with state := .submitted }) log'' →
      Watched expected log
        (next (.ok, t'.setSlot name { t'.slot name with state := .submitted })) Q log'')
    (hfailed : ∀ sent log'', Stage expected log sent t' log'' →
      Watched expected log (next (.submitFailed, t')) Q log'') :
    Watched expected log (submitSlot t' name >>= next) Q log' := by
  refine h.seq (wp_submitSlot rfl h.agrees hidle hallocated) ?_
  rintro ⟨status, t1⟩ log1 ⟨result, rfl, hagrees, ⟨rfl, heq⟩ | heq⟩
  · cases heq
    exact hok _ rfl (h.submitted (hordered .ok) hagrees)
  · cases heq
    exact hfailed _ _ (h.submitted (hordered result) hagrees)

/-- The slots of a transfer that is about to submit its first URB. -/
structure Prepared (t' : Transport) (log' : Log) : Prop where
  idle : ∀ name, (t'.slot name).state = .idle
  allocated : ∀ name, (t'.slot name).allocated = true
  view_idle : ∀ name, view name log' = .idle

lemma prepared_fresh (buffer : Packet)
    (h : Agrees ⟨.fresh, .fresh, state, claimed⟩ log') (state' : State) :
    Agrees ⟨.fresh, { Slot.fresh with buffer := buffer }, state', claimed⟩ log' ∧
      Prepared ⟨.fresh, { Slot.fresh with buffer := buffer }, state', claimed⟩ log' := by
  refine ⟨⟨fun name => ?_, fun name => ?_⟩, ⟨fun name => ?_, fun name => ?_, fun name => ?_⟩⟩
  · rw [h.view_eq name]
    cases name <;> rfl
  · cases name <;> exact nofun
  · cases name <;> rfl
  · cases name <;> rfl
  · rw [h.view_eq name]
    cases name <;> rfl

lemma Stage.fill {output : Packet} {next : UrbProg α}
    (h : Stage expected log [] ⟨.fresh, .fresh, state, claimed⟩ log')
    (state' : State) (hnext : ∀ log'',
      Stage expected log [] ⟨.fresh, { Slot.fresh with buffer := output }, state', claimed⟩ log'' →
      Prepared ⟨.fresh, { Slot.fresh with buffer := output }, state', claimed⟩ log'' →
      Watched expected log next Q log'') :
    Watched expected log (ask (.fill output) >>= fun _ => next) Q log' := by
  refine (wp_bind _ _).mpr (h.wp (wp_ask ⟨rfl, ?_⟩ fun _ => ?_))
  · rintro name rfl
    exact h.agrees.quiet rfl .output
  have hfill := h.step ⟨frame_snoc (.fill output) trivial _ (),
    h.agrees.neutral (.fill output) trivial ()⟩
  obtain ⟨hagrees, hprepared⟩ := prepared_fresh output hfill.agrees state'
  exact hnext _ { hfill with agrees := hagrees } hprepared

/-- A slot that was submitted and is no longer active was reaped; if its status and length are
right it is completed. -/
lemma completed_of_reaped (hstart : log <+: log') (hidle : view name log = .idle)
    (hagrees : Agrees t' log') (hactive : t'.anySlotIsActive = false)
    (hsubmitted : (t'.slot name).state ≠ .idle) (hstatus : (t'.slot name).status = 0)
    (hlength : (t'.slot name).actualLength = transferSize) :
    ∃ trace, log' = log ++ trace ∧ Completed name 0 transferSize trace := by
  obtain ⟨trace, rfl⟩ := hstart
  refine ⟨trace, rfl, (view_history hidle trace).2 0 transferSize ?_⟩
  have hreaped : (t'.slot name).state = .reaped := by
    have hnot := anySlotIsActive_eq_false.mp hactive name
    rw [Transport.slotIsActive, decide_eq_false_iff_not] at hnot
    cases hcase : (t'.slot name).state with
    | idle => exact (hsubmitted hcase).elim
    | submitted => exact (hnot hcase).elim
    | reaped => rfl
  rw [hagrees.view_eq name, Slot.view, hreaped, ← hstatus, ← hlength]

lemma Completed.within (hstart : log0 <+: log) (hstart' : log' <+: log'')
    (h : ∃ trace, log' = log ++ trace ∧ Completed name 0 transferSize trace) :
    ∃ trace, log'' = log0 ++ trace ∧ Completed name 0 transferSize trace := by
  obtain ⟨before, rfl⟩ := hstart
  obtain ⟨after, rfl⟩ := hstart'
  obtain ⟨trace, rfl, hcompleted⟩ := h
  exact ⟨before ++ trace ++ after, by simp, hcompleted.mono before after⟩

lemma Stage.wp_finish (h : Stage expected log sent t' log') (hbarren : ¬ Barren t)
    (hactive : t'.anySlotIsActive = false)
    (hcompleted : ∀ name ∈ expected, ∃ trace, log' = log ++ trace ∧
      Completed name 0 transferSize trace) :
    Watched expected log (makeSlotsReusable t')
      (fun t'' log'' => Outcome expected t log .ok { t'' with state := .ready } log'') log' := by
  refine h.wp (wp_mono ?_ (wp_makeSlotsReusable (h.agrees.quiet hactive)))
  rintro t'' log'' ⟨hkept, rfl⟩
  have h' := h.step hkept
  exact ⟨h'.agrees.withState _, settled_of_inactive rfl, h'.closed_eq,
    ⟨sent, h'.submissions_eq, h'.ordered⟩, fun hb => (hbarren hb).elim,
    fun _ name hname => Completed.within prefix_rfl hkept.frame.prefixed (hcompleted name hname)⟩

lemma validate_ok {slot : Slot} (h : slot.validate = .ok) :
    slot.status = 0 ∧ slot.actualLength = transferSize := by
  unfold Slot.validate at h
  split at h
  · cases h
  split at h
  · cases h
  next hstatus hlength => exact ⟨not_not.mp hstatus, not_not.mp hlength⟩

lemma validateReapedSlots_ok (h : validateReapedSlots t = .ok) (name : SlotName) :
    (t.slot name).status = 0 ∧ (t.slot name).actualLength = transferSize := by
  unfold validateReapedSlots at h
  split at h
  · cases h
  split at h
  · cases h
  next hstatus hlength =>
    rw [not_or, not_not, not_not] at hstatus hlength
    cases name with
    | input => exact ⟨hstatus.1, hlength.1⟩
    | output => exact ⟨hstatus.2, hlength.2⟩

/-- A transfer in one direction, up to the point where its slot is made reusable. -/
lemma Stage.wp_directionalTransfer (h : Stage [name] log [] t' log') (hprepared : Prepared t' log')
    (hbarren : ¬ Barren t) (deadline : ℕ) : Watched [name] log
      (directionalTransfer t' name deadline)
      (fun r log'' => r.1 ≠ .ok ∧ Outcome [name] t log r.1 r.2 log'' ∨
        r.1 = .ok ∧ Stage [name] log [(name, .ok)] r.2 log'' ∧ r.2.anySlotIsActive = false ∧
          ∀ name' ∈ [name], ∃ trace, log'' = log ++ trace ∧
            Completed name' 0 transferSize trace) log' := by
  have hbusy : Stage [name] log [] { t' with state := .busy } log' :=
    { h with agrees := h.agrees.withState _ }
  refine hbusy.submit name (by rw [slot_withState]; exact hprepared.idle name)
    (by rw [slot_withState]; exact hprepared.allocated name) (Ordered.last name []) ?_
    fun _ _ h1 => wp_mono (fun _ _ => .inl) (h1.wp_failed hbarren (by decide) _)
  rintro log1 rfl h1
  refine h1.seq (wp_waitForActiveUrbs _ _ h1.agrees) ?_
  rintro ⟨status, t2⟩ log2 ⟨hkept, ⟨rfl, hreaped, hactive⟩ | ⟨hstatus, hsettled⟩⟩
  · have h2 := h1.step hkept
    have hsubmitted : (t2.slot name).state ≠ .idle := by
      rw [Ne, hreaped.idle, slot_setSlot_self]
      exact nofun
    dsimp only
    cases hvalid : (t2.slot name).validate with
    | ok =>
      refine Or.inr ⟨rfl, h2, hactive, fun name' hname => ?_⟩
      rw [List.mem_singleton.mp hname]
      obtain ⟨hstatus, hlength⟩ := validate_ok hvalid
      refine Completed.within h.prefixed prefix_rfl ?_
      exact completed_of_reaped ((prefix_append _ _).trans hkept.frame.prefixed)
        (hprepared.view_idle name) h2.agrees hactive hsubmitted hstatus hlength
    | _ =>
      refine wp_mono (fun _ _ => .inl) (h2.wp_failed hbarren ?_ _)
      decide
  · have hfailed := (h1.step hkept).failed (t := t) hsettled hbarren hstatus
    cases status <;> first | exact (hstatus rfl).elim | exact .inl ⟨hstatus, hfailed⟩

/-- The beginning that the transfers share: they are refused, or their slots are idle. -/
lemma wp_begin (h : Agrees t log) (hsettled : Settled t) (timeoutMs : ℕ)
    {refused : Status → Transport → UrbProg α} {go : ℕ → Transport → UrbProg α}
    (hrefused : ∀ status t' log', Outcome expected t log status t' log' →
      Watched expected log (refused status t') Q log')
    (hgo : ∀ deadline log', ¬ Barren t →
      Stage expected log [] ⟨.fresh, .fresh, t.state, t.interfaceClaimed⟩ log' →
      Watched expected log (go deadline ⟨.fresh, .fresh, t.state, t.interfaceClaimed⟩) Q log') :
    Watched expected log (do
        match ← validateTransferReady t timeoutMs with
        | (.error status, t) => refused status t
        | (.ok deadline, t) =>
          let t ← makeSlotsReusable t
          go deadline t) Q log := by
  have hstart : Stage expected log [] t log :=
    ⟨prefix_rfl, h, rfl, (append_nil _).symm, Ordered.none _⟩
  refine hstart.seq (wp_validateTransferReady h timeoutMs) ?_
  rintro ⟨result, t1⟩ log1 ⟨hkept, ⟨status, hstatus, rfl, hsettled', hbarren⟩ |
    ⟨⟨deadline, heq⟩, hactive, hbarren⟩⟩
  · exact hrefused status t1 log1 (outcome_refused hsettled hkept hstatus hsettled' hbarren)
  · cases heq
    have h1 := hstart.step hkept
    refine h1.seq (wp_makeSlotsReusable (hkept.agrees.quiet hactive)) ?_
    rintro t2 log2 ⟨hkept', rfl⟩
    exact hgo deadline log2 hbarren (h1.step hkept')

lemma wp_sendOnly (h : Agrees t log) (hsettled : Settled t) (output : Option Packet)
    (timeoutMs : ℕ) : Watched [.output] log
      (sendOnly t output timeoutMs) (fun r log' => Outcome [.output] t log r.1 r.2 log') log := by
  unfold sendOnly
  cases output with
  | none => exact outcome_invalid h hsettled
  | some output =>
    dsimp only
    split
    · exact outcome_invalid h hsettled
    refine wp_begin h hsettled timeoutMs (fun _ _ _ houtcome => houtcome) ?_
    intro deadline log1 hbarren h1
    refine h1.fill t.state fun log2 h2 hprepared => ?_
    refine wp_seq (h2.wp_directionalTransfer hprepared hbarren deadline) ?_
    rintro ⟨status, t3⟩ log3 (⟨hstatus, houtcome⟩ | ⟨rfl, h3, hactive, hcompleted⟩)
    · cases status <;> first | exact (hstatus rfl).elim | exact houtcome
    · exact h3.wp_finish hbarren hactive hcompleted

lemma wp_receiveOnly (h : Agrees t log) (hsettled : Settled t) (inputCapacity : Option ℕ)
    (timeoutMs : ℕ) : Watched [.input] log (receiveOnly t inputCapacity timeoutMs)
      (fun r log' => Outcome [.input] t log r.1 r.2.2 log') log := by
  unfold receiveOnly
  split
  · exact outcome_invalid h hsettled
  refine wp_begin h hsettled timeoutMs (fun _ _ _ houtcome => houtcome) ?_
  intro deadline log1 hbarren h1
  obtain ⟨-, hprepared⟩ := prepared_fresh Slot.fresh.buffer h1.agrees t.state
  refine wp_seq (Stage.wp_directionalTransfer h1 hprepared hbarren deadline) ?_
  rintro ⟨status, t3⟩ log3 (⟨hstatus, houtcome⟩ | ⟨rfl, h3, hactive, hcompleted⟩)
  · cases status <;> first | exact (hstatus rfl).elim | exact houtcome
  · exact h3.wp_finish hbarren hactive hcompleted

lemma Stage.wp_exchanged (h : Stage [.input, .output] log [(.input, .ok), (.output, .ok)] t' log')
    (hbarren : ¬ Barren t) (hstart : log <+: log0)
    (hstart' : log0 <+: log') (hidle : ∀ name, view name log0 = .idle)
    (hsubmitted : ∀ name, (t'.slot name).state = .submitted) (deadline : ℕ) :
    Watched [.input, .output] log (do
        match ← waitForActiveUrbs deadline waitLimit t' with
        | (.ok, t) =>
          match validateReapedSlots t with
          | .ok =>
            let received := t.input.buffer
            let t ← makeSlotsReusable t
            pure (.ok, some received, { t with state := .ready })
          | status =>
            let (status, t) ← finishFailure t status .transferError
            pure (status, none, t)
        | (status, t) => pure (status, none, t))
      (fun r log' => Outcome [.input, .output] t log r.1 r.2.2 log') log' := by
  refine h.seq (wp_waitForActiveUrbs _ _ h.agrees) ?_
  rintro ⟨status, t2⟩ log2 ⟨hkept, ⟨rfl, hreaped, hactive⟩ | ⟨hstatus, hsettled⟩⟩
  · have h2 := h.step hkept
    dsimp only
    cases hvalid : validateReapedSlots t2 with
    | ok =>
      refine (wp_bind _ _).mpr (h2.wp_finish hbarren hactive fun name _ => ?_)
      obtain ⟨hstatus, hlength⟩ := validateReapedSlots_ok hvalid name
      have hnot : (t2.slot name).state ≠ .idle := by
        rw [Ne, hreaped.idle, hsubmitted name]
        exact nofun
      exact Completed.within hstart prefix_rfl
        (completed_of_reaped (hstart'.trans hkept.frame.prefixed) (hidle name) h2.agrees hactive
          hnot hstatus hlength)
    | _ =>
      exact wp_seq (h2.wp_failed hbarren (by decide) _) fun _ _ h => h.2
  · have hfailed := (h.step hkept).failed (t := t) hsettled hbarren hstatus
    cases status <;> first | exact (hstatus rfl).elim | exact hfailed

lemma wp_exchange (h : Agrees t log) (hsettled : Settled t) (output : Option Packet)
    (inputCapacity : Option ℕ) (timeoutMs : ℕ) :
    Watched [.input, .output] log (exchange t output inputCapacity timeoutMs)
      (fun r log' => Outcome [.input, .output] t log r.1 r.2.2 log') log := by
  unfold exchange
  cases output with
  | none => exact outcome_invalid h hsettled
  | some output =>
    dsimp only
    split
    · exact outcome_invalid h hsettled
    refine wp_begin h hsettled timeoutMs (fun _ _ _ houtcome => houtcome) ?_
    intro deadline log1 hbarren h1
    refine h1.fill .busy fun log2 h2 hprepared => ?_
    refine h2.submit .input (hprepared.idle .input) (hprepared.allocated .input)
      (Ordered.last .input [.output]) ?_
      fun _ _ h3 => wp_seq (h3.wp_failed hbarren (by decide) _) fun _ _ h => h.2
    rintro log3 rfl h3
    refine h3.submit .output (hprepared.idle .output) (hprepared.allocated .output)
      (fun result => Ordered.next .input (Ordered.last .output [] result)) ?_
      fun _ _ h4 => wp_seq (h4.wp_failed hbarren (by decide) _) fun _ _ h => h.2
    rintro log4 rfl h4
    refine h4.wp_exchanged hbarren h2.prefixed ?_ hprepared.view_idle ?_ deadline
    · exact (prefix_append _ _).trans (prefix_append _ _)
    · intro name
      cases name <;> rfl

end Transfers

/-! ### Memory is given back -/

section Release

variable {t : Transport}

/-- URBs are where they were, or idle. -/
def Cleaner (log log' : Log) : Prop :=
  ∀ name, view name log' = view name log ∨ view name log' = .idle

lemma Cleaner.trans (h : Cleaner log log') (h' : Cleaner log' log'') : Cleaner log log'' := by
  intro name
  rcases h' name with heq | heq
  · rw [heq]
    exact h name
  · exact .inr heq

lemma Cleaner.quiet (h : Cleaner log log') (hquiet : Quiet log) : Quiet log' := by
  intro name
  rcases h name with heq | heq
  · rw [heq]
    exact hquiet name
  · rw [heq]
    exact nofun

lemma Cleaner.idle (h : Cleaner log log') (hidle : view name log = .idle) :
    view name log' = .idle := (h name).elim (fun heq => heq.trans hidle) id

lemma cleaner_snoc (op : UrbOp) (hop : ∀ n, op ≠ .submit n) (hreap : op ≠ .reap) (log : Log)
    (x : op.Answer) : Cleaner log (log ++ [⟨op, x⟩]) := by
  intro name
  rw [view_snoc]
  rcases after_cases name (view name log) ⟨op, x⟩ with
    h | h | ⟨h, -⟩ | ⟨-, status, actualLength, data, h, -⟩
  · exact .inl h
  · exact .inr h
  · exact (hop name (congrArg Sigma.fst h)).elim
  · exact (hreap (congrArg Sigma.fst h)).elim

lemma wp_clearSlot (hquiet : Quiet log) : Guarded log (clearSlot t name)
      (fun _ log' => Frame log log' ∧ Cleaner log log' ∧
        ((t.slot name).allocated = true → view name log' = .idle)) log := by
  unfold clearSlot
  split
  · refine wp_ask ⟨rfl, fun name' _ => hquiet name'⟩ fun _ => ?_
    exact ⟨frame_snoc (.clear name) trivial _ _, cleaner_snoc (.clear name) nofun nofun _ _,
      fun _ => view_clear (hquiet name)⟩
  · next hfree =>
    exact ⟨Frame.refl log, fun _ => .inl rfl, fun hallocated => (hfree hallocated).elim⟩

lemma wp_freeSlot (hquiet : Quiet log) : Guarded log (freeSlot t name)
      (fun _ log' => Frame log log' ∧ Cleaner log log') log := by
  unfold freeSlot
  split
  · refine wp_ask ⟨rfl, fun name' _ => hquiet name'⟩ fun _ => ?_
    exact ⟨frame_snoc (.release name) trivial _ _, cleaner_snoc (.release name) nofun nofun _ _⟩
  · exact ⟨Frame.refl log, fun _ => .inl rfl⟩

lemma wp_releaseAllocations (hquiet : Quiet log) : Guarded log (releaseAllocations t)
      (fun t' log' => t' = .zeroed ∧ Frame log log' ∧ Cleaner log log' ∧
        ∀ name, (t.slot name).allocated = true → view name log' = .idle) log := by
  refine wp_seq (wp_clearSlot hquiet) ?_
  rintro _ log1 ⟨hframe1, hcleaner1, hinput⟩
  refine (wp_bind _ _).mpr (wp_kept hframe1 (wp_mono ?_ (wp_clearSlot (hcleaner1.quiet hquiet))))
  rintro _ log2 ⟨hframe2, hcleaner2, houtput⟩
  have hframe2 := hframe1.trans hframe2
  have hquiet2 := (hcleaner1.trans hcleaner2).quiet hquiet
  refine (wp_bind _ _).mpr (wp_kept hframe2 (wp_mono ?_ (wp_freeSlot hquiet2)))
  rintro _ log3 ⟨hframe3, hcleaner3⟩
  have hframe3 := hframe2.trans hframe3
  refine (wp_bind _ _).mpr (wp_kept hframe3 (wp_mono ?_ (wp_freeSlot (hcleaner3.quiet hquiet2))))
  rintro _ log4 ⟨hframe4, hcleaner4⟩
  have hlater := hcleaner3.trans hcleaner4
  refine ⟨rfl, hframe3.trans hframe4, hcleaner1.trans (hcleaner2.trans hlater), fun name h => ?_⟩
  cases name with
  | input => exact (hcleaner2.trans hlater).idle (hinput h)
  | output => exact hlater.idle (houtput h)

end Release

/-! ### Calls -/

/-- What an owner can do with a transport. -/
inductive Call where
  | initializeTransport
  | exchange (output : Option Packet) (inputCapacity : Option ℕ) (timeoutMs : ℕ)
  | sendOnly (output : Option Packet) (timeoutMs : ℕ)
  | receiveOnly (inputCapacity : Option ℕ) (timeoutMs : ℕ)
  | destroy
  | close
  | abandonAfterClose

namespace Call

def run (t : Transport) : Call → UrbProg (Status × Transport)
  | initializeTransport => Urb.initializeTransport
  | exchange output inputCapacity timeoutMs => do
    let (status, _, t) ← Urb.exchange t output inputCapacity timeoutMs
    pure (status, t)
  | sendOnly output timeoutMs => Urb.sendOnly t output timeoutMs
  | receiveOnly inputCapacity timeoutMs => do
    let (status, _, t) ← Urb.receiveOnly t inputCapacity timeoutMs
    pure (status, t)
  | destroy => Urb.destroy t
  | close => do
    ask .close
    pure (.ok, t)
  | abandonAfterClose => do
    let t ← Urb.abandonAfterClose t
    pure (.ok, t)

/-- The URBs that the call submits, in their order. -/
def expected : Call → List SlotName
  | exchange _ _ _ => [.input, .output]
  | sendOnly _ _ => [.output]
  | receiveOnly _ _ => [.input]
  | _ => []

/-- A transport is initialised when it has no memory and abandoned when its descriptor was
closed, which is the last thing that is done with the descriptor. -/
def Allowed (t : Transport) (log : Log) : Call → Prop
  | initializeTransport => ∀ name, (t.slot name).allocated = false
  | abandonAfterClose => closed log = true
  | _ => closed log = false

end Call

/-- Any sequence of calls; without `fresh` the transport is not initialised again. -/
inductive Calls (fresh : Prop) (t0 : Transport) (log0 : Log) : Transport → Log → Prop
  | refl : Calls fresh t0 log0 t0 log0
  | call {t t' : Transport} {log log' : Log} {status : Status} (call : Call) :
      Calls fresh t0 log0 t log → call.Allowed t log → (call = .initializeTransport → fresh) →
      Prog.Steps (free UrbOp UrbOp.Answer) (call.run t) log (.ret (status, t')) log' →
      Calls fresh t0 log0 t' log'

/-- Between two calls: while the descriptor is open the slots agree with the log, and then no
URB is with the kernel. -/
def Owned (t : Transport) (log : Log) : Prop :=
  closed log = false ∧ Agrees t log ∧ Settled t ∨ closed log = true ∧ Quiet log

/-- How a call ends. -/
structure Ended (call : Call) (t : Transport) (log : Log) (r : Status × Transport)
    (log' : Log) : Prop where
  owned : Owned r.2 log'
  ordered : ∃ sent, submissions log' = submissions log ++ sent ∧ Ordered call.expected sent
  barren : call ≠ .initializeTransport → Barren t → Barren r.2 ∧ submissions log' = submissions log
  completed : r.1 = .ok → ∀ name ∈ call.expected, ∃ trace, log' = log ++ trace ∧
    Completed name 0 transferSize trace

section

variable {t t' : Transport} {call : Call}

lemma Outcome.ended (call : Call)
    (h : Outcome call.expected t log status t' log') (hclosed : closed log = false) :
    Ended call t log (status, t') log' where
  owned := Or.inl ⟨h.closed_eq.trans hclosed, h.agrees, h.settled⟩
  ordered := h.ordered
  barren _ hbarren := by
    obtain ⟨rfl, hsubmissions⟩ := h.barren hbarren
    exact ⟨hbarren, hsubmissions⟩
  completed := h.completed

lemma ended_plain {r : Status × Transport} (hexpected : call.expected = [])
    (hsubmissions : submissions log' = submissions log) (howned : Owned r.2 log')
    (hbarren : call ≠ .initializeTransport → Barren t → Barren r.2) : Ended call t log r log' where
  owned := howned
  ordered := ⟨[], by rw [hsubmissions, append_nil], Ordered.none _⟩
  barren hcall hb := ⟨hbarren hcall hb, hsubmissions⟩
  completed _ name hname := by
    rw [hexpected] at hname
    cases hname

lemma wp_watch (expected : List SlotName) (hp : Guarded log p Q log') :
    Watched expected log p Q log' := by
  refine Prog.wp_weaken ?_ (fun _ _ => id) hp
  rintro log'' op ⟨hsent, htouches⟩
  exact ⟨⟨[], by rw [hsent, append_nil], Ordered.none _⟩, htouches⟩

lemma agrees_zeroed (h : ∀ name, view name log = .idle) : Agrees .zeroed log := by
  refine ⟨fun name => ?_, fun name _ => ?_⟩
  · rw [h name]
    cases name <;> rfl
  · cases name <;> rfl

lemma settled_zeroed : Settled .zeroed := settled_of_inactive rfl

/-- Where a transport without memory can be initialised. -/
def Vacant (log : Log) : Prop :=
  closed log = false ∧ (∀ name, view name log = .idle) ∨ closed log = true ∧ Quiet log

lemma Vacant.quiet (h : Vacant log) : Quiet log := by
  rcases h with ⟨-, hidle⟩ | ⟨-, hquiet⟩
  · intro name
    rw [hidle name]
    exact nofun
  · exact hquiet

lemma Vacant.owned (h : Vacant log) : Owned .zeroed log := by
  rcases h with ⟨hclosed, hidle⟩ | hclosed
  · exact .inl ⟨hclosed, agrees_zeroed hidle, settled_zeroed⟩
  · exact .inr hclosed

lemma Vacant.step (h : Vacant log) (hframe : Frame log log') (hcleaner : Cleaner log log') :
    Vacant log' := by
  rcases h with ⟨hclosed, hidle⟩ | ⟨hclosed, hquiet⟩
  · exact .inl ⟨hframe.closed.trans hclosed, fun name => hcleaner.idle (hidle name)⟩
  · exact .inr ⟨hframe.closed.trans hclosed, hcleaner.quiet hquiet⟩

lemma Owned.vacant (h : Owned t log) (hfree : ∀ name, (t.slot name).allocated = false) :
    Vacant log := by
  rcases h with ⟨hclosed, hagrees, -⟩ | hclosed
  · refine Or.inl ⟨hclosed, fun name => ?_⟩
    rw [hagrees.view_eq name, Slot.view, hagrees.idle name (hfree name)]
  · exact .inr hclosed

lemma wp_releaseVacant (hframe : Frame log0 log) (h : Vacant log) :
    Guarded log0 (releaseAllocations t) (fun t' log' => Owned t' log' ∧ Frame log0 log') log := by
  refine wp_kept hframe (wp_mono ?_ (wp_releaseAllocations h.quiet))
  rintro t' log' ⟨rfl, hframe', hcleaner, -⟩
  exact ⟨(h.step hframe' hcleaner).owned, hframe.trans hframe'⟩

lemma closed_claim (log : Log) : closed (log ++ [⟨.claimInterface, .ok⟩]) = false := by
  unfold closed
  rw [foldl_append]
  rfl

lemma frame_refused (log : Log) (hresult : result ≠ .ok) :
    Frame log (log ++ [⟨.claimInterface, result⟩]) where
  prefixed := prefix_append _ _
  submissions := by
    rw [submissions_append]
    exact append_nil _
  closed := by
    unfold Urb.closed
    rw [foldl_append]
    exact if_neg hresult

/-- A descriptor that is closed takes every URB from the kernel. -/
lemma closed_close (log : Log) :
    closed (log ++ [⟨.close, ()⟩]) = true ∧ Quiet (log ++ [⟨.close, ()⟩]) := by
  refine ⟨?_, fun name => ?_⟩
  · unfold closed
    rw [foldl_append]
    rfl
  rw [view_snoc]
  by_cases hheld : view name log = .held
  · have hidle : View.after name (view name log) ⟨.close, ()⟩ = .idle := if_pos hheld
    rw [hidle]
    exact nofun
  · have hsame : View.after name (view name log) ⟨.close, ()⟩ = view name log := if_neg hheld
    rw [hsame]
    exact hheld

lemma wp_initializeTransport (h : Vacant log) : Guarded log initializeTransport
      (fun r log' => Owned r.2 log' ∧ submissions log' = submissions log) log := by
  refine (wp_bind _ _).mpr ((wp_bind _ _).mpr ?_)
  refine wp_ask (guard_plain fun _ => id) fun allocated => ?_
  have hframe1 := frame_snoc (.allocate .input) trivial log allocated
  have h1 := h.step hframe1 (cleaner_snoc (.allocate .input) nofun nofun _ allocated)
  cases allocated with
  | false => exact ⟨h1.owned, hframe1.submissions⟩
  | true =>
    refine (wp_bind _ _).mpr ((wp_bind _ _).mpr (wp_kept hframe1 ?_))
    refine wp_ask (guard_plain fun _ => id) fun allocated => ?_
    have hframe2 := hframe1.trans (frame_snoc (.allocate .output) trivial _ allocated)
    have h2 := h1.step (frame_snoc (.allocate .output) trivial _ allocated)
      (cleaner_snoc (.allocate .output) nofun nofun _ allocated)
    cases allocated with
    | false =>
      refine wp_seq (wp_releaseVacant hframe2 h2) ?_
      exact fun _ _ h => ⟨h.1, h.2.submissions⟩
    | true =>
      refine (wp_bind _ _).mpr (wp_kept hframe2 (wp_mono ?_ (wp_makeSlotsReusable h2.quiet)))
      rintro t3 log3 ⟨hkept, rfl⟩
      have hframe3 := hframe2.trans hkept.frame
      refine (wp_bind _ _).mpr (wp_kept hframe3 ?_)
      refine wp_ask (guard_plain fun _ => id) fun result => ?_
      have hagrees := hkept.agrees.neutral .claimInterface trivial result
      have hsubmissions : submissions (log3 ++ [⟨.claimInterface, result⟩]) = submissions log := by
        rw [submissions_append, ← hframe3.submissions]
        exact append_nil _
      by_cases hresult : result = .ok
      · rw [hresult] at hagrees hsubmissions ⊢
        refine ⟨.inl ⟨closed_claim log3, hagrees.congr fun name => ?_, ?_⟩, hsubmissions⟩
        · cases name <;> rfl
        · exact settled_of_inactive rfl
      have hframe4 := frame_refused log3 hresult
      have h4 : Vacant (log3 ++ [⟨.claimInterface, result⟩]) := by
        refine h2.step (hkept.frame.trans hframe4) fun name => .inr ?_
        rw [hagrees.view_eq name]
        cases name <;> rfl
      have hrelease := wp_releaseVacant (t := ⟨.fresh, .fresh, .uninitialized, false⟩)
        (hframe3.trans hframe4) h4
      cases result with
      | ok => exact (hresult rfl).elim
      | _ =>
        refine wp_seq hrelease ?_
        exact fun _ _ h => ⟨h.1, h.2.submissions⟩

lemma wp_releaseTransport (hclosed : closed log = false) (h : Agrees t log)
    (hidle : t.anySlotIsActive = false) (hframe : Frame log0 log) :
    Guarded log0 (releaseTransport status t)
      (fun r log' => Owned r.2 log' ∧ submissions log' = submissions log0 ∧ Barren r.2) log := by
  refine (wp_bind _ _).mpr (wp_kept hframe (wp_mono ?_ (wp_releaseAllocations (h.quiet hidle))))
  rintro t' log' ⟨rfl, hframe', hcleaner, hcleared⟩
  refine ⟨.inl ⟨hframe'.closed.trans hclosed, agrees_zeroed fun name => ?_, settled_zeroed⟩,
    (hframe.trans hframe').submissions, .inr rfl⟩
  cases hallocated : (t.slot name).allocated with
  | true => exact hcleared name hallocated
  | false =>
    refine hcleaner.idle ?_
    rw [h.view_eq name, Slot.view, h.idle name hallocated]

lemma wp_destroyIdle (hclosed : closed log = false) (h : Agrees t log)
    (hidle : t.anySlotIsActive = false) (hframe : Frame log0 log) :
    Guarded log0 (destroyIdle t)
      (fun r log' => Owned r.2 log' ∧ submissions log' = submissions log0 ∧ Barren r.2) log := by
  unfold destroyIdle
  split
  · refine (wp_bind _ _).mpr (wp_kept hframe (wp_ask (guard_plain fun _ => id) fun result => ?_))
    have hframe' := frame_snoc .releaseInterface trivial log result
    have hagrees := h.neutral .releaseInterface trivial result
    cases result with
    | _ => exact wp_releaseTransport (hframe'.closed.trans hclosed) hagrees hidle (hframe.trans hframe')
  · exact wp_releaseTransport hclosed h hidle hframe

lemma wp_destroy (hclosed : closed log = false) (h : Agrees t log) (hsettled : Settled t) :
    Guarded log (destroy t) (fun r log' => Owned r.2 log' ∧ submissions log' = submissions log ∧
        (Barren t → Barren r.2)) log := by
  have hend : ∀ (r : Status × Transport) (log' : Log),
      Owned r.2 log' ∧ submissions log' = submissions log ∧ Barren r.2 →
      Owned r.2 log' ∧ submissions log' = submissions log ∧ (Barren t → Barren r.2) :=
    fun _ _ h => ⟨h.1, h.2.1, fun _ => h.2.2⟩
  unfold destroy
  split
  · exact ⟨.inl ⟨hclosed, h, hsettled⟩, rfl, id⟩
  split
  · refine wp_seq (wp_cleanupActiveUrbs h) ?_
    rintro ⟨status, t'⟩ log1 ⟨hkept, ⟨rfl, hidle, -⟩ | ⟨rfl, hpoisoned⟩⟩
    · have hclosed1 := hkept.frame.closed.trans hclosed
      exact wp_mono hend (wp_destroyIdle hclosed1 hkept.agrees hidle hkept.frame)
    · exact ⟨.inl ⟨hkept.frame.closed.trans hclosed, hkept.agrees, fun _ _ => hpoisoned⟩,
        hkept.frame.submissions, fun _ => .inl hpoisoned⟩
  · next hidle =>
    exact wp_mono hend (wp_destroyIdle hclosed h (Bool.eq_false_iff.mpr hidle) (Frame.refl log))

lemma wp_call (h : Owned t log) (hallowed : call.Allowed t log) :
    Watched call.expected log (call.run t) (Ended call t log) log := by
  have hopen : closed log = false → Agrees t log ∧ Settled t := by
    intro hclosed
    rcases h with ⟨-, h⟩ | ⟨hclosed', -⟩
    · exact h
    · cases hclosed.symm.trans hclosed'
  cases call with
  | initializeTransport =>
    refine wp_watch [] (wp_mono ?_ (wp_initializeTransport (h.vacant hallowed)))
    rintro r log' ⟨howned, hsubmissions⟩
    exact ended_plain rfl hsubmissions howned fun hcall => (hcall rfl).elim
  | exchange output inputCapacity timeoutMs =>
    obtain ⟨hagrees, hsettled⟩ := hopen hallowed
    refine wp_seq (wp_exchange hagrees hsettled _ _ _) ?_
    rintro ⟨status, received, t'⟩ log' houtcome
    exact Outcome.ended (.exchange output inputCapacity timeoutMs) houtcome hallowed
  | sendOnly output timeoutMs =>
    obtain ⟨hagrees, hsettled⟩ := hopen hallowed
    refine wp_mono ?_ (wp_sendOnly hagrees hsettled _ _)
    exact fun _ _ houtcome => Outcome.ended (.sendOnly output timeoutMs) houtcome hallowed
  | receiveOnly inputCapacity timeoutMs =>
    obtain ⟨hagrees, hsettled⟩ := hopen hallowed
    refine wp_seq (wp_receiveOnly hagrees hsettled _ _) ?_
    rintro ⟨status, received, t'⟩ log' houtcome
    exact Outcome.ended (.receiveOnly inputCapacity timeoutMs) houtcome hallowed
  | destroy =>
    obtain ⟨hagrees, hsettled⟩ := hopen hallowed
    refine wp_watch [] (wp_mono ?_ (wp_destroy hallowed hagrees hsettled))
    rintro r log' ⟨howned, hsubmissions, hbarren⟩
    exact ended_plain rfl hsubmissions howned fun _ => hbarren
  | close =>
    refine wp_watch [] ((wp_bind _ _).mpr (wp_ask (guard_plain fun _ => id) fun _ => ?_))
    refine ended_plain rfl ?_ (.inr (closed_close log)) fun _ hbarren => hbarren
    rw [submissions_append]
    exact append_nil _
  | abandonAfterClose =>
    have hquiet : Quiet log := by
      rcases h with ⟨hclosed, -⟩ | ⟨-, hquiet⟩
      · cases hclosed.symm.trans hallowed
      · exact hquiet
    refine wp_watch [] ((wp_bind _ _).mpr (wp_mono ?_ (wp_releaseAllocations hquiet)))
    rintro t' log' ⟨rfl, hframe, hcleaner, -⟩
    exact ended_plain rfl hframe.submissions
      (.inr ⟨hframe.closed.trans hallowed, hcleaner.quiet hquiet⟩) fun _ _ => .inr rfl

end

/-! ### Whole sequences -/

/-- How often the URB of a slot was submitted. -/
def submitted (name : SlotName) (log : Log) : ℕ :=
  (submissions log).count (name, .ok)

/-- How often a URB that is at `v` is reaped from the kernel. -/
def reaped (name : SlotName) (v : View) : Log → ℕ
  | [] => 0
  | e :: log =>
    let v' := View.after name v e
    (if v = .held ∧ v' ≠ .held ∧ e.1 = .reap then 1 else 0) + reaped name v' log

/-- How often a URB that is at `v` comes back because its descriptor is closed. -/
def withdrawn (name : SlotName) (v : View) : Log → ℕ
  | [] => 0
  | e :: log =>
    let v' := View.after name v e
    (if v = .held ∧ v' ≠ .held ∧ e.1 = .close then 1 else 0) + withdrawn name v' log

/-- In this log no memory of a URB is touched while the kernel holds it. -/
def Untouched (log : Log) : Prop :=
  ∀ before e after, log = before ++ e :: after → ∀ name, e.1.Touches name → view name before ≠ .held

section Account

/-- The kernel gets a URB by a submission, and gives it up to a reap or when its descriptor is
closed. -/
lemma after_held (v : View) (e : Prog.Event UrbOp UrbOp.Answer)
    (htouches : e.1.Touches name → v ≠ .held) :
    (if v = .held then 1 else 0) + submitted name [e] =
      (if v = .held ∧ View.after name v e ≠ .held ∧ e.1 = .reap then 1 else 0) +
        (if v = .held ∧ View.after name v e ≠ .held ∧ e.1 = .close then 1 else 0) +
        if View.after name v e = .held then 1 else 0 := by
  obtain ⟨op, x⟩ := e
  cases op with
  | submit n =>
    by_cases hn : n = name
    · have hheld : v ≠ .held := htouches hn
      by_cases hx : x = .ok <;> simp [hn, hx, hheld, View.after, submitted, submissions]
    · simp [hn, View.after, submitted, submissions]
  | reap =>
    by_cases hx : v = .held ∧ x.result = .ok ∧ x.urb = some name <;>
      by_cases hv : v = .held <;> simp_all [View.after, submitted, submissions]
  | clear n | release n =>
    by_cases hv : v = .held <;> by_cases hn : n = name <;>
      simp [hv, hn, View.after, submitted, submissions]
  | _ => by_cases hv : v = .held <;> simp [hv, View.after, submitted, submissions]

lemma submitted_cons (e : Prog.Event UrbOp UrbOp.Answer) (log : Log) :
    submitted name (e :: log) = submitted name [e] + submitted name log := by
  have h := submissions_append [e] log
  rw [List.singleton_append] at h
  unfold submitted
  rw [h, List.count_append]

/-- Every URB that was submitted is with the kernel or came back exactly once. -/
lemma account (v : View) (log : Log)
    (h : ∀ before e after, log = before ++ e :: after → e.1.Touches name →
      before.foldl (View.after name) v ≠ .held) :
    (if v = .held then 1 else 0) + submitted name log = reaped name v log + withdrawn name v log +
        if log.foldl (View.after name) v = .held then 1 else 0 := by
  induction log generalizing v with
  | nil => by_cases hv : v = .held <;> simp [hv, submitted, submissions, reaped, withdrawn]
  | cons e log ih =>
    have hfirst := after_held v e (h [] e log rfl)
    have hrest := ih (View.after name v e) fun before e' after hlog =>
      h (e :: before) e' after (congrArg (e :: ·) hlog)
    rw [submitted_cons, reaped, withdrawn, List.foldl_cons]
    omega

lemma Untouched.account (h : Untouched log) (hheld : view name log ≠ .held) :
    submitted name log = reaped name .idle log + withdrawn name .idle log := by
  have haccount := @Urb.account name .idle log fun before e after hlog =>
    h before e after hlog name
  have hend : ¬ log.foldl (View.after name) .idle = .held := hheld
  rw [if_neg hend, if_neg nofun] at haccount
  omega

lemma Untouched.append {log trace : Log} (h : Untouched log)
    (htrace : ∀ before e after, trace = before ++ e :: after → ∀ name, e.1.Touches name →
      view name (log ++ before) ≠ .held) : Untouched (log ++ trace) := by
  intro before e after heq name htouches
  rcases List.append_eq_append_iff.mp heq with ⟨middle, rfl, hmiddle⟩ | ⟨middle, hmiddle, hrest⟩
  · exact htrace middle e after hmiddle name htouches
  · cases middle with
    | nil =>
      rw [append_nil] at hmiddle
      have h' := htrace [] e after hrest.symm name htouches
      rwa [append_nil, hmiddle] at h'
    | cons x middle =>
      cases hrest
      exact h before e middle hmiddle name htouches

end Account

section Sequences

variable {fresh : Prop} {t0 t : Transport} {call : Call}

lemma Untouched.nil : Untouched [] := by
  intro before e after h
  simp at h

/-- What a call adds, stopped anywhere, touches no URB that the kernel holds. -/
lemma Untouched.steps (h : Untouched log) (howned : Owned t log) (hallowed : call.Allowed t log)
    {p : UrbProg (Status × Transport)}
    (hsteps : Prog.Steps (free UrbOp UrbOp.Answer) (call.run t) log p log') : Untouched log' := by
  obtain ⟨trace, rfl, hsafe⟩ := hsteps.free_safe (wp_call howned hallowed)
  exact h.append fun before e after htrace => (hsafe before e after htrace).2

lemma Calls.owned (h : Calls fresh t0 log0 t log) (howned : Owned t0 log0)
    (huntouched : Untouched log0) : Owned t log ∧ Untouched log := by
  induction h with
  | refl => exact ⟨howned, huntouched⟩
  | call call _ hallowed _ hsteps ih =>
    have hended := hsteps.post_of_wp (wp_call ih.1 hallowed)
    exact ⟨hended.owned, ih.2.steps ih.1 hallowed hsteps⟩

/-- A transport that takes no transfers submits nothing until it is initialised. -/
lemma Calls.barren (h : Calls False t0 log0 t log) (howned : Owned t0 log0)
    (hbarren : Barren t0) : Owned t log ∧ Barren t ∧ submissions log = submissions log0 := by
  induction h with
  | refl => exact ⟨howned, hbarren, rfl⟩
  | call call _ hallowed hfresh hsteps ih =>
    obtain ⟨ihowned, ihbarren, ihsubmissions⟩ := ih
    have hended := hsteps.post_of_wp (wp_call ihowned hallowed)
    obtain ⟨hb, hsubmissions⟩ := hended.barren hfresh ihbarren
    exact ⟨hended.owned, hb, hsubmissions.trans ihsubmissions⟩

lemma Owned.poisoned (h : Owned t log) (hheld : view name log = .held) : t.state = .poisoned := by
  rcases h with ⟨-, hagrees, hsettled⟩ | ⟨-, hquiet⟩
  · refine hsettled name ?_
    by_contra hidle
    exact hagrees.not_held (Bool.eq_false_iff.mpr hidle) hheld
  · exact (hquiet name hheld).elim

/-- Whatever the kernel answers to a sequence of calls, and wherever it is stopped: the memory of
a URB is touched only after each of its submissions came back exactly once; a URB that is left
with the kernel poisons the transport, which then submits nothing; the URBs of a transfer are
submitted in their order, the receiving one first; and a transfer is reported as done when each
of its URBs was reaped with status zero and its full length. -/
theorem urbs_come_back (hcalls : Calls True .zeroed [] t log) (hallowed : call.Allowed t log)
    {p : UrbProg (Status × Transport)}
    (hsteps : Prog.Steps (Prog.free UrbOp UrbOp.Answer) (call.run t) log p log') :
    (∀ before e after, log' = before ++ e :: after → ∀ name, e.1.Touches name →
        view name before ≠ .held ∧
          submitted name before = reaped name .idle before + withdrawn name .idle before) ∧
      (∀ name, view name log = .held → t.state = .poisoned ∧
        ∀ t' log', Calls False t log t' log' → submissions log' = submissions log) ∧
      (∃ sent, submissions log' = submissions log ++ sent ∧ Ordered call.expected sent) ∧
      ∀ t', p = .ret (.ok, t') → ∀ name ∈ call.expected, ∃ trace, log' = log ++ trace ∧
        Completed name 0 transferSize trace := by
  have hstart : Owned .zeroed [] := Or.inl ⟨rfl, agrees_zeroed fun _ => rfl, settled_zeroed⟩
  obtain ⟨howned, huntouched⟩ := hcalls.owned hstart .nil
  have huntouched' := huntouched.steps howned hallowed hsteps
  have hcall := wp_call howned hallowed
  refine ⟨fun before e after hlog name htouches => ?_, fun name hheld => ?_, ?_, ?_⟩
  · have hheld := huntouched' before e after hlog name htouches
    have hbefore : Untouched before := by
      intro before' e' after' hbefore
      refine huntouched' before' e' (after' ++ e :: after) ?_
      rw [hlog, hbefore, List.append_assoc]
      rfl
    exact ⟨hheld, hbefore.account hheld⟩
  · have hpoisoned := howned.poisoned hheld
    exact ⟨hpoisoned, fun t' log' h => (h.barren howned (.inl hpoisoned)).2.2⟩
  · cases p with
    | ret r => exact (hsteps.post_of_wp hcall).ordered
    | ask op next => exact (hsteps.safe_of_wp hcall).1
  · rintro t' rfl
    exact (hsteps.post_of_wp hcall).completed rfl

end Sequences

/-- A kernel that grants everything and gives back this URB. -/
def granting (name : SlotName) : (op : UrbOp) → op.Answer
  | .allocate _ => true
  | .claimInterface | .releaseInterface | .submit _ | .discard _ | .waitReady _ => .ok
  | .reap => ⟨.ok, some name, 0, transferSize, []⟩
  | .monotonicMs => some 0
  | .clear _ | .fill _ | .release _ | .close => ()

/-- The kernel has no URB to give back. -/
def nothingToReap : (op : UrbOp) → op.Answer
  | .reap => ⟨.again, none, 0, 0, []⟩
  | op => granting .input op

/-- A transport and its log once it was initialised. -/
def initialized : Prog UrbOp UrbOp.Answer (Status × Transport) × Log :=
  Prog.advance (free UrbOp UrbOp.Answer) (List.replicate 5 (granting .input))
    (Call.initializeTransport.run .zeroed) []

def readyTransport : Transport := ⟨.fresh, .fresh, .ready, true⟩

/-- An exchange in which the kernel gives back the request first and the reply later. -/
def exchanged : Prog UrbOp UrbOp.Answer (Status × Transport) × Log :=
  Prog.advance (free UrbOp UrbOp.Answer)
    (List.replicate 8 (granting .input) ++ [granting .output, nothingToReap] ++
      List.replicate 3 (granting .input) ++ nothingToReap :: List.replicate 2 (granting .input))
    ((Call.exchange (some Slot.fresh.buffer) (some transferSize) 100).run readyTransport)
    initialized.2

theorem urbs_come_back_exchanged :
    exchanged.1 = .ret (.ok, readyTransport) ∧
      submissions exchanged.2 = [(.input, .ok), (.output, .ok)] ∧
      ∀ name, ∃ trace, exchanged.2 = initialized.2 ++ trace ∧
        Completed name 0 transferSize trace := by
  have hready : initialized.1 = .ret (.ok, readyTransport) := rfl
  have hinit : Calls True .zeroed [] readyTransport initialized.2 := by
    refine .call .initializeTransport .refl ?_ (fun _ => trivial)
      (hready ▸ Prog.advance_steps _ _ _)
    intro name
    cases name <;> rfl
  have hvalid : ¬ (Slot.fresh.buffer.length ≠ transferSize ∨ some transferSize ≠ some transferSize ∨
      100 = 0 ∨ 100 > maxTimeoutMs) := by simp [Slot.fresh, maxTimeoutMs]
  have hrun : exchanged.1 = .ret (.ok, readyTransport) ∧
      submissions exchanged.2 = [(.input, .ok), (.output, .ok)] := by
    dsimp only [exchanged, Call.run, exchange]
    rw [if_neg hvalid]
    exact ⟨rfl, rfl⟩
  have hallowed : (Call.exchange (some Slot.fresh.buffer) (some transferSize) 100).Allowed
      readyTransport initialized.2 := rfl
  refine ⟨hrun.1, hrun.2, fun name => ?_⟩
  exact (urbs_come_back hinit hallowed (Prog.advance_steps _ _ _)).2.2.2 readyTransport hrun.1
    name (by cases name <;> decide)

end T1Bridge.Sep.Urb
