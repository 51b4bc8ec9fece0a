import T1Bridge.Sep.Dialogue

/-! # Runs of a session

Every function of a session gets one lemma that says how it can end: it returns, or it fails and
the session is poisoned, or it was refused and nothing happened.  The tokens that went out stay
below the next one of the relay (`Fresh`). -/

namespace T1Bridge.Sep.Session

open Prog (Proc free)
open Relay (bufferSize identityOf matchesPending parse)
open Prog.Proc (wp wp_bind wp_get wp_modify wp_mono wp_pure wp_set wp_throw wp_zoom)

/-- The tokens on the wire grow. -/
def Growing (log : SepLog) : Prop := (tokens log).Pairwise (· < ·)

/-- Tokens only grow, wherever a session stops. -/
def Guard (log : SepLog) (_ : SepOp) : Prop := Growing log

/-- The tokens of the log grow, and the next one is larger. -/
structure Fresh (s : State) (log : SepLog) : Prop where
  sorted : Growing log
  below : ∀ n ∈ tokens log, n < s.relay.bound

/-- The transfer carries the newest token and is still to be sent. -/
structure Due (s : State) (output : Packet) (log : SepLog) : Prop where
  sorted : Growing log
  newest : ∀ n ∈ tokens log, n < tokenOf output
  below : tokenOf output < s.relay.bound

/-- Failures of the transport or of the protocol. -/
def Failure.Grave : Failure → Prop
  | clock | transport | timeout | protocol | skipLimit => True
  | _ => False

/-- Nothing failed on the way. -/
def Clean (log log' : SepLog) : Prop := ∃ trace, log' = log ++ trace ∧ ∀ e ∈ trace, ¬ Fails e

/-- The session is poisoned. -/
structure Spoiled (_ : Failure) (s' : State) (log' : SepLog) : Prop where
  poisoned : s'.phase = .poisoned
  fresh : Fresh s' log'

variable {s s' : State} {log log0 log' : SepLog} {α : Type}
  {output : Packet} {op : SepOp} {x : op.Answer}

lemma Clean.refl (log : SepLog) : Clean log log := ⟨[], (List.append_nil _).symm, nofun⟩

lemma Clean.snoc (h : Clean log0 log) {e : SepEvent} (he : ¬ Fails e) :
    Clean log0 (log ++ [e]) := by
  obtain ⟨trace, rfl, htrace⟩ := h
  exact ⟨trace ++ [e], List.append_assoc _ _ _,
    List.forall_mem_append.mpr ⟨htrace, List.forall_mem_singleton.mpr he⟩⟩

lemma Fresh.quiet (h : Fresh s log) (hop : op.sends = none) : Fresh s (log ++ [⟨op, x⟩]) := by
  refine ⟨?_, ?_⟩
  · unfold Growing
    rw [tokens_quiet hop]
    exact h.sorted
  · rw [tokens_quiet hop]
    exact h.below

lemma Fresh.congr (h : Fresh s log) (hrelay : s'.relay = s.relay) : Fresh s' log := by
  refine ⟨h.sorted, ?_⟩
  rw [hrelay]
  exact h.below

lemma Due.fresh (h : Due s output log) : Fresh s log :=
  ⟨h.sorted, fun n hn => (h.newest n hn).trans h.below⟩

lemma Due.quiet (h : Due s output log) (hop : op.sends = none) :
    Due s output (log ++ [⟨op, x⟩]) := by
  refine ⟨?_, ?_, h.below⟩
  · unfold Growing
    rw [tokens_quiet hop]
    exact h.sorted
  · rw [tokens_quiet hop]
    exact h.newest

lemma Due.sent (h : Due s output log) (hop : op.sends = some output) :
    Fresh s (log ++ [⟨op, x⟩]) := by
  refine ⟨?_, ?_⟩
  · unfold Growing
    rw [tokens_sends hop]
    refine List.pairwise_append.mpr ⟨h.sorted, List.pairwise_singleton _ _, ?_⟩
    intro n hn n' hn'
    cases List.mem_singleton.mp hn'
    exact h.newest n hn
  · rw [tokens_sends hop]
    exact List.forall_mem_append.mpr ⟨fun n hn => (h.newest n hn).trans h.below,
      List.forall_mem_singleton.mpr h.below⟩

/-- Time passed and nothing was transferred. -/
structure Timed (s : State) (log0 log log' : SepLog) : Prop where
  clean : Clean log0 log'
  fresh : Fresh s log'
  outputs_eq : outputs log' = outputs log
  inputs_eq : inputs log' = inputs log
  transfers_eq : transfers log' = transfers log
  dialogue_eq : dialogue log' = dialogue log

lemma transfers_clock (log : SepLog) (now : Option ℕ) :
    transfers (log ++ [⟨.monotonicMs, now⟩]) = transfers log := by
  rw [transfers_append]
  exact List.append_nil _

lemma timed_clock (h : Fresh s log) (hclean : Clean log0 log) (now : ℕ) :
    Timed s log0 log (log ++ [⟨.monotonicMs, some now⟩]) where
  clean := hclean.snoc nofun
  fresh := h.quiet rfl
  outputs_eq := by simp [outputs, SepOp.sends]
  inputs_eq := by simp [inputs, received]
  transfers_eq := transfers_clock _ _
  dialogue_eq := dialogue_snoc _ _

/-- A transport that may answer anything. -/
abbrev transport := free SepOp SepOp.Answer

/-! ### Requests and failures -/

variable {safe : SepLog → SepOp → Prop} {Q : α → State → SepLog → Prop}
  {R : Failure → State → SepLog → Prop} {e : Failure} {timeoutMs : ℕ} {input : Packet}
  {m : Relay.Message} {skipped : List Packet} {pending : Relay.Pending} {link : Link}
  {command : Acm.Command}

lemma wp_request {f : op.Answer → SessionProc α} (hsafe : safe log op)
    (h : ∀ x, wp transport safe (f x) Q R s (log ++ [⟨op, x⟩])) :
    wp transport safe (request op >>= f) Q R s log :=
  Proc.wp_lift (Prog.wp_free hsafe h)

/-- What a poisoned session means for the call is for the caller to say. -/
lemma wp_poison (h : Fresh s log) (hR : ∀ s', Spoiled e s' log → R e s' log) :
    wp transport safe (poison e : SessionProc α) Q R s log :=
  wp_modify (wp_throw (hR _ ⟨rfl, h.congr rfl⟩))

lemma wp_transportFailure (status : Urb.Status) (h : Fresh s log)
    (hR : ∀ e s', Spoiled e s' log → R e s' log) :
    wp transport safe (transportFailure status : SessionProc α) Q R s log := by
  unfold transportFailure
  split
  · exact wp_poison h (hR _)
  · exact wp_poison h (hR _)

lemma wp_clock {deadline : ℕ} {next : ℕ → SessionProc α} (h : Fresh s log)
    (hlost : ∀ e s' now, Spoiled e s' (log ++ [⟨.monotonicMs, now⟩]) →
      R e s' (log ++ [⟨.monotonicMs, now⟩]))
    (hnext : ∀ now, wp transport Guard (next now) Q R s (log ++ [⟨.monotonicMs, some now⟩])) :
    wp transport Guard (do
      match ← request .monotonicMs with
      | none => poison .clock
      | some now => if now ≥ deadline then poison .timeout else next now) Q R s log := by
  refine wp_request h.sorted fun now => ?_
  have h' := @Fresh.quiet s log .monotonicMs now h rfl
  cases now with
  | none => exact wp_poison h' fun _ => hlost _ _ _
  | some now =>
    dsimp only
    split
    · exact wp_poison h' fun _ => hlost _ _ _
    · exact hnext now

lemma wp_remainingTimeout (deadline : ℕ) (h : Fresh s log) :
    wp transport Guard (remainingTimeout deadline)
      (fun _ s' log' => s' = s ∧ ∃ now, log' = log ++ [⟨.monotonicMs, some now⟩])
      (fun e s' log' => Spoiled e s' log' ∧ ∃ now, log' = log ++ [⟨.monotonicMs, now⟩]) s log :=
  wp_clock h (fun _ _ now hspoiled => ⟨hspoiled, now, rfl⟩) fun now => wp_pure ⟨rfl, now, rfl⟩

/-! ### Transfers -/

lemma wp_exchangeTransfer (deadline : ℕ) (h : Due s output log) (hclean : Clean log0 log) :
    wp transport Guard (exchangeTransfer output deadline)
      (fun input s' log' => s' = s ∧ Fresh s log' ∧ ∃ log1 timeoutMs, Timed s log0 log log1 ∧
        log' = log1 ++ [⟨.exchange output timeoutMs, (.ok, input)⟩]) Spoiled s log := by
  refine wp_bind (wp_mono ?_ (fun _ _ _ => And.left) (wp_remainingTimeout deadline h.fresh))
  rintro remaining s' log' ⟨rfl, now, rfl⟩
  have h1 := @Due.quiet s' log output .monotonicMs (some now) h rfl
  refine wp_request h1.sorted ?_
  rintro ⟨status, input⟩
  dsimp only
  split
  · next hok =>
    rw [hok]
    exact wp_pure ⟨rfl, h1.sent rfl, _, remaining, timed_clock h.fresh hclean now, rfl⟩
  · exact wp_transportFailure status (h1.sent rfl) fun _ _ => id

lemma wp_sendTransfer (deadline : ℕ) (h : Due s output log) (hclean : Clean log0 log) :
    wp transport Guard (sendTransfer output deadline)
      (fun _ s' log' => s' = s ∧ Fresh s log' ∧ Clean log0 log' ∧
        outputs log' = outputs log ++ [output] ∧ inputs log' = inputs log ∧
        dialogue log' = dialogue log)
      (fun e s' log' => Spoiled e s' log' ∧ inputs log' = inputs log ∧
        dialogue log' = dialogue log) s log := by
  refine wp_bind (wp_mono ?_ ?_ (wp_remainingTimeout deadline h.fresh))
  swap
  · rintro e s' log' ⟨hspoiled, now, rfl⟩
    exact ⟨hspoiled, by simp [inputs, received], dialogue_snoc _ _⟩
  rintro remaining s' log' ⟨rfl, now, rfl⟩
  have h1 := @Due.quiet s' log output .monotonicMs (some now) h rfl
  have hclean1 := (timed_clock h.fresh hclean now).clean
  refine wp_request h1.sorted fun status => ?_
  have hinputs : inputs (log ++ [⟨.monotonicMs, some now⟩] ++
      [⟨.sendOnly output remaining, status⟩]) = inputs log := by simp [inputs, received]
  have hdialogue : dialogue (log ++ [⟨.monotonicMs, some now⟩] ++
      [⟨.sendOnly output remaining, status⟩]) = dialogue log := by
    rw [dialogue_snoc, dialogue_snoc]
    rfl
  split
  · next hok =>
    rw [hok] at hinputs hdialogue ⊢
    refine wp_pure ⟨rfl, h1.sent rfl, hclean1.snoc (fun hfails => hfails rfl), ?_, hinputs, hdialogue⟩
    simp [outputs, SepOp.sends]
  · exact wp_transportFailure status (h1.sent rfl)
      fun _ _ hspoiled => ⟨hspoiled, hinputs, hdialogue⟩

lemma wp_receiveTransfer (deadline : ℕ) (h : Fresh s log) (hclean : Clean log0 log) :
    wp transport Guard (receiveTransfer deadline)
      (fun input s' log' => s' = s ∧ Fresh s log' ∧ ∃ log1 timeoutMs, Timed s log0 log log1 ∧
        log' = log1 ++ [⟨.receiveOnly timeoutMs, (.ok, input)⟩]) Spoiled s log := by
  refine wp_bind (wp_mono ?_ (fun _ _ _ => And.left) (wp_remainingTimeout deadline h))
  rintro remaining s' log' ⟨rfl, now, rfl⟩
  have htimed := timed_clock h hclean now
  refine wp_request htimed.fresh.sorted ?_
  rintro ⟨status, input⟩
  dsimp only
  split
  · next hok =>
    rw [hok]
    exact wp_pure ⟨rfl, htimed.fresh.quiet rfl, _, remaining, htimed, rfl⟩
  · exact wp_transportFailure status (htimed.fresh.quiet rfl) fun _ _ => id

/-! ### Waiting for a reply -/

/-- A transfer came in after the request, and it was not looked at yet. -/
structure Heard (log0 : SepLog) (output : Packet) (skipped : List Packet) (input : Packet)
    (log : SepLog) : Prop where
  clean : (∃ m, parse input bufferSize = .ok m) → Clean log0 log
  dialogue_eq : dialogue log = (⟨some output, answered log0⟩ : Dialogue).receive input
  outputs_eq : outputs log = outputs log0 ++ [output]
  inputs_eq : inputs log = inputs log0 ++ (skipped ++ [input])
  unrelated : ∀ packet ∈ skipped, ¬ Relay.Answers output packet

/-- The reply to the request came in. -/
structure Answered (log0 : SepLog) (output input : Packet) (m : Relay.Message) (log : SepLog) :
    Prop where
  clean : Clean log0 log
  dialogue_eq : dialogue log = ⟨none, answered log0 ++ [(output, input)]⟩
  outputs_eq : outputs log = outputs log0 ++ [output]
  inputs_eq : ∃ skipped, skipped.length ≤ 3 ∧ inputs log = inputs log0 ++ (skipped ++ [input]) ∧
    ∀ packet ∈ skipped, ¬ Relay.Answers output packet
  parse_eq : parse input bufferSize = .ok m
  match_eq : matchesPending m (identityOf output) = .ok ()

lemma not_fails_of_parse (h : parse input bufferSize = .ok m) :
    ¬ (Urb.Status.ok ≠ .ok ∨ ∃ e, parse input bufferSize = .error e) := by
  rintro (hstatus | ⟨e, he⟩)
  · exact hstatus rfl
  · cases h.symm.trans he

lemma Heard.reply (h : Heard log0 output skipped input log) (hskipped : skipped.length ≤ 3)
    (hparse : parse input bufferSize = .ok m)
    (hmatch : matchesPending m (identityOf output) = .ok ()) :
    Answered log0 output input m log where
  clean := h.clean ⟨m, hparse⟩
  dialogue_eq := by
    rw [h.dialogue_eq]
    exact if_pos ⟨m, hparse, hmatch⟩
  outputs_eq := h.outputs_eq
  inputs_eq := ⟨skipped, hskipped, h.inputs_eq, h.unrelated⟩
  parse_eq := hparse
  match_eq := hmatch

/-- One more transfer comes in after one that is no reply. -/
lemma Heard.next {input' : Packet} {log1 : SepLog}
    (h : Heard log0 output skipped input log) (hnot : ¬ Relay.Answers output input)
    (htimed : Timed s log0 log log1) :
    Heard log0 output (skipped ++ [input]) input'
      (log1 ++ [⟨.receiveOnly timeoutMs, (.ok, input')⟩]) := by
  refine ⟨?_, ?_, ?_, ?_, ?_⟩
  · rintro ⟨m, hparse⟩
    exact htimed.clean.snoc (not_fails_of_parse hparse)
  · have hawaits : dialogue log = ⟨some output, answered log0⟩ := by
      rw [h.dialogue_eq]
      exact if_neg hnot
    rw [dialogue_snoc, htimed.dialogue_eq, hawaits]
    rfl
  · rw [outputs_append, htimed.outputs_eq, h.outputs_eq]
    exact List.append_nil _
  · rw [inputs_append, htimed.inputs_eq, h.inputs_eq]
    simp [inputs, received]
  · exact List.forall_mem_append.mpr ⟨h.unrelated, List.forall_mem_singleton.mpr hnot⟩

lemma wp_awaitReply (deadline attempts : ℕ) {waiter : Relay.Waiter}
    (hpending : waiter.pending = identityOf output)
    (hskipped : waiter.skipped = skipped.length) (hbound : skipped.length ≤ 3)
    (hlimit : waiter.skipLimit = Relay.defaultSkipLimit) (h : Fresh s log)
    (hheard : Heard log0 output skipped input log) :
    wp transport Guard (awaitReply deadline attempts waiter input)
      (fun m s' log' => s' = s ∧ Fresh s log' ∧ ∃ input', Answered log0 output input' m log')
      Spoiled s log := by
  -- on the attempts; each transfer that is no reply is one more that was skipped
  induction attempts generalizing waiter skipped input log with
  | zero => exact wp_poison h fun _ => id
  | succ attempts ih =>
    unfold awaitReply
    split
    · next m hconsume =>
      obtain ⟨hparse, hmatch⟩ := Relay.waiterConsume_matched hconsume
      rw [hpending] at hmatch
      exact wp_pure ⟨rfl, h, input, hheard.reply hbound hparse hmatch⟩
    · next classification waiter' hconsume =>
      obtain ⟨⟨m, hparse, hmatch⟩, hlt, rfl⟩ := Relay.waiterConsume_skipped hconsume
      rw [hpending] at hmatch
      have hnot : ¬ Relay.Answers output input := by
        rintro ⟨m', hparse', hmatch'⟩
        rw [hparse] at hparse'
        cases hparse'
        exact hmatch hmatch'
      have hclean := hheard.clean ⟨m, hparse⟩
      refine wp_bind (wp_mono ?_ (fun _ _ _ => id) (wp_receiveTransfer deadline h hclean))
      rintro input' s' log' ⟨rfl, h', log1, timeoutMs, htimed, rfl⟩
      have hlength : (skipped ++ [input]).length = skipped.length + 1 := List.length_append
      rw [hlimit, hskipped] at hlt
      refine ih hpending ?_ ?_ hlimit h' (hheard.next hnot htimed)
      · rw [hlength, ← hskipped]
      · rw [hlength]
        exact Nat.le_of_lt_succ hlt
    · exact wp_poison h fun _ => id
    · exact wp_poison h fun _ => id

lemma wp_waitForReply (deadline : ℕ) (h : Due s output log) (hclean : Clean log0 log)
    (hbase : answered log = answered log0) (houtputs : outputs log = outputs log0)
    (hinputs : inputs log = inputs log0) :
    wp transport Guard (waitForReply output (identityOf output) deadline)
      (fun m s' log' => s' = s ∧ Fresh s log' ∧ ∃ input', Answered log0 output input' m log')
      Spoiled s log := by
  unfold waitForReply
  split
  · exact wp_poison h.fresh fun _ => id
  next waiter hwaiter =>
  unfold Relay.waiterInit at hwaiter
  split at hwaiter
  · cases hwaiter
  cases hwaiter
  refine wp_bind (wp_mono ?_ (fun _ _ _ => id) (wp_exchangeTransfer deadline h hclean))
  rintro input s' log' ⟨rfl, h', log1, timeoutMs, htimed, rfl⟩
  have hbound : ([] : List Packet).length ≤ 3 := Nat.zero_le _
  refine wp_awaitReply deadline _ rfl rfl hbound rfl h' ⟨?_, ?_, ?_, ?_, nofun⟩
  · rintro ⟨m, hparse⟩
    exact htimed.clean.snoc (not_fails_of_parse hparse)
  · rw [dialogue_snoc, htimed.dialogue_eq, ← hbase]
    rfl
  · rw [outputs_append, htimed.outputs_eq, houtputs]
    rfl
  · rw [inputs_append, htimed.inputs_eq, hinputs]
    rfl

/-! ### Calls -/

/-- The call was refused and nothing was transferred. -/
structure Refused (s : State) (log : SepLog) (e : Failure) (s' : State) (log' : SepLog) :
    Prop where
  same : s' = s
  light : ¬ e.Grave
  clean : Clean log log'
  transfers_eq : transfers log' = transfers log
  fresh : Fresh s' log'

/-- How a call can fail. -/
def Lost (s : State) (log : SepLog) (e : Failure) (s' : State) (log' : SepLog) : Prop :=
  Spoiled e s' log' ∨ Refused s log e s' log'

lemma refused_at_once (he : ¬ e.Grave) (h : Fresh s log) :
    Lost s log e s log := Or.inr ⟨rfl, he, Clean.refl log, rfl, h⟩

lemma refused_timed (he : ¬ e.Grave) (h : Timed s log log log') : Lost s log e s log' :=
  Or.inr ⟨rfl, he, h.clean, h.transfers_eq, h.fresh⟩

/-- The call failed before anything was sent. -/
def Early (s : State) (log : SepLog) (e : Failure) (s' : State) (log' : SepLog) : Prop :=
  Lost s log e s' log' ∧ transfers log' = transfers log

lemma early_at_once (he : ¬ e.Grave) (h : Fresh s log) :
    Early s log e s log := ⟨refused_at_once he h, rfl⟩

lemma wp_wrongPhase (h : Fresh s log) : wp transport safe (wrongPhase s.phase : SessionProc α) Q
      (Early s log) s log := by
  unfold wrongPhase
  split
  · exact wp_throw (early_at_once id h)
  · exact wp_throw (early_at_once id h)

lemma wp_beginDeadline (timeoutMs : ℕ) (h : Fresh s log) :
    wp transport Guard (beginDeadline timeoutMs)
      (fun _ s' log' => s' = s ∧ ∃ now, log' = log ++ [⟨.monotonicMs, some now⟩])
      (Early s log) s log := by
  refine wp_get ?_
  split
  · exact wp_throw (early_at_once id h)
  split
  · exact wp_throw (early_at_once id h)
  split
  · exact wp_throw (early_at_once id h)
  refine wp_request h.sorted fun now => ?_
  have h' := @Fresh.quiet s log .monotonicMs now h rfl
  have hearly : ∀ (e : Failure) (s' : State), Spoiled e s' (log ++ [⟨.monotonicMs, now⟩]) →
      Early s log e s' (log ++ [⟨.monotonicMs, now⟩]) :=
    fun e s' hspoiled => ⟨.inl hspoiled, transfers_clock _ _⟩
  cases now with
  | none => exact wp_poison h' (hearly _)
  | some now =>
    dsimp only
    split
    · exact wp_poison h' (hearly _)
    split
    · exact wp_pure ⟨rfl, now, rfl⟩
    split
    · exact wp_poison h' (hearly _)
    · exact wp_pure ⟨rfl, now, rfl⟩

lemma wp_setOperationDeadline (deadlineMs : ℕ) (h : Fresh s log) :
    wp transport Guard (setOperationDeadline deadlineMs)
      (fun _ s' log' => s' = { s with operationDeadlineMs := some deadlineMs } ∧
        ∃ now, log' = log ++ [⟨.monotonicMs, some now⟩])
      (Lost s log) s log := by
  refine wp_get ?_
  split
  · exact wp_throw (refused_at_once id h)
  split
  · exact wp_throw (refused_at_once id h)
  split
  · exact wp_throw (refused_at_once id h)
  refine wp_clock h (fun _ _ _ => .inl) fun now => ?_
  split
  · exact wp_throw (refused_timed id (timed_clock h (Clean.refl log) now))
  · exact ⟨rfl, now, rfl⟩

lemma wp_releaseOperationDeadline (h : Fresh s log) : wp transport Guard releaseOperationDeadline
      (fun _ s' log' => s' = { s with operationDeadlineMs := none } ∧
        ∃ now, log' = log ++ [⟨.monotonicMs, some now⟩])
      (Lost s log) s log := by
  refine wp_get ?_
  split
  · exact wp_throw (refused_at_once id h)
  split
  · exact wp_throw (refused_at_once id h)
  split
  · exact wp_throw (refused_at_once id h)
  exact wp_clock h (fun _ _ _ => .inl) fun now => ⟨rfl, now, rfl⟩

lemma Fresh.due {relay : Relay.State} (h : Fresh s log)
    (hspends : Relay.Spends s.relay output pending relay) :
    Due { s with relay := relay } output log := by
  have htoken : tokenOf output = s.relay.bound := by
    unfold tokenOf
    rw [hspends.identity, hspends.token]
  refine ⟨h.sorted, fun n hn => ?_, ?_⟩
  · rw [htoken]
    exact h.below n hn
  · rw [htoken, hspends.bound]
    exact Nat.lt_succ_self _

lemma wp_reserve {build : Relay.State → Except Relay.Error (Packet × Relay.Pending × Relay.State)}
    (h : Fresh s log)
    (hbuild : ∀ {output pending relay}, build s.relay = .ok (output, pending, relay) →
      Relay.Spends s.relay output pending relay) :
    wp transport Guard (reserve build) (fun r s' log' => log' = log ∧ Due s' r.1 log)
      (fun e s' log' => Spoiled e s' log' ∧ log' = log) s log := by
  refine wp_get ?_
  split
  · exact wp_poison h fun _ hspoiled => ⟨hspoiled, rfl⟩
  · next output pending relay heq => exact ⟨rfl, h.due (hbuild heq)⟩

/-! ### Negotiating -/

lemma wp_parseControlReply {accept : Relay.State → Relay.Message → Except Relay.Error Relay.State}
    (haccept : ∀ {m relay}, accept s.relay m = .ok relay → relay.bound = s.relay.bound)
    (h : Fresh s (log ++ [⟨.exchange output timeoutMs, (.ok, input)⟩])) (hclean : Clean log0 log) :
    wp transport Guard (parseControlReply input accept)
      (fun _ s' log' => Fresh s' log' ∧ Clean log0 log') Spoiled s
      (log ++ [⟨.exchange output timeoutMs, (.ok, input)⟩]) := by
  refine wp_get ?_
  split
  · exact wp_poison h fun _ => id
  next m hparse =>
  split
  · exact wp_poison h fun _ => id
  next relay hrelay =>
  refine ⟨⟨h.sorted, fun n hn => ?_⟩, hclean.snoc (not_fails_of_parse hparse)⟩
  rw [haccept hrelay]
  exact h.below n hn

lemma wp_announceEndpoint (deadline : ℕ) (endpoint : UInt32) (h : Fresh s log)
    (hclean : Clean log0 log) : wp transport Guard (announceEndpoint deadline endpoint)
      (fun _ s' log' => Fresh s' log' ∧ Clean log0 log') Spoiled s log := by
  refine wp_bind (wp_mono ?_ (fun _ _ _ => And.left)
    (wp_reserve h Relay.buildEndpointEnable_spends))
  rintro ⟨output, pending⟩ s' log' ⟨rfl, hdue⟩
  refine wp_mono ?_ (fun _ _ _ => And.left) (wp_sendTransfer deadline hdue hclean)
  rintro _ s' log'' ⟨rfl, hfresh, hclean', -⟩
  exact ⟨hfresh, hclean'⟩

lemma wp_negotiate (timeoutMs : ℕ) (h : Fresh s log) : wp transport Guard (negotiate timeoutMs)
      (fun _ s' log' => Fresh s' log' ∧ Clean log log') (Lost s log) s log := by
  have hlost : ∀ (e : Failure) (s' : State) (log' : SepLog),
      Spoiled e s' log' → Lost s log e s' log' := fun _ _ _ => .inl
  refine wp_get ?_
  split
  · exact wp_mono (fun _ _ _ => id) (fun _ _ _ => And.left) (wp_wrongPhase h)
  refine wp_bind (wp_mono ?_ (fun _ _ _ => And.left) (wp_beginDeadline timeoutMs h))
  rintro deadline s' log' ⟨rfl, now, rfl⟩
  have htimed := timed_clock h (Clean.refl log) now
  -- the version
  refine wp_bind (wp_mono ?_ (fun _ _ _ hreserve => .inl hreserve.1)
    (wp_reserve htimed.fresh fun h => Relay.buildControl_spends (Except.of_ite_error_ok h).2))
  rintro ⟨version, pending⟩ s1 log1 ⟨rfl, hdue⟩
  refine wp_bind (wp_mono ?_ hlost (wp_exchangeTransfer deadline hdue htimed.clean))
  rintro versionReply s2 log2 ⟨rfl, h2, log1', timeoutMs1, htimed2, rfl⟩
  refine wp_bind (wp_mono ?_ hlost (wp_parseControlReply Relay.acceptVersion_ok h2 htimed2.clean))
  rintro _ s3 log3 ⟨h3, hclean3⟩
  -- the endpoints
  refine wp_bind (wp_mono ?_ (fun _ _ _ hreserve => .inl hreserve.1)
    (wp_reserve h3 fun h => Relay.buildControl_spends (Except.of_ite_error_ok h).2))
  rintro ⟨status, pending'⟩ s4 log4 ⟨rfl, hdue'⟩
  refine wp_bind (wp_mono ?_ hlost (wp_exchangeTransfer deadline hdue' hclean3))
  rintro statusReply s5 log5 ⟨rfl, h5, log4', timeoutMs4, htimed5, rfl⟩
  refine wp_bind (wp_mono ?_ hlost
    (wp_parseControlReply Relay.acceptEndpointStatus_ok h5 htimed5.clean))
  rintro _ s6 log6 ⟨h6, hclean6⟩
  -- three announcements
  refine wp_bind (wp_mono ?_ hlost (wp_announceEndpoint deadline _ h6 hclean6))
  rintro _ s7 log7 ⟨h7, hclean7⟩
  refine wp_bind (wp_mono ?_ hlost (wp_announceEndpoint deadline _ h7 hclean7))
  rintro _ s8 log8 ⟨h8, hclean8⟩
  refine wp_bind (wp_mono ?_ hlost (wp_announceEndpoint deadline _ h8 hclean8))
  rintro _ s9 log9 ⟨h9, hclean9⟩
  exact ⟨h9.congr rfl, hclean9⟩

/-! ### Exchanges -/

lemma wrapRequest_spends {sha : Keystore.Sha256} {relay relay' : Relay.State}
    {operation : Keystore.Operation} {bytes : Packet}
    (h : Keystore.wrapRequest sha relay operation bytes = .ok (output, pending, relay')) :
    Relay.Spends relay output pending relay' ∧
      pending = ⟨.keystore, relay.nextToken, relay.nextMessageIndex, Relay.keystoreEndpoint,
        operation.selector, operation.transaction⟩ := by
  unfold Keystore.wrapRequest at h
  split at h
  · cases h
  split at h
  · cases h
  obtain ⟨u, -, h⟩ := Except.of_bind_ok h
  split at h
  · next built hbuilt =>
    cases h
    exact Relay.buildKeystoreRequest_spends hbuilt
  · cases h

/-- The request that a keystore exchange sent, and the reply that it parsed. -/
structure KeystoreAnswered (sha : Keystore.Sha256) (operation : Keystore.Operation) (bytes : Packet)
    (log : SepLog) (parsed : Keystore.Parsed) (log' : SepLog) (output input : Packet) : Prop where
  sent : ∃ relay relay', Keystore.wrapRequest sha relay operation bytes =
    .ok (output, identityOf output, relay')
  reply : ∃ m, Answered log output input m log' ∧
    Keystore.parseReply m (identityOf output) operation = .ok parsed

lemma wp_keystoreExchange (sha : Keystore.Sha256) (operation : Keystore.Operation)
    (bytes : Packet) (timeoutMs : ℕ) (h : Fresh s log) :
    wp transport Guard (keystoreExchange sha operation bytes timeoutMs)
      (fun parsed s' log' => Fresh s' log' ∧
        ∃ output input, KeystoreAnswered sha operation bytes log parsed log' output input)
      (Lost s log) s log := by
  refine wp_get ?_
  split
  · exact wp_throw (refused_at_once id h)
  split
  · exact wp_mono (fun _ _ _ => id) (fun _ _ _ => And.left) (wp_wrongPhase h)
  refine wp_bind (wp_mono ?_ (fun _ _ _ => And.left) (wp_beginDeadline timeoutMs h))
  rintro deadline s' log' ⟨rfl, now, rfl⟩
  have htimed := timed_clock h (Clean.refl log) now
  split
  · exact wp_poison htimed.fresh fun _ => .inl
  · exact wp_throw (refused_timed id htimed)
  next output pending relay hwrap =>
  obtain ⟨hspends, -⟩ := wrapRequest_spends hwrap
  refine wp_set (wp_bind ?_)
  rw [← hspends.identity] at hwrap ⊢
  refine wp_mono ?_ (fun _ _ _ => .inl) (wp_waitForReply deadline (htimed.fresh.due hspends)
    htimed.clean (congrArg Dialogue.answered htimed.dialogue_eq) htimed.outputs_eq htimed.inputs_eq)
  rintro m s2 log2 ⟨rfl, h2, input, hanswered⟩
  split
  · next parsed hparsed =>
    exact wp_pure ⟨h2, output, input, ⟨_, _, hwrap⟩, m, hanswered, hparsed⟩
  · exact wp_poison h2 fun _ => .inl

/-- Nothing came for a notification. -/
def Silent (timeoutMs : ℕ) (trace : SepLog) : Prop :=
  ∃ answer, trace = [⟨.receiveOnly timeoutMs, answer⟩] ∧
    (answer.1 = .timedOut ∨ answer.1 = .interrupted)

lemma wp_drainNotification (timeoutMs : ℕ) (h : Fresh s log) :
    wp transport Guard (drainNotification timeoutMs)
      (fun notified s' log' => s' = s ∧ Fresh s log' ∧ ∃ e, log' = log ++ [e] ∧
        (notified = true → ¬ Fails e) ∧ (notified = false → Silent timeoutMs [e]))
      (fun e s' log' => Lost s log e s' log' ∧ ∃ trace, log' = log ++ trace ∧
        ¬ Silent timeoutMs trace) s log := by
  have hnothing : ∃ trace, log = log ++ trace ∧ ¬ Silent timeoutMs trace :=
    ⟨[], by simp, by simp [Silent]⟩
  refine wp_get ?_
  split
  · exact wp_throw ⟨refused_at_once id h, hnothing⟩
  split
  · unfold wrongPhase
    split <;> exact wp_throw ⟨refused_at_once id h, hnothing⟩
  refine wp_request h.sorted fun answer => ?_
  have h1 := @Fresh.quiet s log (.receiveOnly timeoutMs) answer h rfl
  obtain ⟨status, input⟩ := answer
  dsimp only
  split
  · exact wp_pure ⟨rfl, h1, _, rfl, nofun, fun _ => ⟨_, rfl, .inl rfl⟩⟩
  · exact wp_pure ⟨rfl, h1, _, rfl, nofun, fun _ => ⟨_, rfl, .inr rfl⟩⟩
  · split
    · exact wp_poison h1 fun _ h => ⟨.inl h, _, rfl, by simp [Silent]⟩
    next m hparse =>
    split
    · exact wp_pure ⟨rfl, h1, _, rfl, fun _ => not_fails_of_parse hparse, nofun⟩
    · exact wp_poison h1 fun _ h => ⟨.inl h, _, rfl, by simp [Silent]⟩
  next htimedOut hinterrupted _ =>
  exact wp_transportFailure _ h1 fun _ _ h => ⟨.inl h, _, rfl, by
    simpa [Silent] using ⟨htimedOut, hinterrupted⟩⟩

lemma wp_destroy (hsafe : safe log .destroyTransport) : wp transport safe destroy
      (fun _ s' log' => s'.phase = .closed ∧ (log' = log ∧ s.phase = .closed ∨
        log' = log ++ [⟨.destroyTransport, .ok⟩]))
      (fun e s' log' => e = .teardown ∧ s'.phase = .closed ∧
        ∃ status, log' = log ++ [⟨.destroyTransport, status⟩]) s log := by
  refine wp_get ?_
  split
  · next hclosed => exact wp_pure ⟨hclosed, .inl ⟨rfl, hclosed⟩⟩
  refine wp_request hsafe fun status => ?_
  split
  · next hok =>
    rw [hok]
    exact wp_pure ⟨rfl, .inr rfl⟩
  · exact wp_throw ⟨rfl, rfl, status, rfl⟩

/-! ### Commands of the context -/

/-- The reply to a command came in, and it was accepted or refused. -/
structure AcmReplied (link : Link) (command : Acm.Command) (log : SepLog) (accepted : Bool)
    (outcome : Acm.Outcome) (acm : Acm.State) (log' : SepLog) (output input : Packet) : Prop where
  reply : ∃ built relay m, Acm.build link.acm link.session.relay command = .ok (output, built, relay) ∧
    parse input bufferSize = .ok m ∧
    matchesPending m (identityOf output) = .ok () ∧
    Acm.acceptReply built m = (if accepted then .ok else .remoteError, outcome, acm)
  answered_eq : answered log' = answered log ++ [(output, input)]
  inputs_eq : ∃ skipped, skipped.length ≤ 3 ∧ inputs log' = inputs log ++ (skipped ++ [input]) ∧
    ∀ packet ∈ skipped, ¬ Relay.Answers output packet

/-- How a command can fail: nothing was sent, or the state failed, or its reply was taken and
could not be acknowledged. -/
def AcmLost (link : Link) (command : Acm.Command) (log : SepLog) (e : Failure) (link' : Link)
    (log' : SepLog) : Prop :=
  Refused link.session log e link'.session log' ∧ link'.acm = link.acm ∨
    Spoiled e link'.session log' ∧ (link'.acm = link.acm ∧ transfers log' = transfers log ∨
        link'.acm = Acm.failState ∨
        ∃ accepted outcome output input,
          AcmReplied link command log accepted outcome link'.acm log' output input)

/-- How a command succeeds: its reply was taken and acknowledged. -/
structure AcmDone (link : Link) (command : Acm.Command) (log : SepLog) (r : Bool × Acm.Outcome)
    (link' : Link) (log' : SepLog) : Prop where
  fresh : Fresh link'.session log'
  clean : Clean log log'
  replied : ∃ output input acknowledgement,
    AcmReplied link command log r.1 r.2 link'.acm log' output input ∧
      outputs log' = outputs log ++ [output, acknowledgement]

lemma AcmLost.early (h : Early link.session log e s' log') :
    AcmLost link command log e ⟨s', link.acm⟩ log' := by
  obtain ⟨hspoiled | hrefused, htransfers⟩ := h
  · exact .inr ⟨hspoiled, .inl ⟨rfl, htransfers⟩⟩
  · exact .inl ⟨hrefused, rfl⟩

lemma wp_orAmbiguous {p : SessionProc Relay.Message}
    {Q : Relay.Message → Link → SepLog → Prop} {R : Failure → Link → SepLog → Prop}
    (hpending : link.acm.pending.isSome)
    (h : wp transport Guard p (fun m s log => Q m ⟨s, link.acm⟩ log)
      (fun e s log => R e ⟨s, Acm.failState⟩ log) link.session log) :
    wp transport Guard (orAmbiguous p) Q R link log := by
  refine Proc.wp_tryCatch (wp_zoom (wp_mono (fun _ _ _ => id) ?_ h))
  intro e s log hlost
  refine wp_modify (wp_throw ?_)
  have hfailed : Acm.markAmbiguous link.acm = Acm.failState := if_pos hpending
  rw [hfailed]
  exact hlost

lemma wp_acknowledge (deadline : ℕ) {taken : Bool} {outcome : Acm.Outcome} {acm : Acm.State}
    (h : Fresh s log) (hanswered : Answered log0 output input m log)
    (hreplied : ∀ log', dialogue log' = dialogue log → inputs log' = inputs log →
      AcmReplied link command log0 taken outcome acm log' output input) :
    wp transport Guard (do
        let (acknowledgement, _) ← onSession (reserve fun relay =>
          Relay.buildEndpointReady relay Relay.acmEndpoint (identityOf output))
        onSession (sendTransfer acknowledgement deadline)
        pure (taken, outcome) : LinkProc (Bool × Acm.Outcome))
      (AcmDone link command log0) (AcmLost link command log0) ⟨s, acm⟩ log := by
  refine wp_bind (wp_zoom (wp_mono ?_ ?_ (wp_reserve h Relay.buildEndpointReady_spends)))
  swap
  · rintro e s1 log1 ⟨hspoiled, rfl⟩
    exact .inr ⟨hspoiled, .inr (.inr ⟨taken, outcome, output, input, hreplied log1 rfl rfl⟩)⟩
  rintro ⟨acknowledgement, pending⟩ s1 log1 ⟨rfl, hdue⟩
  refine wp_bind (wp_zoom (wp_mono ?_ ?_ (wp_sendTransfer deadline hdue hanswered.clean)))
  swap
  · rintro e s2 log2 ⟨hspoiled, hinputs, hdialogue⟩
    exact .inr ⟨hspoiled, .inr (.inr ⟨taken, outcome, output, input,
      hreplied log2 hdialogue hinputs⟩)⟩
  rintro _ s2 log2 ⟨rfl, h2, hclean2, houtputs, hinputs, hdialogue⟩
  refine wp_pure ⟨h2, hclean2, output, input, acknowledgement, hreplied log2 hdialogue hinputs, ?_⟩
  rw [houtputs, hanswered.outputs_eq, List.append_assoc]
  rfl

lemma wp_acmExchange (command : Acm.Command) (timeoutMs : ℕ) (h : Fresh link.session log) :
    wp transport Guard (acmExchange command timeoutMs)
      (AcmDone link command log) (AcmLost link command log) link log := by
  refine wp_get ?_
  split
  · exact wp_zoom (wp_mono (fun _ _ _ => id) (fun _ _ _ => AcmLost.early) (wp_wrongPhase h))
  refine wp_bind (wp_zoom (wp_mono ?_ (fun _ _ _ => AcmLost.early) (wp_beginDeadline timeoutMs h)))
  rintro deadline s' log' ⟨rfl, now, rfl⟩
  have htimed := timed_clock h (Clean.refl log) now
  have hquiet := htimed.transfers_eq
  split
  · exact wp_zoom (wp_poison htimed.fresh fun _ hspoiled => .inr ⟨hspoiled, .inl ⟨rfl, hquiet⟩⟩)
  · exact wp_throw (AcmLost.early ⟨refused_timed id htimed, hquiet⟩)
  · exact wp_throw (AcmLost.early ⟨refused_timed id htimed, hquiet⟩)
  next output built relay hbuild =>
  obtain ⟨pending, hspends, hbuilt, -⟩ := Acm.build_spends hbuild
  have hidentity := hspends.identity
  refine wp_set ?_
  rw [hbuilt, ← hidentity]
  refine wp_bind (wp_orAmbiguous (by rw [hbuilt]; rfl) ?_)
  refine wp_mono ?_ ?_ (wp_waitForReply deadline (htimed.fresh.due hspends) htimed.clean
    (congrArg Dialogue.answered htimed.dialogue_eq) htimed.outputs_eq htimed.inputs_eq)
  · rintro m s2 log2 ⟨rfl, h2, input, hanswered⟩
    rcases hreply : Acm.acceptReply built m with ⟨accepted, outcome, acm⟩
    refine wp_modify ?_
    have hreplied : ∀ (taken : Bool) (log' : SepLog),
        accepted = (if taken then .ok else .remoteError) → dialogue log' = dialogue log2 →
        inputs log' = inputs log2 →
        AcmReplied link command log taken outcome acm log' output input := by
      intro taken log' htaken hdialogue hinputs
      refine ⟨⟨built, relay, m, hbuild, hanswered.parse_eq, hanswered.match_eq, ?_⟩, ?_, ?_⟩
      · rw [hreply, htaken]
      · unfold answered
        rw [hdialogue, hanswered.dialogue_eq]
        rfl
      · rw [hinputs]
        exact hanswered.inputs_eq
    cases accepted with
    | ok => exact wp_acknowledge deadline h2 hanswered fun _ => hreplied true _ rfl
    | remoteError => exact wp_acknowledge deadline h2 hanswered fun _ => hreplied false _ rfl
    | error e =>
      obtain rfl := Acm.acceptReply_error hbuilt (hidentity ▸ hanswered.match_eq) hreply
      exact wp_zoom (wp_poison h2 fun _ hspoiled => .inr ⟨hspoiled, .inr (.inl rfl)⟩)
  · intro e s2 log2 hspoiled
    exact .inr ⟨hspoiled, .inr (.inl rfl)⟩

end T1Bridge.Sep.Session
