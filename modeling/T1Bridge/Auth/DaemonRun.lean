import T1Bridge.Auth.Daemon

/-! # Invariants of the event loop

`Tied` connects the daemon's active run with the running operation of the service: both are
absent, or the run holds the handle of exactly that operation.  For a standard run it also
says that an unsent reply has its deadline and a connected client.  `Loop` adds that the
service is not poisoned and that every other standard connection has no operation.

What one step of the loop can do is said once, by the relation `Moved`: one constructor for
each way in which a helper ends, with the running operation before and after.  Every helper
makes such a step (`turn_moves`), a step keeps `Loop` unless it stops the daemon with an
error (`Moved.loop`), and the active run stays unless its own worker completed
(`Moved.stays`).  The result is **`loop_state_invariants`**. -/

namespace T1Bridge

open StandardSocketConnection (accept_fresh clientDisconnected_held deadlineExpired_held
  discardReply finishWorker_foreign finishWorker_held flushReply_cases hasPendingReply
  isActiveIn_held receiveAndDispatch_served)

variable {rest : List TimedStandardConnection} {scheduled : ScheduledStandardOperation}
  {running' : ActiveStandardRun} {r : Running} {w : Option Running} {run : ActiveRun}

namespace BrokerServiceScheduler

/-- The service changed, but it still runs the same operation under the same handle. -/
structure Advances (s : BrokerServiceScheduler) (r : Running) (s' : BrokerServiceScheduler)
    (r' : Running) : Prop where
  represents : s'.Represents (some r')
  holds : ∀ {token : OperationToken} {event slot : Ref} {lease : WorkerLease} {identity : Ref},
    s.Holds r token event slot lease identity → s'.Holds r' token event slot lease identity
  poisoned : s'.workers.poisoned = s.workers.poisoned

variable {s : BrokerServiceScheduler}

variable (h : s.Represents (some r))

include h

lemma Advances.refl : s.Advances r s r := ⟨h, id, rfl⟩

lemma Advances.mark : s.Advances r (s.mark r.session.event)
      { r with session := { r.session with cancelled := true } } :=
  ⟨h.mark, id, rfl⟩

lemma Advances.shut :
    s.Advances r s.shut { r with session := { r.session with accepting := false } } :=
  ⟨h.shut, id, rfl⟩

lemma Advances.expire : s.Advances r (s.expire r) { r with cancellationSent := true } :=
  ⟨h.expire, id, rfl⟩

end BrokerServiceScheduler

/-- The running operation after a cancellation was delivered to it, or refused because its
worker had closed the registration. -/
def Running.delivered (r : Running) : Running :=
  if r.session.accepting then { r with session := { r.session with cancelled := true } } else r

lemma BrokerServiceScheduler.Advances.delivered {s : BrokerServiceScheduler}
    (h : s.Represents (some r)) : s.Advances r (s.delivered r).2 r.delivered := by
  unfold BrokerServiceScheduler.delivered Running.delivered
  cases r.session.accepting with
  | true => exact .mark h
  | false => exact .refl h

/-- The run after its client was found to be gone. -/
def ActiveRun.disconnected : ActiveRun → ActiveRun
  | .direct running => .direct { running with disconnectObserved := true }
  | .standard running => .standard { running with
      connection := running.connection.discardReply
      replyDeadline := none
      disconnectObserved := true }

lemma ActiveRun.disconnected_client (run : ActiveRun) : run.disconnected.client = run.client := by
  cases run <;> rfl

/-- The poll of its thread delivers the run's own completion. -/
def ActiveRun.Completes (o : Daemon.Observation) : ActiveRun → Prop
  | .direct running => ∃ completion, o.worker.poll = .completed completion ∧
      completion.belongsTo running.session.scheduled.authentication = true
  | .standard running => ∃ completion scheduled,
      o.standardWorker.poll = .completed completion ∧
      running.connection.connection.active = some scheduled ∧
      completion.belongsTo scheduled.operation = true

namespace Daemon

variable {effects : List Effect} {s : State} {o : Observation}

/-! ### The active run and the running operation -/

/-- The active run and the service's running operation are one. -/
inductive Tied (service : BrokerServiceScheduler) : Option ActiveRun → Option Running → Prop
  | free (h : service.Represents none) : Tied service none none
  | direct (running : ActiveDirectRun) (r : Running) (h : service.Represents (some r))
      (hh : service.HoldsAuthentication r running.session.scheduled) :
      Tied service (some (.direct running)) (some r)
  | standard (running : ActiveStandardRun) (scheduled : ScheduledStandardOperation)
      (r : Running) (h : service.Represents (some r))
      (hactive : running.connection.connection.active = some scheduled)
      (hh : service.HoldsStandard r scheduled)
      (hjob : running.job = ⟨scheduled.operation, scheduled.deadline⟩)
      (hreply : running.connection.hasPendingReply = true →
        running.replyDeadline.isSome = true ∧ running.disconnectObserved = false) :
      Tied service (some (.standard running)) (some r)

section Tied

variable {service service' : BrokerServiceScheduler} {active : Option ActiveRun} {r' : Running}

lemma Tied.represents (ht : Tied service active w) : service.Represents w := by
  cases ht with
  | free h | direct _ _ h | standard _ _ _ h => exact h

lemma Tied.isSome_eq (ht : Tied service active w) : active.isSome = w.isSome := by
  cases ht <;> rfl

lemma Tied.active_of_none (ht : Tied service active none) : active = none := by
  cases ht
  rfl

/-- Daemon and scheduler slots are occupied together. -/
lemma Tied.slots (ht : Tied service active w) : active.isSome = service.workers.active.isSome := by
  rw [ht.represents.2, ht.isSome_eq]
  cases w <;> rfl

/-- The tie survives whatever keeps the running operation. -/
lemma Tied.advance (ht : Tied service active (some r)) (ha : service.Advances r service' r') :
    Tied service' active (some r') := by
  cases ht with
  | direct running _ _ hh => exact .direct running r' ha.represents (ha.holds hh)
  | standard running scheduled _ _ hactive hh hjob hreply =>
    exact .standard running scheduled r' ha.represents hactive (ha.holds hh) hjob hreply

lemma Tied.deadlineExpired (ht : Tied service (some run) (some r)) :
    run.deadlineExpired service = service.delivered r := by
  cases ht with
  | direct running _ h hh => exact BrokerServiceScheduler.deadlineExpired_held h hh
  | standard running scheduled _ h hactive hh =>
    exact deadlineExpired_held hactive h hh

lemma Tied.isActiveIn (ht : Tied service (some run) (some r)) : run.isActiveIn service = true := by
  cases ht with
  | direct running _ h hh => exact hh.owns h
  | standard running scheduled _ h hactive hh =>
    exact isActiveIn_held hactive h hh

lemma Tied.advances (ht : Tied service active (some r)) :
    service.Advances r (service.delivered r).2 r.delivered := .delivered ht.represents

lemma Tied.delivered (ht : Tied service active (some r)) :
    Tied (service.delivered r).2 active (some r.delivered) := ht.advance ht.advances

/-- The worker's own close shuts delivery or finds it shut. -/
lemma Tied.closeCancellation (ht : Tied service (some run) (some r)) :
    ∃ r', service.Advances r (run.closeCancellation service) r' := by
  have hclose : ∀ {token : OperationToken} {event slot : Ref},
      service.coordinator.Names r.session token event slot →
      ∃ r', service.Advances r (service.closeCancellation token event slot).2 r' := by
    intro token event slot hn
    rw [BrokerServiceScheduler.closeCancellation_held ht.represents hn]
    cases r.session.accepting with
    | true => exact ⟨_, .shut ht.represents⟩
    | false => exact ⟨_, .refl ht.represents⟩
  cases ht with
  | direct running _ h hh => exact hclose hh.1
  | standard running scheduled _ h hactive hh hjob =>
    simp only [ActiveRun.closeCancellation, hjob]
    exact hclose hh.1

end Tied

/-! ### The loop invariant -/

/-- A standard connection that no worker runs for: its request has a deadline only until a
reply is queued. -/
structure Idle (timed : TimedStandardConnection) : Prop where
  free : timed.connection.connection.active = none
  answered : timed.connection.hasPendingReply = true → timed.requestDeadline = none

/-- What holds between any two steps of the loop.  The lists that a helper rebuilds are
empty outside that helper. -/
structure Loop (s : State) (w : Option Running) : Prop where
  sound : s.service.workers.poisoned = false
  tied : Tied s.service s.active w
  idle : ∀ timed ∈ s.standardConnections, Idle timed
  pending : ∀ timed ∈ s.standardPending, Idle timed
  rebuilt : s.phase ≠ .processStandard → s.phase ≠ .flushStandard → s.standardPending = []
  flushed : s.phase ≠ .flush → s.repliesPending = []

lemma Loop.running (h : Loop s w)
    (hactive : s.active = some run) : ∃ r, w = some r ∧ Tied s.service (some run) (some r) := by
  have ht := h.tied
  rw [hactive] at ht
  cases w with
  | none => cases ht
  | some r => exact ⟨r, rfl, ht⟩

/-- The loop has returned an error. -/
def State.Failed (s : State) : Prop := ∃ error, s.phase = .returned (.error error)

lemma State.Looping.not_failed (h : s.Looping) : ¬ s.Failed := by
  rintro ⟨error, hphase⟩
  simp [State.Looping, hphase, Phase.isReturned] at h

/-- The branches that the source takes for unreachable. -/
@[simp] def Effect.isDead : Effect → Bool
  | secondStart _ => true
  | socketFailed _ error => error = .replyPending
  | _ => false

/-! ### What one step can do -/

/-- The reply of a connection that is no longer going to be sent has been accounted for. -/
def Settles (effects : List Effect) (c : StandardSocketConnection) : Prop :=
  effects = report .expired c ∨ effects = report .sendFailed c ∨ effects = report .sent c

/-- Steps between the helpers: the clock, the listeners, and the lists that a helper has
gone through.  Only newly accepted connections appear. -/
structure Administered (s s' : State) : Prop where
  service : s'.service = s.service
  active : s'.active = s.active
  shutdown : s'.shutdownDeadline = s.shutdownDeadline
  unhandled : s.handled = none
  replies : (s'.replies ++ s'.repliesPending).Perm (s.replies ++ s.repliesPending)
  standard : ∃ fresh : List TimedStandardConnection,
    (s'.standardConnections ++ s'.standardPending).Perm
      (fresh ++ (s.standardConnections ++ s.standardPending)) ∧
    ∀ timed ∈ fresh, timed.connection.connection.active = none ∧ timed.connection.outbound = none
  rebuilt : s'.phase ≠ .processStandard → s'.phase ≠ .flushStandard → s'.standardPending = []
  flushed : s'.phase ≠ .flush → s'.repliesPending = []
  looping : s'.Looping

/-- The step handles an operation request. -/
def Requests (s : State) (o : Observation) : Prop :=
  s.phase = .process ∧ RequestsOperation o.reception ∨
    s.phase = .processStandard ∧ StandardSocketConnection.RequestsStandard o.reception

/-- Why a step ends the service with an error. -/
inductive Fault (s : State) (o : Observation) : Prop
  | listener (h : s.phase = .accept ∨ s.phase = .acceptStandard ∨ s.phase = .decide)
  | receive (h : s.phase = .processStandard ∨ s.phase = .control)
      (hfails : ReceiveFails o.reception maxPacketSize)
  | exhausted (h : Requests s o) (hroom : ¬ s.service.HasRoom s.now)
  | worker (h : s.phase = .pollWorker)
  | grace (h : s.phase = .test)

/-- The two tests on which the loop returns normally. -/
def Exits (s : State) : Prop :=
  s.phase = .decide ∧ s.active = none ∧ s.standardConnections = [] ∧ s.replies = [] ∨
  s.phase = .test ∧ s.active = none ∧ s.replies = [] ∧ s.shutdownDeadline.isSome = true

/-- The phases that serve the active run, with the one that comes next. -/
@[simp] def Phase.next : Phase → Option Phase
  | observe => some .control
  | control => some .decide
  | flushActive => some .pollWorker
  | pollWorker => some .flush
  | _ => none

section

variable (s) (o)

/-- The cases of one step of the loop, with the running operation before and after. -/
inductive Moved : Option Running → List Effect → State → Option Running → Prop
  | administered {w s' : _} (ha : Administered s s') : Moved w [] s' w
  | failed {w effects : _} {s' : State} (hf : s'.Failed)
      (hquiet : ∀ effect ∈ effects, effect.isDead = false) (hfault : Fault s o) :
      Moved w effects s' w
  | exited {w : _} (hexits : Exits s) : Moved w [] { s with phase := .returned (.ok ()) } w
  | shutdownBegun {w w' : _} (service : BrokerServiceScheduler) (ht : Tied service s.active w')
      (hp : service.workers.poisoned = s.service.workers.poisoned)
      (hphase : s.phase = .top) (hcancelled : o.cancelled = true)
      (hfirst : s.shutdownDeadline = none) :
      Moved w [] { s with
        now := o.elapsed, accepts := 0
        shutdownDeadline := some (o.elapsed.saturatingAdd shutdownGrace)
        connections := [], standardConnections := [], service := service
        phase := .observe } w'
  -- one connection of the direct socket
  | directDropped {w timed rest : _}
      (hphase : s.phase = .process) (hlist : s.connections = timed :: rest) :
      Moved w [] { s with connections := rest } w
  | directWaiting {w timed rest : _}
      (hphase : s.phase = .process) (hlist : s.connections = timed :: rest) :
      Moved w [] { s with connections := rest, pending := timed :: s.pending } w
  | directReplied {w timed rest : _}
      (hphase : s.phase = .process) (hlist : s.connections = timed :: rest) (response : Response) :
      Moved w [] ({ s with connections := rest }.queueReply timed.client response) w
  | rootCancelled {r timed rest : _}
      (hphase : s.phase = .process) (hlist : s.connections = timed :: rest)
      (hroot : RootCancels o.credentials o.reception) :
      Moved (some r) []
        ({ s with connections := rest, service := s.service.mark r.session.event }.queueReply
          timed.client .okay)
        (some { r with session := { r.session with cancelled := true } })
  | directStarted {timed rest : _}
      (hphase : s.phase = .process) (hlist : s.connections = timed :: rest)
      (scheduled : ScheduledAuthentication) (deadline : Duration)
      (hh : (s.service.begin deadline).HoldsAuthentication (s.service.fresh deadline) scheduled) :
      Moved none [] { s with
        connections := rest, service := s.service.begin deadline
        active := some (.direct ⟨⟨timed.client, scheduled⟩, false⟩) }
        (some (s.service.fresh deadline))
  | directAbandoned {timed rest : _}
      (hphase : s.phase = .process) (hlist : s.connections = timed :: rest)
      (deadline : Duration) :
      Moved none []
        ({ s with connections := rest, service := (s.service.begin deadline).release s.now
          }.queueReply timed.client .failure) none
  -- one standard connection without an operation
  | standardDropped {w timed rest effects : _}
      (hphase : s.phase = .processStandard ∨ s.phase = .flushStandard)
      (hlist : s.standardConnections = timed :: rest)
      (hsettles : Settles effects timed.connection) :
      Moved w effects { s with standardConnections := rest } w
  | standardKept {w timed rest : _}
      (hphase : s.phase = .processStandard ∨ s.phase = .flushStandard)
      (hlist : s.standardConnections = timed :: rest) :
      Moved w [] ({ s with standardConnections := rest }.keepStandard timed) w
  | standardSent {w timed rest : _}
      (hphase : s.phase = .flushStandard) (hlist : s.standardConnections = timed :: rest) :
      Moved w (report .sent timed.connection)
        ({ s with standardConnections := rest }.keepStandard
          { timed with connection := timed.connection.discardReply, replyDeadline := none }) w
  | standardAnswered {w timed rest : _} (hphase : s.phase = .processStandard)
      (hlist : s.standardConnections = timed :: rest) (hfree : timed.connection.outbound = none)
      (reply : StandardReply) (opened : Bool) :
      Moved w []
        ({ s with standardConnections := rest }.keepStandard
          ⟨{ timed.connection with
              connection := { timed.connection.connection with opened := opened }
              outbound := some reply },
            none, some (s.now.saturatingAdd replyTimeout)⟩) w
  | standardStarted {timed rest : _} (hphase : s.phase = .processStandard)
      (hlist : s.standardConnections = timed :: rest) (hfree : timed.connection.outbound = none)
      (scheduled : ScheduledStandardOperation) (deadline : Duration)
      (hh : (s.service.begin deadline).HoldsStandard (s.service.fresh deadline) scheduled) :
      Moved none [] { s with
        standardConnections := rest, service := s.service.begin deadline
        active := some (.standard ⟨{ timed.connection with
            connection := { timed.connection.connection with active := some scheduled } },
          ⟨scheduled.operation, scheduled.deadline⟩, false, none⟩) }
        (some (s.service.fresh deadline))
  | standardRefused {timed rest : _} (hphase : s.phase = .processStandard)
      (hlist : s.standardConnections = timed :: rest) (hfree : timed.connection.outbound = none)
      (deadline : Duration) (reply : StandardReply) :
      Moved none []
        ({ s with
          standardConnections := rest
          service := (s.service.begin deadline).release s.now }.keepStandard
          ⟨{ timed.connection with
              connection := { timed.connection.connection with active := none }
              outbound := some reply },
            none, some (s.now.saturatingAdd replyTimeout)⟩) none
  -- the active run
  | stayed {w phase : _} (hphase : s.phase.next = some phase) : Moved w [] { s with phase := phase } w
  | disconnected {r run effects phase : _} (hactive : s.active = some run)
      (hphase : s.phase.next = some phase)
      (hsettles : effects = [] ∨ ∃ running, run = .standard running ∧
        Settles effects running.connection) :
      Moved (some r) effects
        { s with
          phase := phase, service := (s.service.delivered r).2, active := some run.disconnected }
        (some r.delivered)
  | ownCancelled {r : _} (hphase : s.phase = .control) :
      Moved (some r) []
        { s with phase := .decide, service := (s.service.delivered r).2 } (some r.delivered)
  | replyQueued {w running phase : _} (hactive : s.active = some (.standard running))
      (hphase : s.phase.next = some phase) (hconnected : running.disconnectObserved = false)
      (hfree : running.connection.outbound = none) (reply : StandardReply) (opened : Bool) :
      Moved w [] { s with
        phase := phase
        active := some (.standard { running with
          connection := { running.connection with
            connection := { running.connection.connection with opened := opened }
            outbound := some reply }
          replyDeadline := some (s.now.saturatingAdd replyTimeout) }) } w
  | replySent {w running : _} (hactive : s.active = some (.standard running))
      (hphase : s.phase = .flushActive) :
      Moved w (report .sent running.connection) { s with
        phase := .pollWorker
        active := some (.standard { running with
          connection := running.connection.discardReply, replyDeadline := none }) } w
  | deadlineReported {r : _} (hphase : s.phase = .decide) :
      Moved (some r) []
        { s with service :=
          ((s.service.expire r).delivered { r with cancellationSent := true }).2 }.enterFlush
        (some { r with cancellationSent := true }.delivered)
  | directCompleted {r running : _} (hactive : s.active = some (.direct running))
      (hphase : s.phase = .pollWorker) (completion : AuthenticationCompletion)
      (hpoll : o.worker.poll = .completed completion)
      (hb : completion.belongsTo running.session.scheduled.authentication = true)
      (response : Response) :
      Moved (some r)
        (if running.disconnectObserved then []
          else [.completed running.session.client response.encode])
        (if running.disconnectObserved then
            { s with phase := .flush, service := s.service.release s.now, active := none }
          else { s with phase := .flush, service := s.service.release s.now, active := none
            }.queueReply running.session.client response) none
  | standardCompleted {r running scheduled : _} (hactive : s.active = some (.standard running))
      (hscheduled : running.connection.connection.active = some scheduled)
      (hphase : s.phase = .pollWorker) (completion : StandardCompletion)
      (hpoll : o.standardWorker.poll = .completed completion)
      (hb : completion.belongsTo scheduled.operation = true)
      (hfree : running.connection.outbound = none) (reply : StandardReply) :
      Moved (some r)
        (if running.disconnectObserved then []
          else [.completed running.connection.client reply.packet])
        (if running.disconnectObserved then
            { s with phase := .flush, service := s.service.release s.now, active := none }
          else { s with
            phase := .flush, service := s.service.release s.now, active := none
            standardConnections :=
              ⟨{ running.connection with
                  connection := { running.connection.connection with active := none }
                  outbound := some reply },
                none, some (s.now.saturatingAdd replyTimeout)⟩ :: s.standardConnections }) none
  -- one reply of the direct socket
  | replyTaken {w timed rest : _}
      (hphase : s.phase = .flush) (hlist : s.replies = timed :: rest)
      (effect : Client → Packet → Effect)
      (heffect : effect = .expired ∨ effect = .sent ∨ effect = .sendFailed) :
      Moved w [effect timed.reply.client timed.reply.response.encode]
        { s with replies := rest } w
  | replyKept {w timed rest : _}
      (hphase : s.phase = .flush) (hlist : s.replies = timed :: rest) :
      Moved w [] { s with replies := rest, repliesPending := timed :: s.repliesPending } w

end

/-- One of the cases, whatever the running operation becomes. -/
def Moves (s : State) (o : Observation) (w : Option Running) (out : List Effect × State) : Prop :=
  ∃ w', Moved s o w out.1 out.2 w'

section

variable {s' : State} {running : ActiveStandardRun} {phase : Phase}

lemma Moves.fail (error : AuthDaemonError) (hquiet : ∀ effect ∈ effects, effect.isDead = false)
    (hfault : Fault s o) :
    Moves s o w (effects, s'.fail error) :=
  ⟨w, .failed ⟨error, rfl⟩ hquiet hfault⟩

/-- A step that only moves the program counter or adds accepted connections. -/
lemma Moves.administer (h : Loop s w) (hunhandled : s.handled = none)
    (hpending : s.phase ≠ .processStandard ∧ s.phase ≠ .flushStandard ∧ s.phase ≠ .flush)
    {now : Duration} {accepts : ℕ} {connections pending : List TimedConnection}
    {standard : List TimedStandardConnection} (fresh : List TimedStandardConnection)
    (hlooping : phase.isReturned = false) (hstandard : standard.Perm (fresh ++ s.standardConnections))
    (hfresh : ∀ timed ∈ fresh,
      timed.connection.connection.active = none ∧ timed.connection.outbound = none) :
    Moves s o w ([], { s with
      now := now, accepts := accepts, connections := connections, pending := pending
      standardConnections := standard, phase := phase }) := by
  have hrebuilt : s.standardPending = [] := h.rebuilt hpending.1 hpending.2.1
  have hflushed : s.repliesPending = [] := h.flushed hpending.2.2
  refine ⟨w, .administered ⟨rfl, rfl, rfl, hunhandled, .refl _, ⟨fresh, ?_, hfresh⟩,
    fun _ _ => hrebuilt, fun _ => hflushed, hlooping⟩⟩
  rw [← List.append_assoc]
  exact hstandard.append_right _

lemma beginTick_shutdown (hc : o.cancelled = true) (hd : s.shutdownDeadline = none) :
    s.beginTick o = { s with
      now := o.elapsed, accepts := 0
      shutdownDeadline := some (o.elapsed.saturatingAdd shutdownGrace)
      connections := [], standardConnections := [], service := s.expireActive
      phase := .observe } := by
  simp only [State.beginTick, State.beginShutdown, State.expireActive, hc, hd, Option.isNone_none,
    Bool.and_self, if_true, Option.isNone_some, Bool.false_eq_true, if_false]

lemma beginTick_plain (hb : (o.cancelled && s.shutdownDeadline.isNone) = false) :
    s.beginTick o = { s with
      now := o.elapsed, accepts := 0
      phase := if s.shutdownDeadline.isNone then .accept else .observe } := by
  simp only [State.beginTick, hb, Bool.false_eq_true, if_false]

lemma beginTick_moves (h : Loop s w) (hphase : s.phase = .top) :
    Moves s o w ([], s.beginTick o) := by
  cases hbegin : o.cancelled && s.shutdownDeadline.isNone with
  | false =>
    rw [beginTick_plain hbegin]
    refine .administer h (by simp [State.handled, hphase]) (by simp [hphase]) [] ?_ (.refl _) (by simp)
    split <;> rfl
  | true =>
    obtain ⟨hc, hd⟩ := Bool.and_eq_true_iff.mp hbegin
    rw [Option.isNone_iff_eq_none] at hd
    rw [beginTick_shutdown hc hd]
    unfold State.expireActive
    cases hactive : s.active with
    | none =>
      have hm := Moved.shutdownBegun (w := w) s.service h.tied rfl hphase hc hd
      rw [hactive] at hm
      exact ⟨w, hm⟩
    | some run =>
      obtain ⟨r, rfl, ht⟩ := h.running hactive
      have hadv := ht.advances
      have ht' := ht.delivered
      rw [← hactive] at ht'
      have hm := Moved.shutdownBegun (w := some r) _ ht' hadv.poisoned hphase hc hd
      rw [hactive] at hm
      dsimp only
      rw [ht.deadlineExpired]
      exact ⟨_, hm⟩

lemma acceptConnections_moves (h : Loop s w) (hphase : s.phase = .accept) :
    Moves s o w ([], s.acceptConnections o) := by
  have hadmin : ∀ (connections : List TimedConnection) (accepts : ℕ) (phase : Phase),
      phase.isReturned = false → Moves s o w ([], { s with
        connections := connections, accepts := accepts, phase := phase }) := by
    intro connections accepts phase hlooping
    exact .administer h (by simp [State.handled, hphase]) (by simp [hphase]) [] hlooping
      (.refl _) (by simp)
  have hfail : Moves s o w ([], s.fail .listener) :=
    .fail .listener (by simp) (.listener (.inl hphase))
  unfold State.acceptConnections
  split_ifs
  · exact hadmin s.connections 0 .acceptStandard rfl
  split
  · exact hfail
  · exact hadmin s.connections 0 .acceptStandard rfl
  split
  · have hm := hadmin (⟨‹Client›, s.now.saturatingAdd requestTimeout⟩ :: s.connections)
      (s.accepts + 1) s.phase (by rw [hphase]; rfl)
    exact hm
  · exact hadmin s.connections 0 .acceptStandard rfl
  · exact hadmin s.connections 0 .acceptStandard rfl
  · exact hfail

lemma acceptStandardConnections_moves (h : Loop s w) (hphase : s.phase = .acceptStandard)
    (config : StandardConnectionConfig) :
    Moves s o w ([], s.acceptStandardConnections config o) := by
  have hadmin : ∀ (accepts : ℕ) (phase : Phase) (fresh : List TimedStandardConnection),
      phase.isReturned = false → (∀ timed ∈ fresh,
        timed.connection.connection.active = none ∧ timed.connection.outbound = none) →
      Moves s o w ([], { s with
        accepts := accepts, phase := phase
        standardConnections := fresh ++ s.standardConnections }) := by
    intro accepts phase fresh hlooping hfresh
    exact .administer h (by simp [State.handled, hphase]) (by simp [hphase]) fresh hlooping
      (.refl _) hfresh
  have hnext : Moves s o w ([], { s with accepts := 0, phase := .process }) :=
    hadmin 0 .process [] rfl (by simp)
  have hfail : Moves s o w ([], s.fail .listener) :=
    .fail .listener (by simp) (.listener (.inr (.inl hphase)))
  unfold State.acceptStandardConnections
  split_ifs
  · exact hnext
  split
  · exact hfail
  · exact hnext
  split
  · exact hnext
  · exact hnext
  · exact hfail
  split
  · next connection hconnection =>
    refine hadmin (s.accepts + 1) s.phase [⟨connection, _, _⟩] (by rw [hphase]; rfl) ?_
    simpa using accept_fresh hconnection
  · exact hadmin (s.accepts + 1) s.phase [] (by rw [hphase]; rfl) (by simp)
  · exact hnext
  · exact hnext
  · exact hfail

lemma processConnections_moves (h : Loop s w) (hphase : s.phase = .process) :
    Moves s o w (s.processConnections o) := by
  unfold State.processConnections
  split
  · next hlist =>
    exact .administer h (by simp [State.handled, hphase, hlist]) (by simp [hphase]) [] rfl
      (.refl _) (by simp)
  next timed rest hlist =>
  dsimp only
  split_ifs
  · exact ⟨w, .directDropped hphase hlist⟩
  have hanswered := dispatchConnection_answered h.tied.represents h.sound o.credentials
    o.policy o.reception s.now
  generalize dispatchConnection o.credentials o.policy o.reception s.service s.now = result
    at hanswered
  cases hanswered with
  | failed | closed => exact ⟨w, .directDropped hphase hlist⟩
  | waiting => exact ⟨w, .directWaiting hphase hlist⟩
  | refused response => exact ⟨w, .directReplied hphase hlist response⟩
  | cancelled r haccepting hroot =>
    exact ⟨_, .rootCancelled hphase hlist hroot⟩
  | started scheduled deadline hh =>
    have hactive : s.active = none := h.tied.active_of_none
    dsimp only
    unfold State.startDirect
    rw [if_neg (by simp [hactive])]
    split_ifs
    · exact ⟨_, .directStarted hphase hlist scheduled deadline hh⟩
    · rw [BrokerServiceScheduler.abandon_held (h.tied.represents.begin deadline) hh]
      exact ⟨_, .directAbandoned hphase hlist deadline⟩
  | exhausted hrequests hroom =>
    exact .fail .scheduler (by simp) (.exhausted (.inl ⟨hphase, hrequests⟩) hroom)

lemma refuseStart_moves (h : Loop s none) {timed : TimedStandardConnection}
    (hphase : s.phase = .processStandard) (hlist : s.standardConnections = timed :: rest)
    (hfree : timed.connection.outbound = none) {deadline : Duration}
    (hh : (s.service.begin deadline).HoldsStandard (s.service.fresh deadline) scheduled) :
    Moves s o none (State.refuseStart
      { s with standardConnections := rest, service := s.service.begin deadline }
      { timed with
        connection := { timed.connection with
          connection := { timed.connection.connection with active := some scheduled } }
        requestDeadline := none }
      ⟨scheduled.operation, scheduled.deadline⟩) := by
  unfold State.refuseStart
  have hb : ((StandardWorkerJob.mk scheduled.operation scheduled.deadline).completion
      (.terminal .error)).belongsTo scheduled.operation = true := by
    simp [StandardWorkerJob.completion, StandardCompletion.new, StandardCompletion.belongsTo]
  have hfinish := finishWorker_held
    (c := { timed.connection with
      connection := { timed.connection.connection with active := some scheduled } })
    hfree rfl (h.tied.represents.begin deadline) hh h.sound hb s.now
  rw [hfinish]
  exact ⟨none, .standardRefused hphase hlist hfree deadline _⟩

/-- The end of a helper that has rebuilt the standard connections. -/
lemma rebuilt_moves (h : Loop s w) (hlist : s.standardConnections = [])
    (hphase : (s.phase = .processStandard ∧ phase = .observe) ∨
      (s.phase = .flushStandard ∧ phase = .flushActive)) :
    Moves s o w ([], { s with
      standardConnections := s.standardPending, standardPending := [], phase := phase }) := by
  have hflushed : s.repliesPending = [] := by
    rcases hphase with ⟨hp, -⟩ | ⟨hp, -⟩ <;> exact h.flushed (by simp [hp])
  have hunhandled : s.handled = none := by
    rcases hphase with ⟨hp, -⟩ | ⟨hp, -⟩ <;> simp [State.handled, hp, hlist]
  have hlooping : phase.isReturned = false := by
    rcases hphase with ⟨-, rfl⟩ | ⟨-, rfl⟩ <;> rfl
  refine ⟨w, .administered ⟨rfl, rfl, rfl, hunhandled, .refl _, ⟨[], ?_, by simp⟩,
    fun _ _ => rfl, fun _ => hflushed, hlooping⟩⟩
  simp [hlist]

lemma processStandardConnections_moves (h : Loop s w) (hphase : s.phase = .processStandard) :
    Moves s o w (s.processStandardConnections o) := by
  unfold State.processStandardConnections
  split
  · next hlist => exact rebuilt_moves h hlist (.inl ⟨hphase, rfl⟩)
  next timed rest hlist =>
  have hidle : Idle timed := h.idle timed (by simp [hlist])
  dsimp only
  split_ifs with hreply hrequest hout
  · exact ⟨w, .standardDropped (.inl hphase) hlist (.inl rfl)⟩
  · have hnone : timed.connection.outbound = none := by
      by_contra hsome
      have := hidle.answered (Option.isSome_iff_ne_none.mpr hsome)
      simp [this, passed] at hrequest
    have hsettles : Settles [] timed.connection := Or.inl (by simp [report, unsent, hnone])
    exact ⟨w, .standardDropped (.inl hphase) hlist hsettles⟩
  · exact ⟨w, .standardKept (.inl hphase) hlist⟩
  have hnone : timed.connection.outbound = none := by
    simpa [hasPendingReply] using hout
  have hsettles : Settles [] timed.connection := Or.inl (by simp [report, unsent, hnone])
  have hserved := receiveAndDispatch_served
    (c := timed.connection) h.tied.represents h.sound o.reception o.policy o.resolve s.now
  generalize timed.connection.receiveAndDispatch s.service o.reception o.policy o.resolve
    s.now = result at hserved
  cases hserved with
  | failed error hfails =>
    exact .fail .scheduler (by simp) (.receive (.inl hphase) hfails)
  | waiting => exact ⟨w, .standardKept (.inl hphase) hlist⟩
  | closed => exact ⟨w, .standardDropped (.inl hphase) hlist hsettles⟩
  | answered reply opened =>
    exact ⟨w, .standardAnswered hphase hlist hnone reply opened⟩
  | cancelled active hactive =>
    rw [hidle.free] at hactive
    cases hactive
  | started scheduled deadline _ _ hh =>
    have hactive : s.active = none := h.tied.active_of_none
    dsimp only
    unfold State.startStandard
    rw [if_neg (by simp [hactive])]
    split_ifs
    · exact ⟨_, .standardStarted hphase hlist hnone scheduled deadline hh⟩
    · exact refuseStart_moves h hphase hlist hnone hh
  | exhausted hrequests hroom =>
    exact .fail .scheduler (by simp) (.exhausted (.inr ⟨hphase, hrequests⟩) hroom)

/-- A direct client that is gone: its operation is cancelled or awaited. -/
lemma observeActiveDisconnect_gone {running : ActiveDirectRun}
    (hactive : s.active = some (.direct running))
    (ht : Tied s.service (some (.direct running)) (some r))
    (hobserved : running.disconnectObserved = false) (hgone : o.peerClosed ≠ .ok false) :
    s.observeActiveDisconnect o = { s with
      phase := .control, service := (s.service.delivered r).2
      active := some (ActiveRun.disconnected (.direct running)) } := by
  cases ht with
  | direct _ _ hrep hh =>
    have hadv := BrokerServiceScheduler.Advances.delivered hrep
    have howns : (s.service.delivered r).2.owns running.session.scheduled = true :=
      BrokerServiceScheduler.HoldsAuthentication.owns (hadv.holds hh) hadv.represents
    unfold State.observeActiveDisconnect
    simp only [hactive, hobserved, Bool.false_eq_true, if_false]
    rcases observeDisconnectResult_held hrep hh o.peerClosed with
      ⟨hconnected, -⟩ | ⟨-, observation, hne, hobs⟩
    · exact absurd hconnected hgone
    rw [hobs]
    cases observation with
    | connected => exact absurd rfl hne
    | cancellationDelivered => rfl
    | cancellationUnavailable =>
      dsimp only
      rw [if_neg (by simp [howns])]
      rfl

lemma observeActiveDisconnect_moves (h : Loop s w) (hphase : s.phase = .observe) :
    Moves s o w ([], s.observeActiveDisconnect o) := by
  have hstay : Moves s o w ([], { s with phase := .control }) :=
    ⟨w, .stayed (by simp [hphase])⟩
  cases hactive : s.active with
  | none =>
    simp only [State.observeActiveDisconnect, hactive]
    rwa [hactive] at hstay
  | some run =>
    obtain ⟨r, rfl, ht⟩ := h.running hactive
    cases run with
    | standard running =>
      simp only [State.observeActiveDisconnect, hactive]
      rwa [hactive] at hstay
    | direct running =>
      by_cases hskip : running.disconnectObserved = true ∨ o.peerClosed = .ok false
      · have hstep : s.observeActiveDisconnect o = { s with phase := .control } := by
          unfold State.observeActiveDisconnect
          rw [hactive]
          rcases hskip with hs | hs
          · simp [hs]
          · simp [hs, observeDisconnectResult]
        rw [hstep]
        exact hstay
      · rw [not_or, Bool.not_eq_true] at hskip
        rw [observeActiveDisconnect_gone hactive ht hskip.1 hskip.2]
        exact ⟨_, .disconnected hactive (by simp [hphase]) (.inl rfl)⟩

/-- A standard client that is gone: as for a direct one, and its reply is dropped. -/
lemma disconnectStandardRun_eq (ht : Tied s.service (some (.standard running)) (some r))
    (hsame : running'.connection.connection = running.connection.connection) :
    s.disconnectStandardRun running' = { s with
      service := (s.service.delivered r).2
      active := some (ActiveRun.disconnected (.standard running')) } := by
  cases ht with
  | standard _ scheduled _ hrep hscheduled hh =>
    have hscheduled' : running'.connection.connection.active = some scheduled := by
      rw [hsame]
      exact hscheduled
    have hadv := BrokerServiceScheduler.Advances.delivered hrep
    have hstill : running'.connection.isActiveIn (s.service.delivered r).2 = true :=
      isActiveIn_held hscheduled' hadv.represents (hadv.holds hh)
    unfold State.disconnectStandardRun
    rw [clientDisconnected_held hscheduled' hrep hh]
    dsimp only
    rw [if_neg (by simp [hstill])]
    rfl

section

variable (h : Loop s w)

include h

lemma disconnectStandardRun_moves (hactive : s.active = some (.standard running))
    (hsame : running'.connection.connection = running.connection.connection)
    (hrun : ActiveRun.disconnected (.standard running') = ActiveRun.disconnected (.standard running))
    (hs' : s' = { s with phase := phase })
    (hphase : s.phase.next = some phase)
    (hsettles : effects = [] ∨ Settles effects running.connection) :
    Moves s o w (effects, s'.disconnectStandardRun running') := by
  subst hs'
  obtain ⟨r, rfl, ht⟩ := h.running hactive
  rw [disconnectStandardRun_eq (s := { s with phase := phase }) ht hsame, hrun]
  exact ⟨_, .disconnected hactive hphase (hsettles.imp_right fun hs => ⟨running, rfl, hs⟩)⟩

lemma processActiveStandardControl_moves (hphase : s.phase = .control) :
    Moves s o w (s.processActiveStandardControl o) := by
  have hstay : Moves s o w ([], { s with phase := .decide }) :=
    ⟨w, .stayed (by simp [hphase])⟩
  unfold State.processActiveStandardControl
  dsimp only
  split
  · next running hactive =>
    split_ifs with hskip
    · exact hstay
    obtain ⟨hconnected, hout⟩ : running.disconnectObserved = false ∧
        running.connection.hasPendingReply = false := by simpa using hskip
    have hfree : running.connection.outbound = none := by
      simpa [hasPendingReply] using hout
    obtain ⟨r, rfl, ht⟩ := h.running hactive
    cases ht with
    | standard _ scheduled _ hrep hscheduled hh hjob hreply =>
      have hserved := receiveAndDispatch_served
        (c := running.connection) hrep h.sound o.reception o.policy o.resolve s.now
      generalize running.connection.receiveAndDispatch s.service o.reception o.policy
        o.resolve s.now = result at hserved
      generalize hw : some r = w at hserved
      cases hserved with
      | failed error hfails =>
        exact .fail .scheduler (by simp) (.receive (.inr hphase) hfails)
      | waiting =>
        subst hw
        rw [← hactive]
        exact hstay
      | closed =>
        subst hw
        rw [← hactive]
        exact disconnectStandardRun_moves h hactive rfl rfl rfl (by simp [hphase]) (.inl rfl)
      | answered reply opened =>
        exact ⟨_, .replyQueued hactive (by simp [hphase]) hconnected hfree reply opened⟩
      | cancelled active hactive' =>
        subst hw
        rw [hscheduled] at hactive'
        obtain rfl := Option.some.inj hactive'
        rw [BrokerServiceScheduler.cancelStandard_held hrep hh, ← hactive]
        exact ⟨_, .ownCancelled hphase⟩
      | started => cases hw
      | exhausted => cases hw
  · exact hstay

lemma enterFlush_moves (hphase : s.phase = .decide) : Moves s o w ([], s.enterFlush) :=
  .administer h (by simp [State.handled, hphase]) (by simp [hphase]) [] rfl
    s.standardConnections.reverse_perm (by simp)

lemma decideLifecycle_moves (hphase : s.phase = .decide) :
    Moves s o w ([], s.decideLifecycle o) := by
  unfold State.decideLifecycle
  split
  · exact .fail .listener (by simp) (.listener (.inr (.inr hphase)))
  next ready _ =>
  generalize (ready || !s.connections.isEmpty || !s.standardConnections.isEmpty) = busy
  rcases BrokerServiceScheduler.decide_represented h.tied.represents s.now busy with
    ⟨decision, hcancel, hdecide⟩ | ⟨r, rfl, -, -, -, hdecide⟩
  · rw [hdecide]
    cases decision with
    | «continue» => exact enterFlush_moves h hphase
    | cancel lease => exact absurd rfl (hcancel lease)
    | exitIdle =>
      dsimp only
      split_ifs with hexit
      · simp only [Bool.and_eq_true, Option.isNone_iff_eq_none, List.isEmpty_iff] at hexit
        exact ⟨w, .exited (.inl ⟨hphase, hexit.1.1.1, hexit.1.2, hexit.2⟩)⟩
      · exact enterFlush_moves h hphase
    | terminate =>
      have := BrokerServiceScheduler.decide_terminate hdecide
      rw [h.sound] at this
      cases this
  · rw [hdecide]
    have hadv := BrokerServiceScheduler.Advances.expire h.tied.represents
    have ht := h.tied.advance hadv
    cases hactive : s.active with
    | none =>
      rw [hactive] at ht
      cases ht
    | some run =>
      rw [hactive] at ht
      have hstill := ht.delivered.isActiveIn
      dsimp only
      rw [ht.deadlineExpired, if_pos (by simp [hstill])]
      have hm := Moved.deadlineReported (o := o) (r := r) hphase
      rw [hactive] at hm
      exact ⟨_, hm⟩

lemma flushStandardReplies_moves (hphase : s.phase = .flushStandard) :
    Moves s o w (s.flushStandardReplies o) := by
  unfold State.flushStandardReplies
  split
  · next hlist => exact rebuilt_moves h hlist (.inr ⟨hphase, rfl⟩)
  next timed rest hlist =>
  have hkept : Moves s o w ([], { s with standardConnections := rest }.keepStandard timed) :=
    ⟨w, .standardKept (.inr hphase) hlist⟩
  dsimp only
  split_ifs with hout hreply
  · exact hkept
  · exact ⟨w, .standardDropped (.inr hphase) hlist (.inl rfl)⟩
  obtain ⟨reply, hsome⟩ : ∃ reply, timed.connection.outbound = some reply := by
    rw [Bool.not_eq_true', Bool.not_eq_false] at hout
    exact Option.isSome_iff_exists.mp hout
  rcases flushReply_cases hsome o.transmission with
    hf | hf | ⟨error, hf⟩
  · rw [hf]
    exact hkept
  · rw [hf]
    exact ⟨w, .standardSent hphase hlist⟩
  · rw [hf]
    exact ⟨w, .standardDropped (.inr hphase) hlist (.inr (.inl rfl))⟩

lemma flushActiveStandardReply_moves (hphase : s.phase = .flushActive) :
    Moves s o w (s.flushActiveStandardReply o) := by
  have hstay : Moves s o w ([], { s with phase := .pollWorker }) :=
    ⟨w, .stayed (by simp [hphase])⟩
  unfold State.flushActiveStandardReply
  dsimp only
  split
  · next running hactive =>
    split_ifs with hskip hreply
    · exact hstay
    · exact disconnectStandardRun_moves h hactive rfl rfl rfl (by simp [hphase]) (.inr (.inl rfl))
    obtain ⟨reply, hsome⟩ : ∃ reply, running.connection.outbound = some reply := by
      have hout : running.connection.hasPendingReply = true := by
        simp only [Bool.or_eq_true, Bool.not_eq_true', not_or, Bool.not_eq_false] at hskip
        exact hskip.2
      exact Option.isSome_iff_exists.mp hout
    rcases flushReply_cases hsome o.transmission with
      hf | hf | ⟨error, hf⟩
    · rw [hf]
      dsimp only
      rw [← hactive]
      exact hstay
    · rw [hf]
      exact ⟨w, .replySent hactive hphase⟩
    · rw [hf]
      exact disconnectStandardRun_moves h hactive rfl rfl rfl (by simp [hphase])
        (.inr (.inr (.inl rfl)))
  · exact hstay

lemma flushReplies_moves (hphase : s.phase = .flush) : Moves s o w (s.flushReplies o) := by
  unfold State.flushReplies
  split
  · next hlist =>
    have hrebuilt : s.standardPending = [] := h.rebuilt (by simp [hphase]) (by simp [hphase])
    refine ⟨w, .administered ⟨rfl, rfl, rfl, by simp [State.handled, hphase, hlist], ?_,
      ⟨[], .refl _, by simp⟩, fun _ _ => hrebuilt, fun _ => rfl, rfl⟩⟩
    simp [hlist]
  · next timed rest hlist =>
    dsimp only
    split_ifs
    · exact ⟨w, .replyTaken hphase hlist .expired (.inl rfl)⟩
    split
    · exact ⟨w, .replyTaken hphase hlist .sent (.inr (.inl rfl))⟩
    · exact ⟨w, .replyKept hphase hlist⟩
    · exact ⟨w, .replyKept hphase hlist⟩
    · exact ⟨w, .replyTaken hphase hlist .sendFailed (.inr (.inr rfl))⟩

lemma testShutdown_moves (hphase : s.phase = .test) : Moves s o w ([], s.testShutdown) := by
  have htop : Moves s o w ([], { s with phase := .top }) :=
    .administer h (by simp [State.handled, hphase]) (by simp [hphase]) [] rfl (.refl _) (by simp)
  unfold State.testShutdown
  split
  · exact htop
  next deadline hdeadline =>
  split_ifs with hexit hgrace
  · simp only [Bool.and_eq_true, Option.isNone_iff_eq_none, List.isEmpty_iff] at hexit
    exact ⟨w, .exited (.inr ⟨hphase, hexit.1, hexit.2, by simp [hdeadline]⟩)⟩
  · split
    · exact .fail .shutdown (by simp) (.grace hphase)
    · exact .fail .shutdown (by simp) (.grace hphase)
  · exact htop

end

lemma Moves.lose (hphase : s.phase = .pollWorker) :
    Moves s o w ([], s'.loseWorker run .workerLost) :=
  ⟨w, .failed ⟨.workerLost, rfl⟩ (by simp) (.worker hphase)⟩

lemma pollDirect_moves (h : Loop s (some r)) (hphase : s.phase = .pollWorker)
    {running : ActiveDirectRun} (hactive : s.active = some (.direct running))
    (hh : s.service.HoldsAuthentication r running.session.scheduled) :
    Moves s o (some r) (State.pollDirect { s with phase := .flush } running o.worker.poll) := by
  cases hpoll : o.worker.poll with
  | pending => exact ⟨_, .stayed (by simp [hphase])⟩
  | progress progress => exact nomatch progress
  | lost => exact .lose hphase
  | completed completion =>
    simp only [State.pollDirect]
    cases hb : completion.belongsTo running.session.scheduled.authentication with
    | false => exact .lose hphase
    | true =>
      have hm := Moved.directCompleted (r := r) hactive hphase completion hpoll hb
        (r.session.response (BrokerSessionCoordinator.operationResult completion.result))
      rw [BrokerServiceScheduler.finish_held h.tied.represents hh h.sound hb]
      cases hobserved : running.disconnectObserved <;> simp only [hobserved] at hm <;>
        exact ⟨none, hm⟩

lemma pollStandard_moves (h : Loop s (some r)) (hphase : s.phase = .pollWorker)
    (hactive : s.active = some (.standard running))
    (hscheduled : running.connection.connection.active = some scheduled)
    (hh : s.service.HoldsStandard r scheduled) (hfree : running.connection.outbound = none) :
    Moves s o (some r)
      (State.pollStandard { s with phase := .flush } running o.standardWorker.poll) := by
  have hstay : Moves s o (some r) ([], { s with phase := .flush }) :=
    ⟨_, .stayed (by simp [hphase])⟩
  cases hpoll : o.standardWorker.poll with
  | pending => exact hstay
  | lost => exact .lose hphase
  | progress progress =>
    simp only [State.pollStandard]
    cases hobserved : running.disconnectObserved with
    | true => exact hstay
    | false =>
      rcases StandardSocketConnection.queueWorkerProgress_cases hfree running.job progress with
        hq | ⟨reply, hq⟩
      · rw [hq]
        exact .fail .listener (by simp) (.worker hphase)
      rw [hq]
      have hm := Moved.replyQueued (w := some r) (o := o) hactive
        (by simp [hphase] : s.phase.next = some .flush) hobserved hfree reply running.connection.connection.opened
      rw [hobserved] at hm
      exact ⟨_, hm⟩
  | completed completion =>
    simp only [State.pollStandard]
    cases hb : completion.belongsTo scheduled.operation with
    | false =>
      rw [finishWorker_foreign hscheduled h.tied.represents hh hb]
      exact .fail .scheduler (by simp) (.worker hphase)
    | true =>
      have hm := Moved.standardCompleted (r := r) hactive hscheduled hphase
        completion hpoll hb hfree
        (.new (r.session.standardResponse scheduled.operation.operation completion.result))
      rw [finishWorker_held hfree hscheduled h.tied.represents hh h.sound hb]
      cases hobserved : running.disconnectObserved <;> simp only [hobserved] at hm <;>
        exact ⟨none, hm⟩

lemma pollActiveWorker_moves (h : Loop s w) (hphase : s.phase = .pollWorker) :
    Moves s o w (s.pollActiveWorker o) := by
  have hstay : Moves s o w ([], { s with phase := .flush }) :=
    ⟨_, .stayed (by simp [hphase])⟩
  unfold State.pollActiveWorker
  dsimp only
  split
  · exact hstay
  · next running hactive =>
    obtain ⟨r, rfl, ht⟩ := h.running hactive
    cases ht with
    | direct _ _ _ hh => exact pollDirect_moves h hphase hactive hh
  next running hactive =>
  obtain ⟨r, rfl, ht⟩ := h.running hactive
  cases ht with
  | standard _ scheduled _ _ hscheduled hh =>
    split_ifs with hout
    · exact hstay
    have hfree : running.connection.outbound = none := by
      simpa [hasPendingReply] using hout
    exact pollStandard_moves h hphase hactive hscheduled hh hfree

lemma turn_moves (h : Loop s w) (hloop : s.Looping) (config : StandardConnectionConfig)
    (o : Observation) : Moves s o w (s.turn config o) := by
  unfold State.turn
  cases hphase : s.phase with
  | top => exact beginTick_moves h hphase
  | accept => exact acceptConnections_moves h hphase
  | acceptStandard => exact acceptStandardConnections_moves h hphase config
  | process => exact processConnections_moves h hphase
  | processStandard => exact processStandardConnections_moves h hphase
  | observe => exact observeActiveDisconnect_moves h hphase
  | control => exact processActiveStandardControl_moves h hphase
  | decide => exact decideLifecycle_moves h hphase
  | flushStandard => exact flushStandardReplies_moves h hphase
  | flushActive => exact flushActiveStandardReply_moves h hphase
  | pollWorker => exact pollActiveWorker_moves h hphase
  | flush => exact flushReplies_moves h hphase
  | test => exact testShutdown_moves h hphase
  | returned result => simp [State.Looping, hphase, Phase.isReturned] at hloop

end

/-! ### The invariant along a run -/

section Invariant

variable {s' : State} {w' : Option Running}

lemma Administered.loop (ha : Administered s s') (h : Loop s w) : Loop s' w := by
  obtain ⟨fresh, hperm, hfresh⟩ := ha.standard
  have hall : ∀ timed ∈ s'.standardConnections ++ s'.standardPending, Idle timed := by
    intro timed hmem
    rw [hperm.mem_iff, List.mem_append, List.mem_append] at hmem
    rcases hmem with hmem | hmem | hmem
    · obtain ⟨hfree, hout⟩ := hfresh timed hmem
      exact ⟨hfree, by simp [hasPendingReply, hout]⟩
    · exact h.idle timed hmem
    · exact h.pending timed hmem
  exact {
    sound := ha.service ▸ h.sound
    tied := by
      rw [ha.service, ha.active]
      exact h.tied
    idle := fun timed hmem => hall timed (List.mem_append_left _ hmem)
    pending := fun timed hmem => hall timed (List.mem_append_right _ hmem)
    rebuilt := ha.rebuilt
    flushed := ha.flushed }

variable {service : BrokerServiceScheduler} {timed : TimedStandardConnection}
  {config : StandardConnectionConfig}

lemma Tied.disconnected (ht : Tied service (some run) (some r)) :
    Tied (service.delivered r).2 (some run.disconnected) (some r.delivered) := by
  have hadv := ht.advances
  cases ht with
  | direct running _ _ hh => exact .direct _ _ hadv.represents (hadv.holds hh)
  | standard running scheduled _ _ hactive hh hjob =>
    exact .standard _ scheduled _ hadv.represents hactive (hadv.holds hh) hjob
      (by simp [hasPendingReply, discardReply])

lemma Tied.reply {running : ActiveStandardRun} (ht : Tied service (some (.standard running)) w)
    (hactive : running'.connection.connection.active = running.connection.connection.active)
    (hjob : running'.job = running.job) (hreply : running'.connection.hasPendingReply = true →
      running'.replyDeadline.isSome = true ∧ running'.disconnectObserved = false) :
    Tied service (some (.standard running')) w := by
  cases ht with
  | standard _ scheduled r hrep hscheduled hh hjob' =>
    exact .standard running' scheduled r hrep (hactive.trans hscheduled) hh
      (hjob.trans hjob') hreply

lemma Idle.of_free
    (hfree : timed.connection.connection.active = none) (hrequest : timed.requestDeadline = none) :
    Idle timed := ⟨hfree, fun _ => hrequest⟩

lemma Idle.discard (h : Idle timed) (deadline : Option Duration) :
    Idle ⟨timed.connection.discardReply, timed.requestDeadline, deadline⟩ :=
  ⟨h.free, by simp [hasPendingReply, discardReply]⟩

/-- An operation that was started for nobody is given back. -/
lemma Tied.abandoned {active : Option ActiveRun}
    (ht : Tied service active none) (deadline now : Duration) :
    Tied ((service.begin deadline).release now) active none := by
  rw [ht.active_of_none]
  exact .free ((ht.represents.begin deadline).release now)

/-- The phases in which a list is being rebuilt, so that a part of it is held apart. -/
@[simp] def Phase.rebuilds : Phase → Bool
  | processStandard => true
  | flushStandard => true
  | flush => true
  | _ => false

lemma Phase.of_next {p q : Phase} (h : p.next = some q) :
    p.rebuilds = false ∧ q.isReturned = false := by
  cases p <;> cases h <;> exact ⟨rfl, rfl⟩

/-- A step outside these phases finds nothing held apart and has to keep it so. -/
lemma Loop.elsewhere (h : Loop s w) (hphase : s.phase.rebuilds = false)
    (hsound : s'.service.workers.poisoned = false) (htied : Tied s'.service s'.active w')
    (hidle : ∀ timed ∈ s'.standardConnections, Idle timed)
    (hstandard : s'.standardPending = s.standardPending)
    (hreplies : s'.repliesPending = s.repliesPending) : Loop s' w' := by
  have hrebuilt : s'.standardPending = [] := by
    rw [hstandard]
    apply h.rebuilt
    · intro hp
      simp [hp] at hphase
    · intro hp
      simp [hp] at hphase
  have hflushed : s'.repliesPending = [] := by
    rw [hreplies]
    apply h.flushed
    intro hp
    simp [hp] at hphase
  exact ⟨hsound, htied, hidle, by simp [hrebuilt], fun _ _ => hrebuilt, fun _ => hflushed⟩

lemma Loop.idle_cons (h : Loop s w) (hlist : s.standardConnections = timed :: rest) :
    Idle timed ∧ ∀ t ∈ rest, Idle t := by
  have hall := h.idle
  rw [hlist] at hall
  exact List.forall_mem_cons.mp hall

section

variable (hm : Moved s o w effects s' w')

include hm

/-- One step keeps the invariant or stops the daemon with an error. -/
lemma Moved.loop (h : Loop s w) : s'.Failed ∨ Loop s' w' := by
  cases hm with
  | administered ha => exact .inr (ha.loop h)
  | failed hf => exact .inl hf
  | exited hexits =>
    have hphase : s.phase.rebuilds = false := by
      rcases hexits with ⟨hp, -⟩ | ⟨hp, -⟩ <;> simp [hp]
    exact .inr (h.elsewhere hphase h.sound h.tied h.idle rfl rfl)
  | shutdownBegun service ht hp hphase =>
    exact .inr (h.elsewhere (by simp [hphase]) (hp.trans h.sound) ht (by simp) rfl rfl)
  | directDropped | directWaiting | directReplied =>
    exact .inr { h with }
  | rootCancelled =>
    exact .inr { h with tied := h.tied.advance (.mark h.tied.represents) }
  | directStarted _ _ scheduled deadline hh =>
    exact .inr { h with tied := .direct _ _ (h.tied.represents.begin deadline) hh }
  | directAbandoned _ _ deadline =>
    exact .inr { h with tied := h.tied.abandoned deadline s.now }
  | standardDropped _ hlist =>
    exact .inr { h with idle := (h.idle_cons hlist).2 }
  | standardKept hphase hlist =>
    obtain ⟨hidle, hrest⟩ := h.idle_cons hlist
    refine Or.inr ⟨h.sound, h.tied, hrest, List.forall_mem_cons.mpr ⟨hidle, h.pending⟩,
      fun h1 h2 => ?_, h.flushed⟩
    exact (hphase.elim h1 h2).elim
  | standardSent hphase hlist =>
    obtain ⟨hidle, hrest⟩ := h.idle_cons hlist
    exact .inr ⟨h.sound, h.tied, hrest, List.forall_mem_cons.mpr ⟨hidle.discard none, h.pending⟩,
      fun _ h2 => (h2 hphase).elim, h.flushed⟩
  | standardAnswered hphase hlist =>
    obtain ⟨hidle, hrest⟩ := h.idle_cons hlist
    exact .inr ⟨h.sound, h.tied, hrest,
      List.forall_mem_cons.mpr ⟨.of_free hidle.free rfl, h.pending⟩,
      fun h1 _ => (h1 hphase).elim, h.flushed⟩
  | standardStarted _ hlist hfree scheduled deadline hh =>
    refine Or.inr ⟨h.sound, .standard _ scheduled _ (h.tied.represents.begin deadline) rfl hh rfl
      ?_, (h.idle_cons hlist).2, h.pending, h.rebuilt, h.flushed⟩
    simp [hasPendingReply, hfree]
  | standardRefused hphase hlist _ deadline =>
    exact .inr ⟨h.sound, h.tied.abandoned deadline s.now, (h.idle_cons hlist).2,
      List.forall_mem_cons.mpr ⟨.of_free rfl rfl, h.pending⟩,
      fun h1 _ => (h1 hphase).elim, h.flushed⟩
  | stayed hphase =>
    exact .inr (h.elsewhere (Phase.of_next hphase).1 h.sound h.tied h.idle rfl rfl)
  | disconnected hactive hphase =>
    obtain ⟨r, ⟨⟩, ht⟩ := h.running hactive
    have hadv := ht.advances
    exact .inr (h.elsewhere (Phase.of_next hphase).1 (hadv.poisoned.trans h.sound)
      ht.disconnected h.idle rfl rfl)
  | ownCancelled hphase =>
    have hadv := h.tied.advances
    exact .inr (h.elsewhere (by simp [hphase]) (hadv.poisoned.trans h.sound)
      h.tied.delivered h.idle rfl rfl)
  | replyQueued hactive hphase hconnected =>
    have ht := h.tied
    rw [hactive] at ht
    exact .inr (h.elsewhere (Phase.of_next hphase).1 h.sound
      (ht.reply rfl rfl fun _ => ⟨rfl, hconnected⟩) h.idle rfl rfl)
  | replySent hactive hphase =>
    have ht := h.tied
    rw [hactive] at ht
    refine Or.inr (h.elsewhere (by simp [hphase]) h.sound (ht.reply rfl rfl ?_) h.idle rfl rfl)
    simp [hasPendingReply, discardReply]
  | deadlineReported hphase =>
    have hexpire := BrokerServiceScheduler.Advances.expire h.tied.represents
    have hdeliver := (h.tied.advance hexpire).advances
    refine Or.inr (h.elsewhere (by simp [hphase])
      (hdeliver.poisoned.trans (hexpire.poisoned.trans h.sound))
      (h.tied.advance hexpire).delivered ?_ rfl rfl)
    intro timed hmem
    exact h.idle timed (List.mem_reverse.mp hmem)
  | directCompleted _ hphase =>
    have ht : Tied (s.service.release s.now) none none := .free (h.tied.represents.release s.now)
    have hphase : s.phase.rebuilds = false := by simp [hphase]
    right
    split_ifs <;> exact h.elsewhere hphase h.sound ht h.idle rfl rfl
  | standardCompleted _ _ hphase =>
    have ht : Tied (s.service.release s.now) none none := .free (h.tied.represents.release s.now)
    have hphase : s.phase.rebuilds = false := by simp [hphase]
    right
    split_ifs
    · exact h.elsewhere hphase h.sound ht h.idle rfl rfl
    · exact h.elsewhere hphase h.sound ht
        (List.forall_mem_cons.mpr ⟨.of_free rfl rfl, h.idle⟩) rfl rfl
  | replyTaken => exact .inr { h with }
  | replyKept hphase =>
    exact .inr { h with flushed := fun hf => (hf hphase).elim }

/-- The loop goes on, stops with an error for a reason, or returns normally. -/
lemma Moved.returns (hloop : s.Looping) : s'.Looping ∨ s'.Failed ∧ Fault s o ∨
      Exits s ∧ effects = [] ∧ s' = { s with phase := .returned (.ok ()) } := by
  cases hm with
  | administered ha => exact .inl ha.looping
  | failed hf _ hfault => exact .inr (.inl ⟨hf, hfault⟩)
  | exited hexits => exact .inr (.inr ⟨hexits, rfl, rfl⟩)
  | stayed hphase | disconnected _ hphase | replyQueued _ hphase =>
    exact .inl (Phase.of_next hphase).2
  | shutdownBegun | ownCancelled | replySent | deadlineReported => exact .inl rfl
  | directCompleted | standardCompleted => split_ifs <;> exact .inl rfl
  | _ => exact .inl hloop

lemma Moved.quiet : ∀ effect ∈ effects, effect.isDead = false := by
  have hreport : ∀ {c : StandardSocketConnection} {effects : List Effect}, Settles effects c →
      ∀ effect ∈ effects, effect.isDead = false := by
    intro c effects hsettles effect hmem
    rcases hsettles with rfl | rfl | rfl <;>
    · obtain ⟨owed, -, rfl⟩ := List.mem_map.mp hmem
      rfl
  cases hm with
  | failed _ hquiet => exact hquiet
  | standardDropped _ _ hsettles => exact hreport hsettles
  | standardSent | replySent => exact hreport (.inr (.inr rfl))
  | disconnected _ _ hsettles =>
    rcases hsettles with rfl | ⟨_, -, hsettles⟩
    · simp
    · exact hreport hsettles
  | directCompleted | standardCompleted => split_ifs <;> simp
  | replyTaken _ _ effect heffect =>
    intro e hmem
    rw [List.mem_singleton] at hmem
    subst hmem
    rcases heffect with rfl | rfl | rfl <;> rfl
  | _ => simp

/-- The run stays under its handle, its own worker has completed, or the daemon stops. -/
lemma Moved.stays (h : Loop s w) (hrun : s.active = some run) :
    s'.Failed ∨ (s.phase = .pollWorker ∧ run.Completes o) ∨
      ∃ run', s'.active = some run' ∧ run'.handle = run.handle := by
  have hsame : s'.active = s.active → ∃ run', s'.active = some run' ∧ run'.handle = run.handle :=
    fun ha => ⟨run, ha.trans hrun, rfl⟩
  have hfree : w = none → s.active = none := by
    rintro rfl
    exact h.tied.active_of_none
  cases hm with
  | administered ha => exact .inr (.inr (hsame ha.active))
  | failed hf => exact .inl hf
  | directStarted | standardStarted =>
    rw [hfree rfl] at hrun
    cases hrun
  | disconnected hactive =>
    cases hactive.symm.trans hrun
    refine Or.inr (.inr ⟨_, rfl, ?_⟩)
    cases run <;> rfl
  | replyQueued hactive | replySent hactive =>
    cases hactive.symm.trans hrun
    exact .inr (.inr ⟨_, rfl, rfl⟩)
  | directCompleted hactive hphase completion hpoll hb =>
    cases hactive.symm.trans hrun
    exact .inr (.inl ⟨hphase, completion, hpoll, hb⟩)
  | standardCompleted hactive hscheduled hphase completion hpoll hb =>
    cases hactive.symm.trans hrun
    exact .inr (.inl ⟨hphase, completion, _, hpoll, hscheduled, hb⟩)
  | _ => exact .inr (.inr (hsame rfl))

end

lemma Loop.close (h : Loop s w) : ∃ w', Loop s.close w' := by
  unfold State.close
  split
  · exact ⟨w, h⟩
  next run hactive =>
  obtain ⟨r, rfl, ht⟩ := h.running hactive
  obtain ⟨r', hadv⟩ := ht.closeCancellation
  exact ⟨some r', { h with
    sound := hadv.poisoned.trans h.sound, tied := h.tied.advance hadv }⟩

lemma State.close_active (s : State) : s.close.active = s.active := by
  unfold State.close
  split <;> rfl

lemma loop_of_init (h : (eventLoop config).init s) : Loop s none := by
  obtain ⟨slot, identity, service, hnew, rfl⟩ := h
  have hrep : service.Represents none :=
    (Service.consistent_init (w := ⟨service, []⟩) ⟨rfl, slot, identity, _, _, hnew⟩).represents
  obtain rfl := Except.ok.inj hnew
  exact ⟨rfl, .free hrep, by simp, by simp, fun _ _ => rfl, fun _ => rfl⟩

lemma loop_of_reachable (h : (eventLoop config).Reachable s) : s.Failed ∨ ∃ w, Loop s w := by
  refine h.invariant (I := fun s => s.Failed ∨ ∃ w, Loop s w)
    (fun s hs => .inr ⟨none, loop_of_init hs⟩) ?_
  intro s i hloop hbefore
  rcases hbefore with hfail | ⟨w, hl⟩
  · exact absurd hfail hloop.not_failed
  · cases i with
    | close => exact .inr hl.close
    | turn o =>
      obtain ⟨w', hm⟩ := turn_moves hl hloop config o
      exact (hm.loop hl).imp_right fun hl' => ⟨w', hl'⟩

lemma Loop.of_reachable
    (h : (eventLoop config).Reachable s) (hloop : s.Looping) : ∃ w, Loop s w := by
  rcases loop_of_reachable h with hfail | hl
  · exact absurd hfail hloop.not_failed
  · exact hl

end Invariant

/-- **Invariants of the event loop.**  In every state the loop can be in, an active standard
run with an unsent reply has a reply deadline and a client that was not found to be gone,
and the daemon's active run and the scheduler's worker slot are occupied together, by the
same operation.  Whatever happens next, no reply slot is overwritten, no operation starts
while one is active, and the run leaves the active slot only by its own worker's completion
or by the daemon stopping with an error. -/
theorem loop_state_invariants {config : StandardConnectionConfig} {s : State}
    (hreach : (eventLoop config).Reachable s) (hloop : s.Looping) :
    (∀ running, s.active = some (.standard running) → running.connection.hasPendingReply = true →
        running.replyDeadline.isSome = true ∧ running.disconnectObserved = false) ∧
    (s.active.isSome = s.service.workers.active.isSome ∧
      ∀ run ∈ s.active, ∃ h, run.handle = some h ∧ s.service.ownsScheduled h = true) ∧ ∀ i : Input,
      (∀ client, Effect.socketFailed client .replyPending ∉ (s.step config i).1 ∧
        Effect.secondStart client ∉ (s.step config i).1) ∧
      ∀ run ∈ s.active, (∃ run' ∈ (s.step config i).2.active, run'.handle = run.handle) ∨
        (∃ o, i = .turn o ∧ s.phase = .pollWorker ∧ run.Completes o) ∨
        (s.step config i).2.Failed := by
  obtain ⟨w, hl⟩ := Loop.of_reachable hreach hloop
  refine ⟨fun running hactive hreply => ?_, ⟨hl.tied.slots, fun run hrun => ?_⟩, fun i => ?_⟩
  · obtain ⟨r, rfl, ht⟩ := hl.running hactive
    cases ht with
    | standard _ _ _ _ _ _ _ h => exact h hreply
  · obtain ⟨r, rfl, ht⟩ := hl.running hrun
    cases ht with
    | direct running r h hh => exact ⟨_, rfl, hh.owns h⟩
    | standard running scheduled r h hactive hh =>
      exact ⟨.standard scheduled, by simp [ActiveRun.handle, hactive], hh.owns h⟩
  cases i with
  | close =>
    refine ⟨fun client => by simp [State.step], fun run hrun => .inl ⟨run, ?_, rfl⟩⟩
    have hsame : (s.step config .close).2.active = s.active := s.close_active
    rw [hsame]
    exact hrun
  | turn o =>
    obtain ⟨w', hm⟩ := turn_moves hl hloop config o
    refine ⟨fun client => ⟨fun hmem => ?_, fun hmem => ?_⟩, fun run hrun => ?_⟩
    · exact absurd (hm.quiet _ hmem) (by simp)
    · exact absurd (hm.quiet _ hmem) (by simp)
    rcases hm.stays hl hrun with hf | ⟨hphase, hc⟩ | ⟨run', hrun', hh⟩
    · exact .inr (.inr hf)
    · exact .inr (.inl ⟨o, rfl, hphase, hc⟩)
    · exact .inl ⟨run', hrun', hh⟩

/-! ### A run with one standard client -/

/-- The configuration of the production daemon. -/
def standardConfig : StandardConnectionConfig := ⟨⟨.every, 100, 5, by decide⟩⟩

/-- The state in which `run_event_loop` is entered. -/
def entered : State :=
  { service := ⟨{ cancellation := { identity := 0 } }, ⟨idleTimeout, .ofNanos 0, none, 1, false⟩, 1⟩ }

lemma entered_init : (eventLoop standardConfig).init entered := ⟨0, 1, _, rfl, rfl⟩

/-- Nothing is ready and nothing is received; every peer is root. -/
def quiet : Observation where
  elapsed := .ofNanos 0
  cancelled := false
  ready := .ok false
  standardReady := .ok false
  accepted := .error .wouldBlock
  credentials := .ok ⟨1, rootUid, 0⟩
  policy := .error .missingOwner
  reception := ⟨.ok (), .error eagain⟩
  resolve := fun _ => .error .notFound
  spawned := true
  peerClosed := .ok false
  transmission := ⟨.ok (), .error eagain⟩
  worker := ⟨.error .empty, false, true⟩
  standardWorker := ⟨.error .empty, false, true⟩

def accepting (client : Client) : Observation :=
  { quiet with standardReady := .ok true, accepted := .ok client }

def receiving (packet : Packet) : Observation :=
  { quiet with reception := ⟨.ok (), .ok ⟨packet, false, true, 0⟩⟩ }

def sending (length : ℕ) : Observation := { quiet with transmission := ⟨.ok (), .ok length⟩ }

/-- A standard client connects, opens the device and is told so. -/
def opens : List Input :=
  [.turn quiet, .turn quiet, .turn (accepting 7), .turn quiet, .turn quiet,
    .turn (receiving (magic ++ [fingerprintVersion, 0x02, 0, 0, 0, 0, 0, 0])), .turn quiet,
    .turn quiet, .turn quiet, .turn quiet, .turn (sending 12), .turn quiet, .turn quiet,
    .turn quiet, .turn quiet, .turn quiet]

/-- It asks for the list of identities. -/
def lists : List Input :=
  [.turn quiet, .turn quiet, .turn quiet, .turn quiet,
    .turn (receiving (magic ++ [fingerprintVersion, 0x03, 0, 0, 0, 0, 0, 0]))]

/-- The list is being read for client 7. -/
def listing : State := (eventLoop standardConfig).final entered (opens ++ lists)

lemma listing_reachable : (eventLoop standardConfig).Reachable listing := by
  have hrun : (eventLoop standardConfig).Allowed entered (opens ++ lists) := by decide +kernel
  exact ⟨entered, _, entered_init, hrun.run⟩

theorem loop_state_invariants_listing :
    listing.active.isSome = true ∧ listing.service.workers.active.isSome = true := by
  have hactive : listing.active.isSome = true := by decide +kernel
  have h := loop_state_invariants listing_reachable (by decide +kernel)
  exact ⟨hactive, h.2.1.1 ▸ hactive⟩

/-- While the loop runs no worker has been lost.  A step goes on, stops with an error in one of the
situations of `Fault`, or returns because nothing is left to do. -/
theorem loop_ends_without_work {config : StandardConnectionConfig} {s : State}
    (hreach : (eventLoop config).Reachable s) (hloop : s.Looping) (o : Observation) :
    s.service.workers.poisoned = false ∧ ((s.turn config o).2.Looping ∨
      (s.turn config o).2.Failed ∧ Fault s o ∨
      Exits s ∧ s.turn config o = ([], { s with phase := .returned (.ok ()) })) := by
  obtain ⟨w, hl⟩ := Loop.of_reachable hreach hloop
  obtain ⟨w', hm⟩ := turn_moves hl hloop config o
  refine ⟨hl.sound, (hm.returns hloop).imp_right (Or.imp_right ?_)⟩
  rintro ⟨hexits, heffects, hs⟩
  exact ⟨hexits, Prod.ext heffects hs⟩

/-- While the list is being read a quiet step goes on. -/
theorem loop_ends_without_work_listing : listing.active.isSome = true ∧
    listing.service.workers.poisoned = false ∧
    (listing.turn standardConfig quiet).2.Looping := by
  have hphase : listing.phase = .processStandard := by decide +kernel
  have hroom : listing.service.HasRoom listing.now := ⟨by decide +kernel, by decide +kernel⟩
  obtain ⟨hsound, hstep⟩ := loop_ends_without_work listing_reachable (by decide +kernel) quiet
  refine ⟨by decide +kernel, hsound, ?_⟩
  rcases hstep with hloops | ⟨-, hfault⟩ | ⟨hexits, -⟩
  · exact hloops
  · cases hfault with
    | exhausted _ hfull => exact absurd hroom hfull
    | receive _ hfails =>
      obtain ⟨error, hreceive, hwould, -⟩ := hfails
      exact absurd (Except.error.inj hreceive).symm hwould
    | listener h | worker h | grace h => simp [hphase] at h
  · simp [Exits, hphase] at hexits

end Daemon

end T1Bridge
