import T1Bridge.Auth.DaemonRun

/-! # Isolation between the clients of the daemon

A step of the loop that handles one client leaves what the daemon holds for every other
client as it was (`others`), and does not touch another client's operation.  The one
exception is made on purpose: the fixed cancellation request of root on the direct socket
cancels whichever operation is active.  If the step finds the client gone, the connection
is dropped and an operation of this client is cancelled, or awaited when its worker has
already closed the registration.

The result is **`clients_are_isolated`**.  It assumes of a receive on a standard connection
that it yields a packet, nothing yet, a truncated packet or the end of the connection. -/

namespace T1Bridge

open StandardSocketConnection (discardReply flushReply hasPendingReply receiveAndDispatch)

variable {c : StandardSocketConnection}

namespace Daemon

/-- The connections, replies and the run that the daemon holds. -/
structure Holdings where
  connections : List TimedConnection
  pending : List TimedConnection
  standardConnections : List TimedStandardConnection
  standardPending : List TimedStandardConnection
  replies : List TimedReply
  repliesPending : List TimedReply
  active : Option ActiveRun

/-- What the daemon holds for other clients than this one. -/
def State.others (s : State) (client : Client) : Holdings where
  connections := s.connections.filter fun timed => timed.client ≠ client
  pending := s.pending.filter fun timed => timed.client ≠ client
  standardConnections := s.standardConnections.filter fun timed => timed.connection.client ≠ client
  standardPending := s.standardPending.filter fun timed => timed.connection.client ≠ client
  replies := s.replies.filter fun timed => timed.reply.client ≠ client
  repliesPending := s.repliesPending.filter fun timed => timed.reply.client ≠ client
  active := s.active.filter fun run => run.client ≠ client

/-- The clients of all idle connections and waiting replies. -/
def State.held (s : State) : Multiset Client :=
  ↑(s.connections.map TimedConnection.client) + ↑(s.pending.map TimedConnection.client) +
    ↑(s.standardConnections.map fun timed => timed.connection.client) +
    ↑(s.standardPending.map fun timed => timed.connection.client) +
    ↑(s.replies.map fun timed => timed.reply.client) +
    ↑(s.repliesPending.map fun timed => timed.reply.client)

/-- The send failed for good. -/
def SendFails (t : Transmission) (packet : Packet) : Prop :=
  ∃ error, send t packet = .error error ∧ error ≠ .wouldBlock ∧ error ≠ .interrupted

/-- The receive or send that the step makes for a client without operation fails. -/
inductive IdleFails (s : State) (o : Observation) : Prop
  | direct (timed : TimedConnection) (rest : List TimedConnection)
      (hphase : s.phase = .process) (hlist : s.connections = timed :: rest)
      (hlive : ¬ timed.deadline ≤ s.now) (hfails :
        (∃ error, (dispatchConnection o.credentials o.policy o.reception s.service s.now).1 =
          .error error) ∨
        (dispatchConnection o.credentials o.policy o.reception s.service s.now).1 = .ok .closed)
  | standard (timed : TimedStandardConnection) (rest : List TimedStandardConnection)
      (hphase : s.phase = .processStandard) (hlist : s.standardConnections = timed :: rest)
      (hlive : passed s.now timed.requestDeadline = false ∧
        passed s.now timed.replyDeadline = false) (hfree : timed.connection.outbound = none)
      (hclosed : receive o.reception maxPacketSize = .error .peerClosed)
  | standardReply (timed : TimedStandardConnection) (rest : List TimedStandardConnection)
      (hphase : s.phase = .flushStandard) (hlist : s.standardConnections = timed :: rest)
      (hlive : passed s.now timed.replyDeadline = false) (reply : StandardReply)
      (hreply : timed.connection.outbound = some reply)
      (hfails : SendFails o.transmission reply.packet)
  | reply (timed : TimedReply) (rest : List TimedReply) (hphase : s.phase = .flush)
      (hlist : s.replies = timed :: rest) (hlive : ¬ timed.deadline ≤ s.now)
      (hfails : SendFails o.transmission timed.reply.response.encode)

/-- The probe, receive or send that the step makes for the client of the active run fails. -/
inductive ActiveFails (s : State) (o : Observation) : Prop
  | direct (running : ActiveDirectRun) (hphase : s.phase = .observe)
      (hactive : s.active = some (.direct running)) (hknown : running.disconnectObserved = false)
      (hgone : o.peerClosed ≠ .ok false)
  | standard (running : ActiveStandardRun) (hphase : s.phase = .control)
      (hactive : s.active = some (.standard running)) (hknown : running.disconnectObserved = false)
      (hfree : running.connection.outbound = none)
      (hclosed : receive o.reception maxPacketSize = .error .peerClosed)
  | reply (running : ActiveStandardRun) (hphase : s.phase = .flushActive)
      (hactive : s.active = some (.standard running)) (hknown : running.disconnectObserved = false)
      (hlive : passed s.now running.replyDeadline = false) (reply : StandardReply)
      (hreply : running.connection.outbound = some reply)
      (hfails : SendFails o.transmission reply.packet)

/-- The operation still owns the worker slot and is cancelled, or its worker has closed the
registration and is awaited. -/
def CancelledOrAwaited (service : BrokerServiceScheduler) (h : Scheduled) : Prop :=
  service.ownsScheduled h = true ∧ (service.coordinator.state.isCancelled h.token = true ∨
      service.coordinator.cancellation.registration = none)

section Isolation

variable {s s' : State} {o : Observation} {w w' : Option Running} {effects : List Effect}
  {k : Client}

lemma handled_direct {timed : TimedConnection} {rest : List TimedConnection}
    (hk : s.handled = some k) (hphase : s.phase = .process)
    (hlist : s.connections = timed :: rest) : timed.client = k := by
  simpa [State.handled, hphase, hlist] using hk

lemma handled_standard {timed : TimedStandardConnection} {rest : List TimedStandardConnection}
    (hk : s.handled = some k) (hphase : s.phase = .processStandard ∨ s.phase = .flushStandard)
    (hlist : s.standardConnections = timed :: rest) : timed.connection.client = k := by
  rcases hphase with hphase | hphase <;> simpa [State.handled, hphase, hlist] using hk

lemma handled_reply {timed : TimedReply} {rest : List TimedReply} (hk : s.handled = some k)
    (hphase : s.phase = .flush) (hlist : s.replies = timed :: rest) : timed.reply.client = k := by
  simpa [State.handled, hphase, hlist] using hk

variable {run : ActiveRun}

/-- In the phases for the active run its client is the one that is handled. -/
lemma handled_active (hk : s.handled = some k)
    (hphase : s.phase.next.isSome = true) (hactive : s.active = some run) : run.client = k := by
  cases hp : s.phase with
  | observe | control | flushActive =>
    cases run <;> simp [State.handled, State.activeStandard, hp, hactive] at hk
    exact hk
  | pollWorker => simp [State.handled, hp] at hk
  | _ => simp [hp] at hphase

lemma State.others_replace {run' : ActiveRun} (hactive : s.active = some run)
    (hclient : run.client = k) (hclient' : run'.client = k) (service : BrokerServiceScheduler)
    (phase : Phase) :
    ({ s with service := service, active := some run', phase := phase }).others k = s.others k := by
  have hnone : ∀ {run : ActiveRun}, run.client = k →
      (some run).filter (fun run => decide (run.client ≠ k)) = none := by
    intro run hrun
    simp [hrun]
  simp only [State.others, hactive, hnone hclient, hnone hclient']

lemma handled_looping (hk : s.handled = some k) : s.Looping := by
  unfold State.Looping
  cases hp : s.phase with
  | returned => simp [State.handled, hp] at hk
  | _ => rfl

/-- A step that handles client `k` leaves the holdings of every other client alone. -/
lemma Moved.others (hm : Moved s o w effects s' w') (h : Loop s w) (hk : s.handled = some k)
    (hok : ¬ s'.Failed) : s'.others k = s.others k := by
  have hidle : w = none → s.active = none := by
    rintro rfl
    exact h.tied.active_of_none
  cases hm with
  | administered ha =>
    rw [ha.unhandled] at hk
    cases hk
  | failed hf => exact absurd hf hok
  | exited => rfl
  | shutdownBegun _ _ _ hphase | deadlineReported hphase | directCompleted _ hphase
  | standardCompleted _ _ hphase => simp [State.handled, hphase] at hk
  | directDropped hphase hlist | directWaiting hphase hlist | directReplied hphase hlist
  | rootCancelled hphase hlist =>
    have := handled_direct hk hphase hlist
    simp [State.others, State.queueReply, hlist, this]
  | directStarted hphase hlist | directAbandoned hphase hlist =>
    have := handled_direct hk hphase hlist
    simp [State.others, State.queueReply, hlist, this, hidle rfl, ActiveRun.client]
  | standardDropped hphase hlist | standardKept hphase hlist =>
    have := handled_standard hk hphase hlist
    simp [State.others, State.keepStandard, hlist, this]
  | standardSent hphase hlist =>
    have := handled_standard hk (.inr hphase) hlist
    simp [State.others, State.keepStandard, hlist, this, discardReply]
  | standardAnswered hphase hlist =>
    have := handled_standard hk (.inl hphase) hlist
    simp [State.others, State.keepStandard, hlist, this]
  | standardStarted hphase hlist | standardRefused hphase hlist =>
    have := handled_standard hk (.inl hphase) hlist
    simp [State.others, State.keepStandard, hlist, this, hidle rfl, ActiveRun.client]
  | stayed | ownCancelled => rfl
  | @disconnected _ run _ _ hactive hphase =>
    have hclient := handled_active hk (Option.isSome_of_eq_some hphase) hactive
    exact State.others_replace hactive hclient (run.disconnected_client.trans hclient) _ _
  | replyQueued hactive hphase =>
    have hclient := handled_active hk (Option.isSome_of_eq_some hphase) hactive
    refine State.others_replace hactive hclient ?_ _ _
    exact hclient
  | replySent hactive hphase =>
    have hclient := handled_active hk (by simp [hphase]) hactive
    refine State.others_replace hactive hclient ?_ _ _
    exact hclient
  | replyTaken hphase hlist | replyKept hphase hlist =>
    have := handled_reply hk hphase hlist
    simp [State.others, hlist, this]

/-- It changes the operation of another client only by root's cancellation request. -/
lemma Moved.service (hm : Moved s o w effects s' w') (h : Loop s w) (hk : s.handled = some k)
    (hok : ¬ s'.Failed) (hactive : s.active = some run)
    (hother : run.client ≠ k) : s'.service = s.service ∨
      s.phase = .process ∧ RootCancels o.credentials o.reception ∧
        ∃ r, s.service.Represents (some r) ∧ s'.service = s.service.mark r.session.event := by
  have hidle : w ≠ none := by
    rintro rfl
    rw [h.tied.active_of_none] at hactive
    cases hactive
  have hphases : ¬ s.phase.next.isSome = true :=
    fun hp => hother (handled_active hk hp hactive)
  cases hm with
  | administered ha => exact .inl ha.service
  | failed hf => exact absurd hf hok
  | shutdownBegun _ _ _ hphase | deadlineReported hphase | directCompleted _ hphase
  | standardCompleted _ _ hphase => simp [State.handled, hphase] at hk
  | rootCancelled hphase _ hroot =>
    exact .inr ⟨hphase, hroot, _, h.tied.represents, rfl⟩
  | directStarted | directAbandoned | standardStarted | standardRefused => exact absurd rfl hidle
  | disconnected _ hphase => exact absurd (Option.isSome_of_eq_some hphase) hphases
  | ownCancelled hphase => exact absurd (by simp [hphase]) hphases
  | _ => exact .inl rfl

/-! ### A client that is gone -/

lemma receiveAndDispatch_closed (hfree : c.outbound = none) {reception : Reception}
    (hclosed : receive reception maxPacketSize = .error .peerClosed)
    (service : BrokerServiceScheduler) (policy : Except EnrollmentOwnerError AccessPolicy)
    (resolve : Resolve) (now : Duration) :
    c.receiveAndDispatch service reception policy resolve now = (.ok .closed, c, service) := by
  simp [receiveAndDispatch, hfree, hclosed]

lemma flushReply_fails {reply : StandardReply} (hreply : c.outbound = some reply)
    {transmission : Transmission} (hfails : SendFails transmission reply.packet) :
    ∃ error, c.flushReply transmission = (.error error, c.discardReply) := by
  obtain ⟨error, hsend, hwould, hinterrupted⟩ := hfails
  refine ⟨.socket error, ?_⟩
  unfold flushReply
  rw [hreply]
  dsimp only
  rw [hsend]
  cases error <;> first | rfl | exact absurd rfl hwould | exact absurd rfl hinterrupted

/-- A connection or reply whose client is gone is dropped, and nothing else happens. -/
lemma IdleFails.dropped (hf : IdleFails s o) (hk : s.handled = some k)
    (config : StandardConnectionConfig) :
    s.held = k ::ₘ (s.turn config o).2.held ∧ (s.turn config o).2.active = s.active := by
  cases hf with
  | direct timed rest hphase hlist hlive hfails =>
    have hclient := handled_direct hk hphase hlist
    have hstep : ∃ service, (s.turn config o).2 =
        { s with connections := rest, service := service } := by
      simp only [State.turn, hphase, State.processConnections, hlist, hlive]
      generalize dispatchConnection o.credentials o.policy o.reception s.service s.now = result
        at hfails
      obtain ⟨dispatch, service⟩ := result
      rcases hfails with ⟨error, rfl⟩ | rfl
      · exact ⟨service, rfl⟩
      · exact ⟨service, rfl⟩
    obtain ⟨service, hstep⟩ := hstep
    rw [hstep]
    simp [State.held, hlist, hclient]
  | standard timed rest hphase hlist hlive hfree hclosed =>
    have hclient := handled_standard hk (.inl hphase) hlist
    have hstep : (s.turn config o).2 = { s with standardConnections := rest } := by
      simp [State.turn, hphase, State.processStandardConnections, hlist, hlive.2, hasPendingReply,
        hfree, receiveAndDispatch_closed hfree hclosed]
    rw [hstep]
    simp [State.held, hlist, hclient, ← Multiset.cons_coe]
  | standardReply timed rest hphase hlist hlive reply hreply hfails =>
    have hclient := handled_standard hk (.inr hphase) hlist
    obtain ⟨error, hflush⟩ := flushReply_fails hreply hfails
    have hstep : (s.turn config o).2 = { s with standardConnections := rest } := by
      simp [State.turn, hphase, State.flushStandardReplies, hlist, hlive,
        hasPendingReply, hreply, hflush]
    rw [hstep]
    simp [State.held, hlist, hclient, ← Multiset.cons_coe]
  | reply timed rest hphase hlist hlive hfails =>
    have hclient := handled_reply hk hphase hlist
    obtain ⟨error, hsend, hwould, hinterrupted⟩ := hfails
    have hstep : (s.turn config o).2 = { s with replies := rest } := by
      simp only [State.turn, hphase, State.flushReplies, hlist, hlive, if_false, hsend]
    rw [hstep]
    simp [State.held, hlist, hclient, ← Multiset.cons_coe]

/-- An operation whose client is gone is cancelled, or its worker is awaited. -/
lemma Tied.cancelledOrAwaited {service : BrokerServiceScheduler} {r : Running}
    (ht : Tied service (some run) (some r)) :
    ∃ h, run.disconnected.handle = some h ∧ CancelledOrAwaited (service.delivered r).2 h := by
  have hrep := ht.disconnected.represents
  have hstop : ∀ token, r.delivered.session.token = token →
      (service.delivered r).2.coordinator.state.isCancelled token = true ∨
        (service.delivered r).2.coordinator.cancellation.registration = none := by
    have hregistration := hrep.session.2.2.1
    unfold BrokerState.isCancelled
    rw [hrep.session.active_eq]
    cases haccepting : r.session.accepting with
    | true => simp [Running.delivered, haccepting]
    | false =>
      rw [hregistration]
      simp [Running.delivered, haccepting, Session.registration]
  cases run with
  | direct running =>
    cases ht.disconnected with
    | direct _ _ _ hh => exact ⟨_, rfl, hh.owns hrep, hstop _ hh.1.1⟩
  | standard running =>
    cases ht.disconnected with
    | standard _ scheduled _ _ hactive hh =>
      exact ⟨.standard scheduled, congrArg (Option.map Scheduled.standard) hactive,
        hh.owns hrep, hstop _ hh.1.1⟩

lemma ActiveFails.stopped (hf : ActiveFails s o) (hl : Loop s w)
    (hk : s.handled = some k) (config : StandardConnectionConfig) :
    ∃ run h, (s.turn config o).2.active = some run ∧ run.client = k ∧
      run.disconnectObserved = true ∧ run.handle = some h ∧
      CancelledOrAwaited (s.turn config o).2.service h := by
  -- in all three cases the step ends with the disconnected run and a delivery to its operation
  have hfinish : ∀ {run : ActiveRun} {r : Running}, Tied s.service (some run) (some r) →
      run.client = k → (s.turn config o).2.service = (s.service.delivered r).2 →
      (s.turn config o).2.active = some run.disconnected →
      ∃ run h, (s.turn config o).2.active = some run ∧ run.client = k ∧
        run.disconnectObserved = true ∧ run.handle = some h ∧
        CancelledOrAwaited (s.turn config o).2.service h := by
    intro run r ht hclient hservice hactive
    obtain ⟨h, hhandle, hstop⟩ := ht.cancelledOrAwaited
    refine ⟨run.disconnected, h, hactive, run.disconnected_client.trans hclient,
      by cases run <;> rfl, hhandle, ?_⟩
    rw [hservice]
    exact hstop
  cases hf with
  | direct running hphase hactive hknown hgone =>
    obtain ⟨r, rfl, ht⟩ := hl.running hactive
    have hstep := observeActiveDisconnect_gone hactive ht hknown hgone
    have hturn : s.turn config o = ([], s.observeActiveDisconnect o) := by
      simp [State.turn, hphase]
    refine hfinish ht (handled_active hk (by simp [hphase]) hactive) ?_ ?_ <;>
    rw [hturn, hstep]
  | standard running hphase hactive hknown hfree hclosed =>
    obtain ⟨r, rfl, ht⟩ := hl.running hactive
    have hturn : s.turn config o =
        ([], State.disconnectStandardRun { s with phase := .decide } running) := by
      obtain ⟨connection, job, observed, deadline⟩ := running
      obtain rfl : observed = false := hknown
      dsimp only at hfree
      simp [State.turn, hphase, State.processActiveStandardControl, hactive,
        hasPendingReply, hfree, receiveAndDispatch_closed hfree hclosed]
    refine hfinish ht (handled_active hk (by simp [hphase]) hactive) ?_ ?_ <;>
    rw [hturn, disconnectStandardRun_eq (s := { s with phase := .decide }) ht rfl]
  | reply running hphase hactive hknown hlive reply hreply hfails =>
    obtain ⟨r, rfl, ht⟩ := hl.running hactive
    obtain ⟨error, hflush⟩ := flushReply_fails hreply hfails
    have hturn : (s.turn config o).2 = State.disconnectStandardRun { s with phase := .pollWorker }
        { running with connection := running.connection.discardReply } := by
      obtain ⟨connection, job, observed, deadline⟩ := running
      obtain rfl : observed = false := hknown
      dsimp only at hlive hreply hflush
      simp [State.turn, hphase, State.flushActiveStandardReply, hactive, hlive,
        hasPendingReply, hreply, hflush]
    have hstep := disconnectStandardRun_eq (s := { s with phase := .pollWorker }) ht
      (show { running with connection := running.connection.discardReply }.connection.connection =
        running.connection.connection from rfl)
    refine hfinish ht (handled_active hk (by simp [hphase]) hactive) ?_ ?_
    · rw [hturn, hstep]
    · rw [hturn, hstep]
      rfl

end Isolation

/-- **Isolation between clients.**  Whatever a client does, on either socket, the step that
handles it keeps the loop running and leaves the connections, replies and the run of every
other client as they are.  It cancels the operation of another client only if it is root's
cancellation request on the direct socket.  If its receive, send or probe fails, its
connection is dropped and its operation is cancelled or awaited.  The service ends only when
an operation request finds the lease counter or the clock exhausted. -/
theorem clients_are_isolated {config : StandardConnectionConfig} {s : State}
    (hreach : (eventLoop config).Reachable s) {k : Client} (hk : s.handled = some k)
    (o : Observation) (hreceive : s.phase = .processStandard ∨ s.phase = .control →
      ¬ ReceiveFails o.reception maxPacketSize) :
    (s.turn config o).2.Failed ∧ Requests s o ∧ ¬ s.service.HasRoom s.now ∨ (s.turn config o).2.Looping ∧
    (s.turn config o).2.others k = s.others k ∧
    (∀ run ∈ s.active, run.client ≠ k → (s.turn config o).2.service = s.service ∨
      s.phase = .process ∧ RootCancels o.credentials o.reception ∧
        ∃ r, s.service.Represents (some r) ∧
          (s.turn config o).2.service = s.service.mark r.session.event) ∧
    (IdleFails s o → s.held = k ::ₘ (s.turn config o).2.held ∧
      (s.turn config o).2.active = s.active) ∧
    (ActiveFails s o → ∃ run h, (s.turn config o).2.active = some run ∧ run.client = k ∧
      run.disconnectObserved = true ∧ run.handle = some h ∧
      CancelledOrAwaited (s.turn config o).2.service h) := by
  have hloop := handled_looping hk
  obtain ⟨w, hl⟩ := Loop.of_reachable hreach hloop
  obtain ⟨w', hm⟩ := turn_moves hl hloop config o
  rcases hm.returns hloop with hlooping | ⟨hfailed, hfault⟩ | ⟨hexits, -⟩
  · have hok := hlooping.not_failed
    exact .inr ⟨hlooping, hm.others hl hk hok,
      fun run hrun hother => hm.service hl hk hok hrun hother,
      fun hf => hf.dropped hk config, fun hf => hf.stopped hl hk config⟩
  · refine Or.inl ⟨hfailed, ?_⟩
    cases hfault with
    | listener hp => rcases hp with hp | hp | hp <;> simp [State.handled, hp] at hk
    | receive hp hfails => exact absurd hfails (hreceive hp)
    | exhausted hrequests hroom => exact ⟨hrequests, hroom⟩
    | worker hp | grace hp => simp [State.handled, hp] at hk
  · rcases hexits with ⟨hp, -⟩ | ⟨hp, -⟩ <;> simp [State.handled, hp] at hk

/-! ### Two clients -/

/-- The list of identities is being read for client 7 and the loop comes round. -/
def rests : List Input := List.replicate 9 (.turn quiet)

/-- A second client connects to the direct socket. -/
def connects : List Input :=
  [.turn quiet, .turn { quiet with ready := .ok true, accepted := .ok 8 }, .turn quiet, .turn quiet]

/-- Client 7 has the active run, and the first request of client 8 is read next. -/
def shared : State :=
  (eventLoop standardConfig).final entered (opens ++ lists ++ rests ++ connects)

lemma shared_reachable : (eventLoop standardConfig).Reachable shared := by
  have hrun : (eventLoop standardConfig).Allowed entered (opens ++ lists ++ rests ++ connects) := by
    decide +kernel
  exact ⟨entered, _, entered_init, hrun.run⟩

/-- Client 8 is gone with unread data. -/
def resets : Observation := { quiet with reception := ⟨.ok (), .error econnreset⟩ }

theorem clients_are_isolated_reset : shared.active.map ActiveRun.client = some 7 ∧
    (shared.turn standardConfig resets).2.others 8 = shared.others 8 := by
  have hk : shared.handled = some 8 := by decide +kernel
  have hphase : ¬ (shared.phase = .processStandard ∨ shared.phase = .control) := by decide +kernel
  have hroom : shared.service.HasRoom shared.now := ⟨by decide +kernel, by decide +kernel⟩
  refine ⟨by decide +kernel, ?_⟩
  rcases clients_are_isolated shared_reachable hk resets (fun hp => absurd hp hphase) with
    ⟨-, -, hfull⟩ | ⟨-, hothers, -⟩
  · exact absurd hroom hfull
  · exact hothers

/-- Client 8 is root and sends the fixed cancellation request. -/
def cancels : Observation := receiving Request.cancel.encode

theorem root_cancels_other_client :
    (eventLoop standardConfig).Reachable shared ∧ shared.handled = some 8 ∧
    shared.active.map ActiveRun.client = some 7 ∧
    shared.service.coordinator.state.active = some ⟨⟨1⟩, false⟩ ∧
    (shared.turn standardConfig cancels).2.service.coordinator.state.active = some ⟨⟨1⟩, true⟩ :=
  ⟨shared_reachable, by decide +kernel, by decide +kernel, by decide +kernel, by decide +kernel⟩

end Daemon

end T1Bridge
