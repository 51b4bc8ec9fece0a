import T1Bridge.Auth.Socket
import T1Bridge.Auth.Worker

/-! # The event loop of the authentication daemon

One process serves both sockets and one operation worker.  The loop body is a fixed
sequence of helpers, of which five go through a list of connections or replies.  It is
modelled as a machine with a program counter (`Phase`): one step is one call of a helper,
or one connection or reply of a helper that loops, so everything the environment may answer
differently each time (the clock, the signal, readiness, packets, send results, the worker's
channel) is one `Observation` per step.  The worker thread acts between the steps: it may
close its cancellation registration (`Input.close`).

A `Vec` that the source uses as a stack is a list with its last element first. -/

namespace T1Bridge

def idleTimeout : Duration := .ofSecs 30

def requestTimeout : Duration := .ofMillis 250

def replyTimeout : Duration := .ofMillis 250

def shutdownGrace : Duration := .ofSecs 2

def maxPendingConnections : ℕ := 64

def maxAcceptsPerTick : ℕ := 32

inductive AuthDaemonError where
  | activation | lifecycle | listener | scheduler | workerLost | shutdown
deriving DecidableEq

/-- A direct client whose request is awaited. -/
structure TimedConnection where
  client : Client
  deadline : Duration

structure PendingBrokerReply where
  client : Client
  response : Response

/-- A direct client's reply that is still to be sent. -/
structure TimedReply where
  reply : PendingBrokerReply
  deadline : Duration

/-- A standard connection that no worker runs for. -/
structure TimedStandardConnection where
  connection : StandardSocketConnection
  requestDeadline : Option Duration
  replyDeadline : Option Duration

/-- A direct client with the handle of its operation. -/
structure ActiveBrokerSocketSession where
  client : Client
  scheduled : ScheduledAuthentication

/-- A direct client whose worker runs. -/
structure ActiveDirectRun where
  session : ActiveBrokerSocketSession
  disconnectObserved : Bool

/-- A standard connection whose worker runs. -/
structure ActiveStandardRun where
  connection : StandardSocketConnection
  job : StandardWorkerJob
  disconnectObserved : Bool
  replyDeadline : Option Duration

/-- The one operation that the daemon runs. -/
inductive ActiveRun where
  | direct (running : ActiveDirectRun)
  | standard (running : ActiveStandardRun)

namespace ActiveRun

def client : ActiveRun → Client
  | direct running => running.session.client
  | standard running => running.connection.client

/-- The scheduler's handle of the run. -/
def handle : ActiveRun → Option Scheduled
  | direct running => some (.authentication running.session.scheduled)
  | standard running => running.connection.connection.active.map .standard

def disconnectObserved : ActiveRun → Bool
  | direct running => running.disconnectObserved
  | standard running => running.disconnectObserved

variable (run : ActiveRun) (service : BrokerServiceScheduler)

def deadlineExpired : Bool × BrokerServiceScheduler :=
  match run with
  | direct running => service.deadlineExpired running.session.scheduled
  | standard running => running.connection.deadlineExpired service

def isActiveIn : Bool :=
  match run with
  | direct running => service.owns running.session.scheduled
  | standard running => running.connection.isActiveIn service

def workerLost : BrokerServiceScheduler :=
  match run with
  | direct running => (service.workerLost running.session.scheduled).2
  | standard running => (running.connection.workerLost service).2.2

/-- The worker thread closes the cancellation registration of its own operation. -/
def closeCancellation : BrokerServiceScheduler :=
  match run with
  | direct running =>
    let active := running.session.scheduled.authentication
    (service.closeCancellation active.operation.token active.event active.slot).2
  | standard running =>
    let active := running.job.operation
    (service.closeCancellation active.operation.token active.event active.slot).2

end ActiveRun

/-- The three observations of one poll of a worker thread. -/
structure Polled (π χ : Type) where
  received : Except TryRecvError (WorkerEvent π χ)
  isFinished : Bool
  joined : Bool

def Polled.poll {π χ : Type} (p : Polled π χ) : WorkerPoll π χ :=
  T1Bridge.poll p.received p.isFinished p.joined

namespace Daemon

/-- The helper of the loop body that runs next. -/
inductive Phase where
  | top | accept | acceptStandard | process | processStandard | observe | control | decide
  | flushStandard | flushActive | pollWorker | flush | test
  | returned (result : Except AuthDaemonError Unit)
deriving DecidableEq

def Phase.isReturned : Phase → Bool
  | returned _ => true
  | _ => false

/-- The answers of the environment to one step; each helper reads the ones it asks for. -/
structure Observation where
  elapsed : Duration
  cancelled : Bool
  ready : Except SeqPacketError Bool
  standardReady : Except SeqPacketError Bool
  accepted : Except SeqPacketError Client
  credentials : Except SeqPacketError PeerCredentials
  policy : Except EnrollmentOwnerError AccessPolicy
  reception : Reception
  resolve : Resolve
  spawned : Bool
  peerClosed : Except SeqPacketError Bool
  transmission : Transmission
  worker : Polled Empty AuthenticationCompletion
  standardWorker : Polled EnrollProgress StandardCompletion

/-- The worker closes its own cancellation, or the loop makes a step. -/
inductive Input where
  | close
  | turn (o : Observation)

/-- What a step reports: the branches the source takes for dead, a completion whose client
is still connected with the reply it is owed, and how a reply left its queue. -/
inductive Effect where
  | secondStart (client : Client)
  | socketFailed (client : Client) (error : StandardSocketError)
  | completed (client : Client) (reply : Packet)
  | sent (client : Client) (reply : Packet)
  | sendFailed (client : Client) (reply : Packet)
  | expired (client : Client) (reply : Packet)
deriving DecidableEq

/-- The variables of the loop, with the iteration counter and the lists that a helper
rebuilds. -/
structure State where
  service : BrokerServiceScheduler
  connections : List TimedConnection := []
  standardConnections : List TimedStandardConnection := []
  replies : List TimedReply := []
  active : Option ActiveRun := none
  shutdownDeadline : Option Duration := none
  now : Duration := .ofNanos 0
  accepts : ℕ := 0
  pending : List TimedConnection := []
  standardPending : List TimedStandardConnection := []
  repliesPending : List TimedReply := []
  phase : Phase := .top

/-- `deadline.is_some_and(|deadline| now >= deadline)`. -/
def passed (now : Duration) (deadline : Option Duration) : Bool :=
  deadline.any fun deadline => deadline ≤ now

/-- The unsent reply of a connection, with its client. -/
def unsent (c : StandardSocketConnection) : List (Client × Packet) :=
  c.outbound.toList.map fun reply => (c.client, reply.packet)

/-- One effect for the unsent reply of a connection, if there is one. -/
def report (effect : Client → Packet → Effect) (c : StandardSocketConnection) : List Effect :=
  (unsent c).map fun owed => effect owed.1 owed.2

namespace State

variable (s : State)

def fail (error : AuthDaemonError) : State :=
  { s with phase := .returned (.error error) }

def queueReply (client : Client) (response : Response) : State :=
  { s with replies := ⟨⟨client, response⟩, s.now.saturatingAdd replyTimeout⟩ :: s.replies }

variable (timed : TimedStandardConnection)

/-- `pending.push(timed)` of the helpers that rebuild the standard connections. -/
def keepStandard : State :=
  { s with standardPending := timed :: s.standardPending }

/-! ### The helpers, in the order of the loop body -/

/-- The active run, if there is one, is asked to stop. -/
def expireActive : BrokerServiceScheduler :=
  match s.active with
  | none => s.service
  | some run => (run.deadlineExpired s.service).2

def beginShutdown : State :=
  { s with
    shutdownDeadline := some (s.now.saturatingAdd shutdownGrace)
    connections := []
    standardConnections := []
    service := s.expireActive }

variable (o : Observation)

def beginTick : State :=
  let s := { s with now := o.elapsed, accepts := 0 }
  let s := if o.cancelled && s.shutdownDeadline.isNone then s.beginShutdown else s
  { s with phase := if s.shutdownDeadline.isNone then .accept else .observe }

def acceptConnections : State :=
  let next := { s with accepts := 0, phase := .acceptStandard }
  if s.accepts ≥ maxAcceptsPerTick ∨ s.connections.length ≥ maxPendingConnections then next
  else
    match o.ready with
    | .error _ => s.fail .listener
    | .ok false => next
    | .ok true =>
      match o.accepted with
      | .ok client => { s with
          accepts := s.accepts + 1
          connections := ⟨client, s.now.saturatingAdd requestTimeout⟩ :: s.connections }
      | .error .wouldBlock => next
      | .error .interrupted => next
      | .error _ => s.fail .listener

variable (config : StandardConnectionConfig)

def acceptStandardConnections (s : State) (o : Observation) : State :=
  let next := { s with accepts := 0, phase := .process }
  if s.accepts ≥ maxAcceptsPerTick ∨ s.standardConnections.length ≥ maxPendingConnections then
    next
  else
    match o.standardReady with
    | .error _ => s.fail .listener
    | .ok false => next
    | .ok true =>
      match o.accepted with
      | .error .wouldBlock => next
      | .error .interrupted => next
      | .error _ => s.fail .listener
      | .ok client =>
        match StandardSocketConnection.accept client o.credentials config with
        | .ok (some connection) => { s with
            accepts := s.accepts + 1
            standardConnections :=
              ⟨connection, some (s.now.saturatingAdd requestTimeout), none⟩ ::
                s.standardConnections }
        | .ok none => { s with accepts := s.accepts + 1 }
        | .error (.socket .wouldBlock) => next
        | .error (.socket .interrupted) => next
        | .error _ => s.fail .listener

/-- The start of a direct operation; a second one while a run is active ends the service. -/
def startDirect (client : Client) (scheduled : ScheduledAuthentication)
    (spawned : Bool) : List Effect × State :=
  if s.active.isSome then
    let (_, service) := s.service.workerLost scheduled
    ([.secondStart client], { s with service := service }.fail .scheduler)
  else if spawned then ([], { s with active := some (.direct ⟨⟨client, scheduled⟩, false⟩) })
  else
    let (response, service) := s.service.abandon scheduled s.now
    ([], { s with service := service }.queueReply client response)

def processConnections : List Effect × State :=
  match s.connections with
  | [] => ([], { s with connections := s.pending, pending := [], phase := .processStandard })
  | timed :: rest =>
    let s := { s with connections := rest }
    if timed.deadline ≤ s.now then ([], s)
    else
      let (result, service) :=
        dispatchConnection o.credentials o.policy o.reception s.service s.now
      let s := { s with service := service }
      match result with
      | .ok .pending => ([], { s with pending := timed :: s.pending })
      | .ok .closed => ([], s)
      | .error _ => ([], s)
      | .ok (.reply response) => ([], s.queueReply timed.client response)
      | .ok (.start scheduled) => s.startDirect timed.client scheduled o.spawned
      | .ok .terminate => ([], s.fail .scheduler)

/-- A started operation that gets no worker is finished with an error at once. -/
def refuseStart (job : StandardWorkerJob) : List Effect × State :=
  let (result, connection, service) :=
    timed.connection.finishWorker s.service (job.completion (.terminal .error)) s.now
  let s := { s with service := service }
  match result with
  | .error error => ([.socketFailed timed.connection.client error], s.fail .listener)
  | .ok _ =>
    ([], s.keepStandard { timed with
      connection := connection, replyDeadline := some (s.now.saturatingAdd replyTimeout) })

def startStandard (job : StandardWorkerJob) (spawned : Bool) : List Effect × State :=
  if s.active.isSome then
    let (effects, s) := s.refuseStart timed job
    (.secondStart timed.connection.client :: effects, s)
  else if spawned then
    ([], { s with active := some (.standard ⟨timed.connection, job, false, none⟩) })
  else s.refuseStart timed job

def processStandardConnections : List Effect × State :=
  match s.standardConnections with
  | [] => ([], { s with
      standardConnections := s.standardPending, standardPending := [], phase := .observe })
  | timed :: rest =>
    let s := { s with standardConnections := rest }
    if passed s.now timed.replyDeadline then (report .expired timed.connection, s)
    else if passed s.now timed.requestDeadline then ([], s)
    else if timed.connection.hasPendingReply then ([], s.keepStandard timed)
    else
      let (result, connection, service) := timed.connection.receiveAndDispatch s.service
        o.reception o.policy o.resolve s.now
      let s := { s with service := service }
      let timed := { timed with connection := connection }
      match result with
      | .ok .closed => ([], s)
      | .ok .replyQueued =>
        ([], s.keepStandard { timed with
          requestDeadline := none
          replyDeadline := some (s.now.saturatingAdd replyTimeout) })
      | .ok (.start job) => s.startStandard { timed with requestDeadline := none } job o.spawned
      | .ok .pending => ([], s.keepStandard timed)
      | .ok .cancellationPending => ([], s.keepStandard timed)
      | .ok .terminate => ([], s.fail .scheduler)
      | .error error => ([.socketFailed connection.client error], s.fail .scheduler)

def observeActiveDisconnect : State :=
  let next := { s with phase := .control }
  match s.active with
  | some (.direct running) =>
    if running.disconnectObserved then next
    else
      match observeDisconnectResult o.peerClosed s.service running.session.scheduled with
      | (.connected, service) => { next with service := service }
      | (.cancellationDelivered, service) => { next with
          service := service
          active := some (.direct { running with disconnectObserved := true }) }
      | (.cancellationUnavailable, service) =>
        if !service.owns running.session.scheduled then
          { s with service := service }.fail .scheduler
        else { next with
          service := service
          active := some (.direct { running with disconnectObserved := true }) }
  | some (.standard _) => next
  | none => next

variable (running : ActiveStandardRun)

/-- The client of the active run is gone: cancel or await, and drop the reply. -/
def disconnectStandardRun : State :=
  let (delivered, service) := running.connection.clientDisconnected s.service
  let s := { s with service := service }
  if !delivered && !running.connection.isActiveIn service then s.fail .scheduler
  else { s with active := some (.standard { running with
    connection := running.connection.discardReply
    replyDeadline := none
    disconnectObserved := true }) }

def processActiveStandardControl : List Effect × State :=
  let s := { s with phase := .decide }
  match s.active with
  | some (.standard running) =>
    if running.disconnectObserved || running.connection.hasPendingReply then ([], s)
    else
      let (result, connection, service) := running.connection.receiveAndDispatch s.service
        o.reception o.policy o.resolve s.now
      let running := { running with connection := connection }
      let s := { s with service := service, active := some (.standard running) }
      match result with
      | .ok .pending => ([], s)
      | .ok .cancellationPending => ([], s)
      | .ok .closed => ([], s.disconnectStandardRun running)
      | .ok .replyQueued =>
        ([], { s with active := some (.standard { running with
          replyDeadline := some (s.now.saturatingAdd replyTimeout) }) })
      | .ok (.start _) => ([], s.fail .scheduler)
      | .ok .terminate => ([], s.fail .scheduler)
      | .error error => ([.socketFailed connection.client error], s.fail .scheduler)
  | _ => ([], s)

/-- The listeners are asked only while the daemon accepts. -/
def listenersReady : Except SeqPacketError Bool :=
  if s.shutdownDeadline.isNone then do
    let ready ← o.ready
    let standardReady ← o.standardReady
    return ready || standardReady
  else .ok false

/-- `retain_mut` goes through the connections from the first to the last. -/
def enterFlush : State :=
  { s with standardConnections := s.standardConnections.reverse, phase := .flushStandard }

def decideLifecycle : State :=
  match s.listenersReady o with
  | .error _ => s.fail .listener
  | .ok ready =>
    let (decision, service) := s.service.decide s.now
      (ready || !s.connections.isEmpty || !s.standardConnections.isEmpty)
    let s := { s with service := service }
    match decision with
    | .continue => s.enterFlush
    | .cancel _ =>
      match s.active with
      | none => s.fail .scheduler
      | some run =>
        let (delivered, service) := run.deadlineExpired s.service
        let s := { s with service := service }
        if delivered || run.isActiveIn service then s.enterFlush else s.fail .scheduler
    | .exitIdle =>
      if s.active.isNone && s.connections.isEmpty && s.standardConnections.isEmpty &&
          s.replies.isEmpty then { s with phase := .returned (.ok ()) }
      else s.enterFlush
    | .terminate => s.fail .scheduler

def flushStandardReplies : List Effect × State :=
  match s.standardConnections with
  | [] => ([], { s with
      standardConnections := s.standardPending, standardPending := [], phase := .flushActive })
  | timed :: rest =>
    let s := { s with standardConnections := rest }
    if !timed.connection.hasPendingReply then ([], s.keepStandard timed)
    else if passed s.now timed.replyDeadline then (report .expired timed.connection, s)
    else
      match timed.connection.flushReply o.transmission with
      | (.ok true, connection) =>
        (report .sent timed.connection,
          s.keepStandard { timed with connection := connection, replyDeadline := none })
      | (.ok false, connection) => ([], s.keepStandard { timed with connection := connection })
      | (.error _, _) => (report .sendFailed timed.connection, s)

def flushActiveStandardReply : List Effect × State :=
  let s := { s with phase := .pollWorker }
  match s.active with
  | some (.standard running) =>
    if running.disconnectObserved || !running.connection.hasPendingReply then ([], s)
    else if passed s.now running.replyDeadline then
      (report .expired running.connection, s.disconnectStandardRun running)
    else
      match running.connection.flushReply o.transmission with
      | (.ok true, connection) =>
        (report .sent running.connection, { s with active := some (.standard { running with
          connection := connection, replyDeadline := none }) })
      | (.ok false, connection) =>
        ([], { s with active := some (.standard { running with connection := connection }) })
      | (.error _, connection) =>
        (report .sendFailed running.connection,
          s.disconnectStandardRun { running with connection := connection })
  | _ => ([], s)

/-- The daemon gives up a run whose worker it cannot account for. -/
def loseWorker (run : ActiveRun) (error : AuthDaemonError) : State :=
  { s with service := run.workerLost s.service, active := none }.fail error

def pollDirect (running : ActiveDirectRun) :
    WorkerPoll Empty AuthenticationCompletion → List Effect × State
  | .pending => ([], s)
  | .progress progress => nomatch progress
  | .completed completion =>
    if !completion.belongsTo running.session.scheduled.authentication then
      ([], s.loseWorker (.direct running) .workerLost)
    else
      let (response, service) := s.service.finish running.session.scheduled completion s.now
      let s := { s with service := service, active := none }
      if running.disconnectObserved then ([], s)
      else ([.completed running.session.client response.encode],
        s.queueReply running.session.client response)
  | .lost => ([], s.loseWorker (.direct running) .workerLost)

def pollStandard : WorkerPoll EnrollProgress StandardCompletion → List Effect × State
  | .pending => ([], s)
  | .progress progress =>
    if running.disconnectObserved then ([], s)
    else
      match running.connection.queueWorkerProgress running.job progress with
      | (.error error, _) => ([.socketFailed running.connection.client error],
          { s with active := none }.fail .listener)
      | (.ok (), connection) => ([], { s with active := some (.standard { running with
          connection := connection
          replyDeadline := some (s.now.saturatingAdd replyTimeout) }) })
  | .completed completion =>
    let (result, connection, service) :=
      running.connection.finishWorker s.service completion s.now
    let s := { s with service := service, active := none }
    match result with
    | .error error => ([.socketFailed running.connection.client error], s.fail .listener)
    | .ok .replyQueued =>
      if running.disconnectObserved then ([], s)
      else (report .completed connection, { s with
        standardConnections :=
          ⟨connection, none, some (s.now.saturatingAdd replyTimeout)⟩ :: s.standardConnections })
    | .ok _ => ([], s.fail .scheduler)
  | .lost => ([], s.loseWorker (.standard running) .workerLost)

def pollActiveWorker : List Effect × State :=
  let s := { s with phase := .flush }
  match s.active with
  | none => ([], s)
  | some (.direct running) => s.pollDirect running o.worker.poll
  | some (.standard running) =>
    if running.connection.hasPendingReply then ([], s)
    else s.pollStandard running o.standardWorker.poll

def flushReplies : List Effect × State :=
  match s.replies with
  | [] => ([], { s with replies := s.repliesPending, repliesPending := [], phase := .test })
  | timed :: rest =>
    let s := { s with replies := rest }
    let packet := timed.reply.response.encode
    if timed.deadline ≤ s.now then ([.expired timed.reply.client packet], s)
    else
      match send o.transmission packet with
      | .ok () => ([.sent timed.reply.client packet], s)
      | .error .wouldBlock => ([], { s with repliesPending := timed :: s.repliesPending })
      | .error .interrupted => ([], { s with repliesPending := timed :: s.repliesPending })
      | .error _ => ([.sendFailed timed.reply.client packet], s)

def testShutdown : State :=
  match s.shutdownDeadline with
  | none => { s with phase := .top }
  | some deadline =>
    if s.active.isNone && s.replies.isEmpty then { s with phase := .returned (.ok ()) }
    else if deadline ≤ s.now then
      match s.active with
      | none => s.fail .shutdown
      | some run => s.loseWorker run .shutdown
    else { s with phase := .top }

def turn (s : State) (o : Observation) : List Effect × State :=
  match s.phase with
  | .top => ([], s.beginTick o)
  | .accept => ([], s.acceptConnections o)
  | .acceptStandard => ([], s.acceptStandardConnections config o)
  | .process => s.processConnections o
  | .processStandard => s.processStandardConnections o
  | .observe => ([], s.observeActiveDisconnect o)
  | .control => s.processActiveStandardControl o
  | .decide => ([], s.decideLifecycle o)
  | .flushStandard => s.flushStandardReplies o
  | .flushActive => s.flushActiveStandardReply o
  | .pollWorker => s.pollActiveWorker o
  | .flush => s.flushReplies o
  | .test => ([], s.testShutdown)
  | .returned _ => ([], s)

/-- The worker thread of the active run closes its registration. -/
def close : State :=
  match s.active with
  | none => s
  | some run => { s with service := run.closeCancellation s.service }

def step (s : State) : Input → List Effect × State
  | .close => ([], s.close)
  | .turn o => s.turn config o

/-- The client of an active run of the standard socket. -/
def activeStandard : Option Client :=
  match s.active with
  | some (.standard running) => some running.connection.client
  | _ => none

/-- The client whose connection, reply or run the next step handles. -/
def handled : Option Client :=
  match s.phase with
  | .process => s.connections.head?.map TimedConnection.client
  | .processStandard => s.standardConnections.head?.map fun timed => timed.connection.client
  | .observe =>
    match s.active with
    | some (.direct running) => some running.session.client
    | _ => none
  | .control => s.activeStandard
  | .flushStandard => s.standardConnections.head?.map fun timed => timed.connection.client
  | .flushActive => s.activeStandard
  | .flush => s.replies.head?.map fun timed => timed.reply.client
  | _ => none

/-- The loop has not returned yet. -/
def Looping : Prop := s.phase.isReturned = false

instance (s : State) : Decidable s.Looping :=
  inferInstanceAs (Decidable (s.phase.isReturned = false))

end State

/-- The event loop with its worker thread, started by `run_with_workers`. -/
def eventLoop (config : StandardConnectionConfig) : Machine State Input (List Effect) where
  init s := ∃ slot identity service,
    BrokerServiceScheduler.new slot identity (.ofNanos 0) idleTimeout = .ok service ∧
      s = { service := service }
  enabled s _ := s.Looping
  step := State.step config

instance (config : StandardConnectionConfig) (s : State) (i : Input) :
    Decidable ((eventLoop config).enabled s i) :=
  inferInstanceAs (Decidable s.Looping)

end Daemon

end T1Bridge
