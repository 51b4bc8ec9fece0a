import T1Bridge.Auth.Session

/-! # The one-worker scheduler and the broker service

`BrokerScheduler` is the worker slot: a lease from a 64-bit counter, a deadline, and a
poison flag for lost ownership.  `BrokerServiceScheduler` composes it with the session
coordinator, so an operation runs only while it holds both the broker's token and the
worker's lease.

As for the coordinator there is an abstract state, the `Running` operation: the represented
session together with its lease and deadline.  Broker and worker slot are occupied together
because they are two projections of one optional `Running` (`Represents`), and each service
function is given as a change of it. -/

namespace T1Bridge

/-- Setup and match budget of one hardware worker. -/
def operationTimeout : Duration := .ofSecs (setupAllowanceSecs + maxMatchTimeoutSecs)

/-- Outer budget of enrollment and deletion. -/
def enrollmentOperationTimeout : Duration := .ofSecs (15 * 60)

/-- The name under which a worker has the slot. -/
structure WorkerLease where
  value : UInt64
deriving DecidableEq

inductive WorkerAdmission where
  | start (lease : WorkerLease) (deadline : Duration)
  | busy
  | terminate

/-- What the loop has to do with its worker. -/
inductive LifecycleDecision where
  | «continue»
  | cancel (lease : WorkerLease)
  | exitIdle
  | terminate

inductive SchedulerError where
  | zeroIdleTimeout

/-- The worker that has the slot. -/
structure ActiveWorker where
  lease : WorkerLease
  deadline : Duration
  cancellationSent : Bool

/-- The slot for one worker; a lost worker poisons it. -/
structure BrokerScheduler where
  idleTimeout : Duration
  idleSince : Duration
  active : Option ActiveWorker
  nextLease : UInt64
  poisoned : Bool

namespace BrokerScheduler

def new (now idleTimeout : Duration) : Except SchedulerError BrokerScheduler :=
  if idleTimeout.isZero then .error .zeroIdleTimeout
  else .ok ⟨idleTimeout, now, none, 1, false⟩

variable (s : BrokerScheduler)

def poison : BrokerScheduler := { s with poisoned := true }

def admitWithTimeout (now timeout : Duration) : WorkerAdmission × BrokerScheduler :=
  if s.poisoned then (.terminate, s)
  else if s.active.isSome then (.busy, s)
  else
    match now.checkedAdd timeout with
    | none => (.terminate, s.poison)
    | some deadline =>
      if s.nextLease = 0 then (.terminate, s.poison)
      else
        (.start ⟨s.nextLease⟩ deadline,
          { s with
            nextLease := Ticket.advance s.nextLease
            active := some ⟨⟨s.nextLease⟩, deadline, false⟩ })

variable (lease : WorkerLease)

def owns : Bool :=
  s.active.any fun active => active.lease = lease

def complete (now : Duration) : Bool × BrokerScheduler :=
  if !s.owns lease then (false, s)
  else (true, { s with active := none, idleSince := now })

def workerLost : Bool × BrokerScheduler :=
  if !s.owns lease then (false, s) else (true, s.poison)

/-- The next lifecycle action; a passed deadline yields one cancellation. -/
def decide (now : Duration) (listenerReady : Bool) : LifecycleDecision × BrokerScheduler :=
  if s.poisoned then (.terminate, s)
  else
    match s.active with
    | some active =>
      if active.deadline ≤ now ∧ !active.cancellationSent then
        (.cancel active.lease,
          { s with active := some { active with cancellationSent := true } })
      else (.continue, s)
    | none =>
      if !listenerReady ∧ s.idleTimeout ≤ now.saturatingSub s.idleSince then (.exitIdle, s)
      else (.continue, s)

end BrokerScheduler

/-! ### The broker service -/

/-- One broker-authorized operation admitted to the sole hardware worker. -/
structure ScheduledAuthentication where
  authentication : ActiveAuthentication
  lease : WorkerLease
  deadline : Duration
  serviceIdentity : Ref
deriving DecidableEq

/-- The handle of a standard operation that was started. -/
structure ScheduledStandardOperation where
  operation : ActiveStandardOperation
  lease : WorkerLease
  deadline : Duration
  serviceIdentity : Ref
deriving DecidableEq

inductive ScheduledDispatch where
  | reply (response : Response)
  | start (scheduled : ScheduledAuthentication)
  | terminate

inductive ScheduledStandardDispatch where
  | reply (message : ServerMessage)
  | start (scheduled : ScheduledStandardOperation)
  | terminate

/-- The broker, its cancellation slot and its worker slot. -/
structure BrokerServiceScheduler where
  coordinator : BrokerSessionCoordinator
  workers : BrokerScheduler
  identity : Ref

/-- The outer budget of a fixed request. -/
def Purpose.timeout : Purpose → Duration
  | enrollment => enrollmentOperationTimeout
  | authenticate => operationTimeout
  | approve => operationTimeout

lemma operationTimeout_le : operationTimeout ≤ enrollmentOperationTimeout := by decide

lemma Purpose.timeout_le (purpose : Purpose) : purpose.timeout ≤ enrollmentOperationTimeout := by
  cases purpose with
  | enrollment => exact Nat.le_refl _
  | authenticate | approve => exact operationTimeout_le

/-- The outer budget of a standard operation. -/
def ResolvedStandardOperation.timeout : ResolvedStandardOperation → Duration
  | enroll _ _ => enrollmentOperationTimeout
  | deleteIdentity _ _ => enrollmentOperationTimeout
  | listIdentities => operationTimeout
  | verify _ _ => operationTimeout
  | identify _ => operationTimeout

lemma ResolvedStandardOperation.timeout_le (operation : ResolvedStandardOperation) :
    operation.timeout ≤ enrollmentOperationTimeout := by
  cases operation with
  | enroll | deleteIdentity => exact Nat.le_refl _
  | listIdentities | verify | identify => exact operationTimeout_le

namespace BrokerServiceScheduler

/-- A service with its own slot and identity pointers. -/
def new (slot identity : Ref) (now idleTimeout : Duration) :
    Except SchedulerError BrokerServiceScheduler :=
  match BrokerScheduler.new now idleTimeout with
  | .error e => .error e
  | .ok workers => .ok ⟨{ cancellation := { identity := slot } }, workers, identity⟩

variable (s : BrokerServiceScheduler)

def schedule (decision : SessionDecision) (now : Duration) :
    ScheduledDispatch × BrokerServiceScheduler :=
  match decision with
  | .reply response => (.reply response, s)
  | .start authentication =>
    match s.workers.admitWithTimeout now authentication.operation.purpose.timeout with
    | (.start lease deadline, workers) =>
      (.start ⟨authentication, lease, deadline, s.identity⟩, { s with workers := workers })
    | (_, workers) =>
      let (_, coordinator) := s.coordinator.abandon authentication
      (.terminate, { s with coordinator := coordinator, workers := workers.poison })

def scheduleStandard (decision : StandardSessionDecision)
    (now : Duration) : ScheduledStandardDispatch × BrokerServiceScheduler :=
  match decision with
  | .reply message => (.reply message, s)
  | .start operation =>
    match s.workers.admitWithTimeout now operation.operation.operation.timeout with
    | (.start lease deadline, workers) =>
      (.start ⟨operation, lease, deadline, s.identity⟩, { s with workers := workers })
    | (_, workers) =>
      let (_, coordinator) := s.coordinator.abandonStandard operation
      (.terminate, { s with coordinator := coordinator, workers := workers.poison })

variable (peer : PeerMetadata)

def dispatch (policy : AccessPolicy)
    (packet : Packet) (now : Duration) : ScheduledDispatch × BrokerServiceScheduler :=
  if s.workers.poisoned then (.terminate, s)
  else
    let (decision, coordinator) := s.coordinator.dispatch peer policy packet
    { s with coordinator := coordinator }.schedule decision now

def dispatchStandard (recordedOwner : Option AccessPolicy) (operation : ResolvedStandardOperation)
    (now : Duration) : ScheduledStandardDispatch × BrokerServiceScheduler :=
  if s.workers.poisoned then (.terminate, s)
  else
    let (decision, coordinator) := s.coordinator.dispatchStandard peer recordedOwner operation
    { s with coordinator := coordinator }.scheduleStandard decision now

def enrollWithoutOwner (now : Duration) : ScheduledDispatch × BrokerServiceScheduler :=
  if s.workers.poisoned then (.terminate, s)
  else
    let (decision, coordinator) := s.coordinator.enrollWithoutOwner peer
    { s with coordinator := coordinator }.schedule decision now

def cancelWithoutOwner : ScheduledDispatch × BrokerServiceScheduler :=
  if s.workers.poisoned then (.terminate, s)
  else
    let (response, coordinator) := s.coordinator.cancelWithoutOwner peer
    (.reply response, { s with coordinator := coordinator })

/-- Whether a handle with this identity and lease is the one in the worker slot. -/
def ownsLease (serviceIdentity : Ref) (lease : WorkerLease) : Bool :=
  s.identity = serviceIdentity && s.workers.owns lease

def owns (scheduled : ScheduledAuthentication) : Bool :=
  s.ownsLease scheduled.serviceIdentity scheduled.lease

variable (scheduled : ScheduledStandardOperation)

def ownsStandard : Bool :=
  s.ownsLease scheduled.serviceIdentity scheduled.lease

/-- The common end of finishing and abandoning: the lease is released, and if that fails
the scheduler is poisoned and the failure is reported instead of the result. -/
def completeWith {α : Type} (s : BrokerServiceScheduler) (lease : WorkerLease) (now : Duration)
    (result failure : α) : α × BrokerServiceScheduler :=
  match s.workers.complete lease now with
  | (true, workers) => (result, { s with workers := workers })
  | (false, workers) => (failure, { s with workers := workers.poison })

def finish (scheduled : ScheduledAuthentication)
    (completion : AuthenticationCompletion) (now : Duration) : Response × BrokerServiceScheduler :=
  if s.workers.poisoned || !s.owns scheduled ||
      !completion.belongsTo scheduled.authentication then (.failure, s)
  else
    let (response, coordinator) := s.coordinator.finishFor scheduled.authentication completion
    { s with coordinator := coordinator }.completeWith scheduled.lease now response .failure

def finishStandard (completion : StandardCompletion) (now : Duration) :
    ServerMessage × BrokerServiceScheduler :=
  if s.workers.poisoned || !s.ownsStandard scheduled ||
      !completion.belongsTo scheduled.operation then (.terminal .error, s)
  else
    let (message, coordinator) := s.coordinator.finishStandard scheduled.operation completion
    { s with coordinator := coordinator }.completeWith scheduled.lease now message
      (.terminal .error)

/-- As `finish`; the second component is the result feedback is applied to, which happens
before the lease is released. -/
def finishWithFeedback (scheduled : ScheduledAuthentication)
    (completion : AuthenticationCompletion) (now : Duration) :
    (Response × Option AuthenticationResult) × BrokerServiceScheduler :=
  if s.workers.poisoned || !s.owns scheduled ||
      !completion.belongsTo scheduled.authentication then ((.failure, none), s)
  else
    let ((response, feedback), coordinator) := s.coordinator.finishWithFeedback completion
    { s with coordinator := coordinator }.completeWith scheduled.lease now
      (response, feedback) (.failure, feedback)

def abandon (scheduled : ScheduledAuthentication)
    (now : Duration) : Response × BrokerServiceScheduler :=
  if !s.owns scheduled then (.failure, s)
  else
    let (response, coordinator) := s.coordinator.abandon scheduled.authentication
    { s with coordinator := coordinator }.completeWith scheduled.lease now response .failure

def abandonStandard (now : Duration) : ServerMessage × BrokerServiceScheduler :=
  if !s.ownsStandard scheduled then (.terminal .error, s)
  else
    let (message, coordinator) := s.coordinator.abandonStandard scheduled.operation
    { s with coordinator := coordinator }.completeWith scheduled.lease now message
      (.terminal .error)

def clientDisconnected (scheduled : ScheduledAuthentication) : Bool × BrokerServiceScheduler :=
  if !s.owns scheduled then (false, s)
  else
    let (accepted, coordinator) := s.coordinator.clientDisconnected scheduled.authentication
    (accepted, { s with coordinator := coordinator })

def cancelStandard : Bool × BrokerServiceScheduler :=
  if !s.ownsStandard scheduled then (false, s)
  else
    let (accepted, coordinator) := s.coordinator.cancelStandard scheduled.operation
    (accepted, { s with coordinator := coordinator })

def standardClientDisconnected : Bool × BrokerServiceScheduler :=
  if !s.ownsStandard scheduled then (false, s)
  else
    let (accepted, coordinator) :=
      s.coordinator.standardClientDisconnected scheduled.operation
    (accepted, { s with coordinator := coordinator })

def deadlineExpired (scheduled : ScheduledAuthentication) : Bool × BrokerServiceScheduler :=
  if !s.owns scheduled then (false, s)
  else
    let (accepted, coordinator) := s.coordinator.clientDisconnected scheduled.authentication
    (accepted, { s with coordinator := coordinator })

def standardDeadlineExpired : Bool × BrokerServiceScheduler :=
  s.standardClientDisconnected scheduled

def decide (now : Duration) (listenerReady : Bool) : LifecycleDecision × BrokerServiceScheduler :=
  let (decision, workers) := s.workers.decide now listenerReady
  (decision, { s with workers := workers })

def workerLost (scheduled : ScheduledAuthentication) : Bool × BrokerServiceScheduler :=
  if !s.owns scheduled then (false, s)
  else
    let (lost, workers) := s.workers.workerLost scheduled.lease
    (lost, { s with workers := workers })

def standardWorkerLost : Bool × BrokerServiceScheduler :=
  if !s.ownsStandard scheduled then (false, s)
  else
    let (lost, workers) := s.workers.workerLost scheduled.lease
    (lost, { s with workers := workers })

/-- The worker's close of its cancellation registration, on the slot shared with the
coordinator. -/
def closeCancellation (token : OperationToken) (event slot : Ref) : Bool × BrokerServiceScheduler :=
  let (uncancelled, coordinator) := s.coordinator.closeCancellation token event slot
  (uncancelled, { s with coordinator := coordinator })

end BrokerServiceScheduler

/-! ### The running operation -/

/-- The abstract state of the service: the session and the worker slot it occupies. -/
structure Running where
  session : Session
  lease : WorkerLease
  deadline : Duration
  cancellationSent : Bool

def Running.worker (running : Running) : ActiveWorker :=
  ⟨running.lease, running.deadline, running.cancellationSent⟩

namespace BrokerServiceScheduler

variable (s : BrokerServiceScheduler)

/-- Coordinator and worker slot are the two sides of one optional running operation. -/
def Represents (w : Option Running) : Prop :=
  s.coordinator.Represents (w.map Running.session) ∧ s.workers.active = w.map Running.worker

def begin (deadline : Duration) : BrokerServiceScheduler :=
  { s with
    coordinator := s.coordinator.begin
    workers := { s.workers with
      nextLease := Ticket.advance s.workers.nextLease
      active := some ⟨⟨s.workers.nextLease⟩, deadline, false⟩ } }

/-- The admission that found no representable deadline or no lease left. -/
def exhaust : BrokerServiceScheduler :=
  { s with coordinator := s.coordinator.begin.release, workers := s.workers.poison }

def mark (event : Ref) : BrokerServiceScheduler :=
  { s with coordinator := s.coordinator.mark event }

def shut : BrokerServiceScheduler :=
  { s with coordinator := s.coordinator.shut }

def release (now : Duration) : BrokerServiceScheduler :=
  { s with
    coordinator := s.coordinator.release
    workers := { s.workers with active := none, idleSince := now } }

def lose : BrokerServiceScheduler :=
  { s with workers := s.workers.poison }

/-- The running operation that `begin` starts. -/
def fresh (deadline : Duration) : Running :=
  ⟨s.coordinator.fresh, ⟨s.workers.nextLease⟩, deadline, false⟩

open BrokerSessionCoordinator (abandon_represented abandonStandard_represented
  closeCancellation_represented deliverFor_represented finishFor_represented
  finishStandard_represented finishWithFeedback_represented operationResult)

variable {s} {w : Option Running} {running : Running} {lease : WorkerLease}
  {workers : BrokerScheduler} {serviceIdentity : Ref} {α : Type}

lemma Represents.session (h : s.Represents (some running)) :
    s.coordinator.Represents (some running.session) := h.1

lemma Represents.begin (h : s.Represents none) (deadline : Duration) :
    (s.begin deadline).Represents (some (s.fresh deadline)) :=
  ⟨h.1.begin, rfl⟩

lemma Represents.exhaust (h : s.Represents none) : s.exhaust.Represents none :=
  ⟨h.1.begin.release, h.2⟩

lemma Represents.mark (h : s.Represents (some running)) : (s.mark running.session.event).Represents
      (some { running with session := { running.session with cancelled := true } }) :=
  ⟨h.session.mark, h.2⟩

lemma Represents.shut (h : s.Represents (some running)) : s.shut.Represents
      (some { running with session := { running.session with accepting := false } }) :=
  ⟨h.session.shut, h.2⟩

lemma Represents.release (h : s.Represents w) (now : Duration) : (s.release now).Represents none :=
  ⟨h.1.release, rfl⟩

lemma Represents.lose (h : s.Represents w) : s.lose.Represents w := h

lemma Represents.ownsLease_iff (h : s.Represents w) : s.ownsLease serviceIdentity lease = true ↔
      s.identity = serviceIdentity ∧ ∃ running ∈ w, running.lease = lease := by
  unfold ownsLease BrokerScheduler.owns
  rw [h.2]
  cases w <;> simp [Running.worker]

lemma owns_of_ownsLease
    (h : s.ownsLease serviceIdentity lease = true) : s.workers.owns lease = true :=
  (Bool.and_eq_true_iff.mp h).2

/-! ### Dispatching -/

section

variable (s) (cancels admitted : Prop)

/-- What an entry point of the fixed protocol does to the running operation. -/
inductive Dispatched : Option Running → ScheduledDispatch × BrokerServiceScheduler → Prop
  | poisoned {w : _} (hp : s.workers.poisoned = true) : Dispatched w (.terminate, s)
  | refused {w : _} (r : Response) (hr : r ≠ .okay)
      (hp : s.workers.poisoned = false) : Dispatched w (.reply r, s)
  | cancelled (running : Running) (haccepting : running.session.accepting = true)
      (hcancels : cancels) (hp : s.workers.poisoned = false) :
      Dispatched (some running) (.reply .okay, s.mark running.session.event)
  | started (operation : Operation) (deadline : Duration) (hadmitted : admitted)
      (htoken : operation.token = ⟨s.coordinator.state.nextToken⟩)
      (hfresh : s.coordinator.state.nextToken ≠ 0) (hlease : s.workers.nextLease ≠ 0)
      (hp : s.workers.poisoned = false) :
      Dispatched none (.start ⟨⟨operation, s.coordinator.cancellation.events.size,
          s.coordinator.cancellation.identity⟩, ⟨s.workers.nextLease⟩, deadline, s.identity⟩,
          s.begin deadline)
  | exhausted (hadmitted : admitted) (hfresh : s.coordinator.state.nextToken ≠ 0)
      (hp : s.workers.poisoned = false) : Dispatched none (.terminate, s.exhaust)

end

/-- With a free slot an admission starts a worker or finds the scheduler exhausted. -/
lemma admitWithTimeout_free (hp : workers.poisoned = false)
    (ha : workers.active = none) (now timeout : Duration) :
    workers.admitWithTimeout now timeout = (.terminate, workers.poison) ∨
    (∃ deadline, now.checkedAdd timeout = some deadline ∧ workers.nextLease ≠ 0 ∧
      workers.admitWithTimeout now timeout = (.start ⟨workers.nextLease⟩ deadline, { workers with
          nextLease := Ticket.advance workers.nextLease
          active := some ⟨⟨workers.nextLease⟩, deadline, false⟩ })) := by
  unfold BrokerScheduler.admitWithTimeout
  simp only [hp, ha]
  cases hd : now.checkedAdd timeout with
  | none => exact .inl rfl
  | some deadline =>
    by_cases hl : workers.nextLease = 0
    · simp [hl]
    · exact .inr ⟨deadline, rfl, hl, by simp [hl]⟩

lemma admitWithTimeout_ne_busy (ha : workers.active = none)
    (now timeout : Duration) : (workers.admitWithTimeout now timeout).1 ≠ .busy := by
  cases hp : workers.poisoned with
  | true => simp [BrokerScheduler.admitWithTimeout, hp]
  | false =>
    rcases admitWithTimeout_free hp ha now timeout with h | ⟨deadline, -, -, h⟩ <;> simp [h]

/-- Lease counter and clock leave room for one more operation of any kind. -/
def HasRoom (s : BrokerServiceScheduler) (now : Duration) : Prop :=
  s.workers.nextLease ≠ 0 ∧ (now.checkedAdd enrollmentOperationTimeout).isSome = true

variable {now : Duration} {completion : AuthenticationCompletion} {token : OperationToken}

section

variable (hroom : s.HasRoom now) (hp : s.workers.poisoned = false) (ha : s.workers.active = none)

include hroom hp ha

lemma HasRoom.admits {timeout : Duration} (ht : timeout ≤ enrollmentOperationTimeout) :
    ∃ lease deadline workers, s.workers.admitWithTimeout now timeout =
      (.start lease deadline, workers) := by
  obtain ⟨deadline, hd⟩ := Duration.checkedAdd_of_le ht hroom.2
  have hl : s.workers.nextLease ≠ 0 := hroom.1
  simp [BrokerScheduler.admitWithTimeout, hp, ha, hd, hl]

lemma schedule_ne_terminate (coordinator : BrokerSessionCoordinator) (decision : SessionDecision) :
    ({ s with coordinator := coordinator }.schedule decision now).1 ≠ .terminate := by
  cases decision with
  | reply response => simp [schedule]
  | start authentication =>
    obtain ⟨lease, deadline, workers, hadm⟩ :=
      hroom.admits hp ha authentication.operation.purpose.timeout_le
    simp [schedule, hadm]

lemma scheduleStandard_ne_terminate (coordinator : BrokerSessionCoordinator)
    (decision : StandardSessionDecision) :
    ({ s with coordinator := coordinator }.scheduleStandard decision now).1 ≠ .terminate := by
  cases decision with
  | reply message => simp [scheduleStandard]
  | start operation =>
    obtain ⟨lease, deadline, workers, hadm⟩ :=
      hroom.admits hp ha operation.operation.operation.timeout_le
    simp [scheduleStandard, hadm]

end

lemma schedule_dispatched (h : s.Represents w) (hp : s.workers.poisoned = false)
    {cancels admitted : Prop} {result : SessionDecision × BrokerSessionCoordinator}
    (hd : BrokerSessionCoordinator.Dispatched s.coordinator cancels admitted
      (w.map Running.session) result) (now : Duration) :
    Dispatched s cancels admitted w ({ s with coordinator := result.2 }.schedule result.1 now) := by
  generalize hv : w.map Running.session = v at hd
  cases hd with
  | refused r hr => exact .refused r hr hp
  | cancelled session haccepting hcancels =>
    obtain ⟨running, rfl, rfl⟩ := Option.map_eq_some_iff.mp hv
    exact .cancelled running haccepting hcancels hp
  | started operation hadmitted htoken hfresh =>
    obtain rfl := Option.map_eq_none_iff.mp hv
    have ha : s.workers.active = none := h.2
    simp only [schedule]
    rcases admitWithTimeout_free hp ha now operation.purpose.timeout with
      hadm | ⟨deadline, -, hl, hadm⟩
    · rw [hadm]
      have habandon : s.coordinator.begin.abandon ⟨operation,
          s.coordinator.cancellation.events.size, s.coordinator.cancellation.identity⟩ = _ :=
        abandon_represented h.1.begin ⟨htoken.symm, rfl, rfl⟩
      simp only [habandon]
      exact .exhausted hadmitted hfresh hp
    · rw [hadm]
      exact .started operation deadline hadmitted htoken hfresh hl hp

lemma dispatch_dispatched (h : s.Represents w) (peer : PeerMetadata) (policy : AccessPolicy)
    (packet : Packet) (now : Duration) :
    Dispatched s (decodeRequest packet = .ok .cancel ∧ peer.IsLocalRoot)
      (policy.Admits peer packet) w (s.dispatch peer policy packet now) := by
  unfold dispatch
  split_ifs with hp
  · exact .poisoned hp
  · exact schedule_dispatched h (Bool.not_eq_true _ ▸ hp)
      (BrokerSessionCoordinator.dispatch_dispatched h.1 peer policy packet) now

lemma enrollWithoutOwner_dispatched (h : s.Represents w) (peer : PeerMetadata) (now : Duration) :
    Dispatched s False (peer.addressFamily = .localFamily ∧ peer.userId ≠ rootUid) w
      (s.enrollWithoutOwner peer now) := by
  unfold enrollWithoutOwner
  split_ifs with hp
  · exact .poisoned hp
  · exact schedule_dispatched h (Bool.not_eq_true _ ▸ hp)
      (BrokerSessionCoordinator.enrollWithoutOwner_dispatched h.1 peer) now

lemma cancelWithoutOwner_dispatched (h : s.Represents w) (peer : PeerMetadata) :
    Dispatched s peer.IsLocalRoot False w (s.cancelWithoutOwner peer) := by
  unfold cancelWithoutOwner
  split_ifs with hp
  · exact .poisoned hp
  · exact schedule_dispatched h (Bool.not_eq_true _ ▸ hp)
      (BrokerSessionCoordinator.cancelWithoutOwner_dispatched h.1 peer) (.ofNanos 0)

section

variable (s) (peer : PeerMetadata) (recordedOwner : Option AccessPolicy)
  (operation : ResolvedStandardOperation)

/-- What a standard dispatch does: it starts an authorised operation in a free slot or
leaves the running operation alone. -/
inductive StandardDispatched :
    Option Running → ScheduledStandardDispatch × BrokerServiceScheduler → Prop
  | poisoned {w : _} (hp : s.workers.poisoned = true) :
      StandardDispatched w (.terminate, s)
  | refused {w : _} (outcome : TerminalOutcome)
      (houtcome : outcome = .error ∨ outcome = .secondOwner ∨ outcome = .busy)
      (hp : s.workers.poisoned = false) : StandardDispatched w (.reply (.terminal outcome), s)
  | started (authorized : AuthorizedStandardOperation) (deadline : Duration)
      (hauthority : BrokerState.StandardAuthority peer recordedOwner operation)
      (hoperation : authorized.operation = operation)
      (htoken : authorized.token = ⟨s.coordinator.state.nextToken⟩)
      (hfresh : s.coordinator.state.nextToken ≠ 0) (hlease : s.workers.nextLease ≠ 0)
      (hp : s.workers.poisoned = false) :
      StandardDispatched none (.start ⟨⟨authorized, s.coordinator.cancellation.events.size,
          s.coordinator.cancellation.identity⟩, ⟨s.workers.nextLease⟩, deadline, s.identity⟩,
          s.begin deadline)
  | exhausted (hauthority : BrokerState.StandardAuthority peer recordedOwner operation)
      (hfresh : s.coordinator.state.nextToken ≠ 0) (hp : s.workers.poisoned = false) :
      StandardDispatched none (.terminate, s.exhaust)

end

lemma dispatchStandard_dispatched (h : s.Represents w) (peer : PeerMetadata)
    (recordedOwner : Option AccessPolicy) (operation : ResolvedStandardOperation) (now : Duration) :
    StandardDispatched s peer recordedOwner operation w
      (s.dispatchStandard peer recordedOwner operation now) := by
  unfold dispatchStandard
  split_ifs with hp
  · exact .poisoned hp
  rw [Bool.not_eq_true] at hp
  have hd := BrokerSessionCoordinator.dispatchStandard_dispatched h.1 peer recordedOwner operation
  generalize s.coordinator.dispatchStandard peer recordedOwner operation = result at hd
  generalize hv : w.map Running.session = v at hd
  cases hd with
  | refused outcome ho => exact .refused outcome ho hp
  | started authorized hauthority hoperation htoken hfresh =>
    obtain rfl := Option.map_eq_none_iff.mp hv
    have ha : s.workers.active = none := h.2
    simp only [scheduleStandard]
    rcases admitWithTimeout_free hp ha now authorized.operation.timeout with
      hadm | ⟨deadline, -, hl, hadm⟩
    · rw [hadm]
      have habandon : s.coordinator.begin.abandonStandard ⟨authorized,
          s.coordinator.cancellation.events.size, s.coordinator.cancellation.identity⟩ = _ :=
        abandonStandard_represented h.1.begin ⟨htoken.symm, rfl, rfl⟩
      simp only [habandon]
      exact .exhausted hauthority hfresh hp
    · rw [hadm]
      exact .started authorized deadline hauthority hoperation htoken hfresh hl hp

/-! ### Calls with a handle

`Holds` says that a handle with these references names the running operation.  The calls
below either hold, and then act on the running operation, or are refused. -/

/-- The references of a handle name the running operation of this service. -/
def Holds (s : BrokerServiceScheduler) (running : Running) (token : OperationToken)
    (event slot : Ref) (lease : WorkerLease) (serviceIdentity : Ref) : Prop :=
  s.coordinator.Names running.session token event slot ∧ running.lease = lease ∧
    s.identity = serviceIdentity

variable {scheduled : ScheduledAuthentication} {standard : ScheduledStandardOperation}
  {event slot : Ref}

/-- This handle of a direct client names the running operation. -/
def HoldsAuthentication (s : BrokerServiceScheduler) (running : Running)
    (scheduled : ScheduledAuthentication) : Prop :=
  s.Holds running scheduled.authentication.operation.token scheduled.authentication.event
    scheduled.authentication.slot scheduled.lease scheduled.serviceIdentity

/-- This handle of a standard client names the running operation. -/
def HoldsStandard (s : BrokerServiceScheduler) (running : Running)
    (standard : ScheduledStandardOperation) : Prop :=
  s.Holds running standard.operation.operation.token standard.operation.event
    standard.operation.slot standard.lease standard.serviceIdentity

lemma HoldsAuthentication.owns (hh : s.HoldsAuthentication running scheduled)
    (h : s.Represents (some running)) : s.owns scheduled = true :=
  h.ownsLease_iff.mpr ⟨hh.2.2, running, rfl, hh.2.1⟩

lemma HoldsStandard.owns (hh : s.HoldsStandard running standard)
    (h : s.Represents (some running)) : s.ownsStandard standard = true :=
  h.ownsLease_iff.mpr ⟨hh.2.2, running, rfl, hh.2.1⟩

lemma completeWith_held (h : s.Represents (some running)) (now : Duration) (result failure : α) :
    { s with coordinator := s.coordinator.release }.completeWith running.lease now
      result failure = (result, s.release now) := by
  have howns : s.workers.owns running.lease = true := by
    simp [BrokerScheduler.owns, h.2, Running.worker]
  simp [completeWith, BrokerScheduler.complete, howns, release]

lemma refuses_of_not {poisoned owned own : Bool}
    (hr : ¬ (poisoned = false ∧ owned = true ∧ own = true)) :
    (poisoned || !owned || !own) = true := by
  simpa [imp_iff_not_or, or_assoc] using hr

section

variable (hr : ¬ (s.workers.poisoned = false ∧ s.owns scheduled = true ∧
  completion.belongsTo scheduled.authentication = true))

include hr

lemma finish_refused (now : Duration) : s.finish scheduled completion now = (.failure, s) := by
  unfold finish
  rw [if_pos (refuses_of_not hr)]

lemma finishWithFeedback_refused (now : Duration) :
    s.finishWithFeedback scheduled completion now = ((.failure, none), s) := by
  unfold finishWithFeedback
  rw [if_pos (refuses_of_not hr)]

end

lemma finishStandard_refused {completion : StandardCompletion} (now : Duration)
    (hr : ¬ (s.workers.poisoned = false ∧ s.ownsStandard standard = true ∧
      completion.belongsTo standard.operation = true)) :
    s.finishStandard standard completion now = (.terminal .error, s) := by
  unfold finishStandard
  rw [if_pos (refuses_of_not hr)]

/-- The service after a delivery to the running operation. -/
def delivered (s : BrokerServiceScheduler) (running : Running) : Bool × BrokerServiceScheduler :=
  (running.session.accepting,
    if running.session.accepting then s.mark running.session.event else s)

section

variable (h : s.Represents (some running))

include h

lemma deliverFor_held (hn : s.coordinator.Names running.session token event slot) :
    let delivery := s.coordinator.deliverFor
      (s.coordinator.state.cancelToken CancellationSlot.deliver token) slot
    (delivery.1, { s with coordinator := delivery.2 }) = s.delivered running := by
  obtain ⟨rfl, -, rfl⟩ := hn
  dsimp only
  rw [deliverFor_represented h.session]
  unfold delivered
  cases running.session.accepting <;> rfl

/-- The worker's own close: it reports whether delivery was still open and unused. -/
lemma closeCancellation_held (hn : s.coordinator.Names running.session token event slot) :
    s.closeCancellation token event slot = (running.session.accepting && !running.session.cancelled,
        if running.session.accepting then s.shut else s) := by
  obtain ⟨rfl, rfl, rfl⟩ := hn
  unfold closeCancellation
  rw [closeCancellation_represented h.session]
  cases running.session.accepting <;> rfl

section

variable (hh : s.HoldsAuthentication running scheduled)

include hh

lemma finish_held (hp : s.workers.poisoned = false)
    (hb : completion.belongsTo scheduled.authentication = true) (now : Duration) :
    s.finish scheduled completion now =
      (running.session.response (operationResult completion.result), s.release now) := by
  unfold finish
  rw [if_neg (by simp [hp, hb, hh.owns h]), finishFor_represented h.session hh.1 hb, ← hh.2.1]
  exact completeWith_held h now _ _

lemma finishWithFeedback_held (hp : s.workers.poisoned = false)
    (hb : completion.belongsTo scheduled.authentication = true) (now : Duration) :
    s.finishWithFeedback scheduled completion now =
      ((running.session.response (operationResult completion.result),
        if running.session.cancelled then none else some completion.result), s.release now) := by
  unfold finishWithFeedback
  rw [if_neg (by simp [hp, hb, hh.owns h]),
    finishWithFeedback_represented h.session hh.1 hb, ← hh.2.1]
  exact completeWith_held h now _ _

lemma abandon_held (now : Duration) : s.abandon scheduled now = (.failure, s.release now) := by
  unfold abandon
  rw [if_neg (by simp [hh.owns h]), abandon_represented h.session hh.1, ← hh.2.1]
  exact completeWith_held h now _ _

lemma clientDisconnected_held : s.clientDisconnected scheduled = s.delivered running := by
  unfold clientDisconnected
  rw [if_neg (by simp [hh.owns h])]
  exact deliverFor_held h hh.1

lemma deadlineExpired_held : s.deadlineExpired scheduled = s.delivered running := by
  unfold deadlineExpired
  rw [if_neg (by simp [hh.owns h])]
  exact deliverFor_held h hh.1

lemma workerLost_held : s.workerLost scheduled = (true, s.lose) := by
  have howns := hh.owns h
  simp [workerLost, howns, BrokerScheduler.workerLost, owns_of_ownsLease howns, lose]

end

variable (hh : s.HoldsStandard running standard)

include hh

lemma finishStandard_held (hp : s.workers.poisoned = false) {completion : StandardCompletion}
    (hb : completion.belongsTo standard.operation = true) (now : Duration) :
    s.finishStandard standard completion now =
      (running.session.standardResponse standard.operation.operation completion.result,
        s.release now) := by
  unfold finishStandard
  rw [if_neg (by simp [hp, hb, hh.owns h]), finishStandard_represented h.session hh.1 hb, ← hh.2.1]
  exact completeWith_held h now _ _

lemma abandonStandard_held (now : Duration) : s.abandonStandard standard now =
      (running.session.standardResponse standard.operation.operation (.terminal .error),
        s.release now) := by
  unfold abandonStandard
  rw [if_neg (by simp [hh.owns h]), abandonStandard_represented h.session hh.1, ← hh.2.1]
  exact completeWith_held h now _ _

lemma cancelStandard_held : s.cancelStandard standard = s.delivered running := by
  unfold cancelStandard
  rw [if_neg (by simp [hh.owns h])]
  exact deliverFor_held h hh.1

lemma standardClientDisconnected_held :
    s.standardClientDisconnected standard = s.delivered running := by
  unfold standardClientDisconnected
  rw [if_neg (by simp [hh.owns h])]
  exact deliverFor_held h hh.1

lemma standardWorkerLost_held : s.standardWorkerLost standard = (true, s.lose) := by
  have howns := hh.owns h
  simp [standardWorkerLost, howns, BrokerScheduler.workerLost, owns_of_ownsLease howns, lose]

end

lemma closeCancellation_foreign (h : s.Represents w)
    (hf : slot ≠ s.coordinator.cancellation.identity ∨
      ∀ running ∈ w, running.session.token ≠ token ∨ running.session.event ≠ event) :
    s.closeCancellation token event slot = (false, s) := by
  unfold closeCancellation
  rw [BrokerSessionCoordinator.closeCancellation_foreign h.1]
  simpa using hf

/-- The service after the deadline of the running operation was reported once. -/
def expire (s : BrokerServiceScheduler) (running : Running) : BrokerServiceScheduler :=
  { s with workers := { s.workers with
      active := some { running.worker with cancellationSent := true } } }

lemma Represents.expire (h : s.Represents (some running)) :
    (s.expire running).Represents (some { running with cancellationSent := true }) :=
  ⟨h.1, rfl⟩

/-- `decide` leaves the service alone except for marking a passed deadline as reported. -/
lemma decide_represented (h : s.Represents w) (now : Duration) (listenerReady : Bool) :
    (∃ decision, (∀ lease, decision ≠ .cancel lease) ∧ s.decide now listenerReady = (decision, s)) ∨
    (∃ running, w = some running ∧ s.workers.poisoned = false ∧
      running.cancellationSent = false ∧ running.deadline ≤ now ∧
      s.decide now listenerReady = (.cancel running.lease, s.expire running)) := by
  unfold decide BrokerScheduler.decide
  rw [h.2]
  by_cases hp : s.workers.poisoned = true
  · exact .inl ⟨.terminate, by simp, by simp [hp]⟩
  cases w with
  | none =>
    split_ifs
    · exact .inl ⟨.exitIdle, by simp, rfl⟩
    · exact .inl ⟨.continue, by simp, rfl⟩
  | some running =>
    dsimp only [Option.map_some]
    split_ifs with hd
    · have hsent : running.cancellationSent = false := by simpa [Running.worker] using hd.2
      exact .inr ⟨running, rfl, Bool.not_eq_true _ ▸ hp, hsent, hd.1, rfl⟩
    · exact .inl ⟨.continue, by simp, rfl⟩

lemma decide_terminate {listenerReady : Bool} {s' : BrokerServiceScheduler}
    (h : s.decide now listenerReady = (.terminate, s')) : s.workers.poisoned = true := by
  have hfst : (s.workers.decide now listenerReady).1 = .terminate := congrArg Prod.fst h
  by_contra hp
  rw [BrokerScheduler.decide, if_neg hp] at hfst
  split at hfst
  · split_ifs at hfst
  · split_ifs at hfst

end BrokerServiceScheduler

end T1Bridge
