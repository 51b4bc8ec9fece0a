import T1Bridge.Auth.Scheduler

/-! # Runs of the broker service

The broker service as an input/output machine.  Its inputs are all calls the process can
make on a `BrokerServiceScheduler`, from both protocols and in any order, and the close
that a worker thread makes on the shared cancellation slot.  Handles are opaque in the
source: a caller has only handles that this service issued, or handles of another service
with other pointers (`Known`).  Completions are arbitrary.

What a call can do is said once, by the relation `Effect`: it is refused and changes
nothing, or it starts, cancels, closes, finishes, loses or expires the one running
operation (`step_effect`).  `Consistent` ties the running operation to the issued handles. -/

namespace T1Bridge

/-- A handle of either protocol. -/
inductive Scheduled where
  | authentication (scheduled : ScheduledAuthentication)
  | standard (scheduled : ScheduledStandardOperation)
deriving DecidableEq

namespace Scheduled

def token : Scheduled → OperationToken
  | authentication h => h.authentication.operation.token
  | standard h => h.operation.operation.token

def event : Scheduled → Ref
  | authentication h => h.authentication.event
  | standard h => h.operation.event

def slot : Scheduled → Ref
  | authentication h => h.authentication.slot
  | standard h => h.operation.slot

def lease : Scheduled → WorkerLease
  | authentication h => h.lease
  | standard h => h.lease

def serviceIdentity : Scheduled → Ref
  | authentication h => h.serviceIdentity
  | standard h => h.serviceIdentity

end Scheduled

namespace BrokerServiceScheduler

variable (s : BrokerServiceScheduler)

def ownsScheduled (h : Scheduled) : Bool :=
  s.ownsLease h.serviceIdentity h.lease

/-- The handle names the running operation. -/
def HoldsScheduled (running : Running) (h : Scheduled) : Prop :=
  s.Holds running h.token h.event h.slot h.lease h.serviceIdentity

end BrokerServiceScheduler

namespace Service

/-- The service and the handles it has issued so far. -/
structure State where
  service : BrokerServiceScheduler
  issued : List Scheduled := []

/-- The calls of the service with their arguments. -/
inductive Call where
  | dispatch (peer : PeerMetadata) (policy : AccessPolicy) (packet : Packet) (now : Duration)
  | dispatchStandard (peer : PeerMetadata) (recordedOwner : Option AccessPolicy)
      (operation : ResolvedStandardOperation) (now : Duration)
  | enrollWithoutOwner (peer : PeerMetadata) (now : Duration)
  | cancelWithoutOwner (peer : PeerMetadata)
  | finish (h : ScheduledAuthentication) (completion : AuthenticationCompletion) (now : Duration)
  | finishStandard (h : ScheduledStandardOperation) (completion : StandardCompletion)
      (now : Duration)
  | finishWithFeedback (h : ScheduledAuthentication) (completion : AuthenticationCompletion)
      (now : Duration)
  | abandon (h : ScheduledAuthentication) (now : Duration)
  | abandonStandard (h : ScheduledStandardOperation) (now : Duration)
  | clientDisconnected (h : ScheduledAuthentication)
  | cancelStandard (h : ScheduledStandardOperation)
  | standardClientDisconnected (h : ScheduledStandardOperation)
  | deadlineExpired (h : ScheduledAuthentication)
  | standardDeadlineExpired (h : ScheduledStandardOperation)
  | decide (now : Duration) (listenerReady : Bool)
  | workerLost (h : ScheduledAuthentication)
  | standardWorkerLost (h : ScheduledStandardOperation)
  | closeCancellation (h : Scheduled)

/-- What the calls return. -/
inductive Answer where
  | dispatched (decision : ScheduledDispatch)
  | dispatchedStandard (decision : ScheduledStandardDispatch)
  | response (response : Response)
  | feedback (response : Response) (shown : Option AuthenticationResult)
  | message (message : ServerMessage)
  | flag (accepted : Bool)
  | lifecycle (decision : LifecycleDecision)

variable {w' : State} {running' : Option Running} {service : BrokerServiceScheduler}
  {running : Option Running} {h : Scheduled} {w : State} {answer : Answer} {r : Running} {c : Call}

/-- The handle a call is made with. -/
def Call.handle : Call → Option Scheduled
  | dispatch _ _ _ _ => none
  | dispatchStandard _ _ _ _ => none
  | enrollWithoutOwner _ _ => none
  | cancelWithoutOwner _ => none
  | finish h _ _ => some (.authentication h)
  | finishStandard h _ _ => some (.standard h)
  | finishWithFeedback h _ _ => some (.authentication h)
  | abandon h _ => some (.authentication h)
  | abandonStandard h _ => some (.standard h)
  | clientDisconnected h => some (.authentication h)
  | cancelStandard h => some (.standard h)
  | standardClientDisconnected h => some (.standard h)
  | deadlineExpired h => some (.authentication h)
  | standardDeadlineExpired h => some (.standard h)
  | decide _ _ => none
  | workerLost h => some (.authentication h)
  | standardWorkerLost h => some (.standard h)
  | closeCancellation h => some h

/-- The handle a dispatch hands out. -/
def Answer.started : Answer → Option Scheduled
  | dispatched (.start h) => some (.authentication h)
  | dispatchedStandard (.start h) => some (.standard h)
  | _ => none

namespace State

/-- A handle a caller can have: issued here, or by a service with pointers of its own. -/
def Known (w : State) (h : Scheduled) : Prop :=
  h ∈ w.issued ∨ (h.serviceIdentity ≠ w.service.identity ∧
    h.slot ≠ w.service.coordinator.cancellation.identity)

/-- The call on the service alone. -/
def call (s : BrokerServiceScheduler) : Call → Answer × BrokerServiceScheduler
  | .dispatch peer policy packet now =>
    let (decision, s) := s.dispatch peer policy packet now
    (.dispatched decision, s)
  | .dispatchStandard peer recordedOwner operation now =>
    let (decision, s) := s.dispatchStandard peer recordedOwner operation now
    (.dispatchedStandard decision, s)
  | .enrollWithoutOwner peer now =>
    let (decision, s) := s.enrollWithoutOwner peer now
    (.dispatched decision, s)
  | .cancelWithoutOwner peer =>
    let (decision, s) := s.cancelWithoutOwner peer
    (.dispatched decision, s)
  | .finish h completion now =>
    let (response, s) := s.finish h completion now
    (.response response, s)
  | .finishStandard h completion now =>
    let (message, s) := s.finishStandard h completion now
    (.message message, s)
  | .finishWithFeedback h completion now =>
    let ((response, shown), s) := s.finishWithFeedback h completion now
    (.feedback response shown, s)
  | .abandon h now =>
    let (response, s) := s.abandon h now
    (.response response, s)
  | .abandonStandard h now =>
    let (message, s) := s.abandonStandard h now
    (.message message, s)
  | .clientDisconnected h =>
    let (accepted, s) := s.clientDisconnected h
    (.flag accepted, s)
  | .cancelStandard h =>
    let (accepted, s) := s.cancelStandard h
    (.flag accepted, s)
  | .standardClientDisconnected h =>
    let (accepted, s) := s.standardClientDisconnected h
    (.flag accepted, s)
  | .deadlineExpired h =>
    let (accepted, s) := s.deadlineExpired h
    (.flag accepted, s)
  | .standardDeadlineExpired h =>
    let (accepted, s) := s.standardDeadlineExpired h
    (.flag accepted, s)
  | .decide now listenerReady =>
    let (decision, s) := s.decide now listenerReady
    (.lifecycle decision, s)
  | .workerLost h =>
    let (lost, s) := s.workerLost h
    (.flag lost, s)
  | .standardWorkerLost h =>
    let (lost, s) := s.standardWorkerLost h
    (.flag lost, s)
  | .closeCancellation h =>
    let (uncancelled, s) := s.closeCancellation h.token h.event h.slot
    (.flag uncancelled, s)

def step (w : State) (c : Call) : Answer × State :=
  let (answer, service) := call w.service c
  (answer, ⟨service, w.issued ++ answer.started.toList⟩)

end State

/-- The broker service with every caller that respects handle ownership. -/
def broker : Machine State Call Answer where
  init w := w.issued = [] ∧ ∃ slot identity now idleTimeout,
      BrokerServiceScheduler.new slot identity now idleTimeout = .ok w.service
  enabled w c := ∀ h ∈ c.handle, w.Known h
  step := State.step

abbrev Event := Machine.Event State Call Answer

/-! ### Reading a call and its answer -/

/-- The token whose cancellation the call asks for: root's request and every delivery with
a handle. -/
def Call.delivery (w : State) : Call → Option OperationToken
  | dispatch _ _ packet _ =>
    match decodeRequest packet with
    | .ok .cancel => w.service.coordinator.state.active.map ActiveOperation.token
    | _ => none
  | cancelWithoutOwner _ => w.service.coordinator.state.active.map ActiveOperation.token
  | clientDisconnected h => some h.authentication.operation.token
  | deadlineExpired h => some h.authentication.operation.token
  | cancelStandard h => some h.operation.operation.token
  | standardClientDisconnected h => some h.operation.operation.token
  | standardDeadlineExpired h => some h.operation.operation.token
  | _ => none

/-- The positive answers to a delivery. -/
def Answer.positive : Answer → Bool
  | dispatched (.reply .okay) => true
  | flag accepted => accepted
  | _ => false

/-- Answers that report a failure, a denial or nothing to do. -/
def Answer.isRefusal : Answer → Bool
  | dispatched (.reply r) => r ≠ .okay
  | dispatched .terminate => true
  | dispatched (.start _) => false
  | dispatchedStandard (.reply (.terminal o)) => o = .error || o = .secondOwner || o = .busy
  | dispatchedStandard .terminate => true
  | dispatchedStandard _ => false
  | response r => r = .failure
  | feedback r shown => r = .failure && shown.isNone
  | message m => m = .terminal .error
  | flag accepted => !accepted
  | lifecycle (.cancel _) => false
  | lifecycle _ => true

/-- The event acknowledges a cancellation of the operation with this token. -/
def Acknowledges (e : Event) (token : OperationToken) : Prop :=
  e.input.delivery e.before = some token ∧ e.output.positive = true

/-- The peer of the call had the right to start what the answer started. -/
def Call.Authorized : Call → Prop
  | dispatch peer policy _ _ => policy.peerIsAuthorized peer = true
  | enrollWithoutOwner peer _ => peer.addressFamily = .localFamily ∧ peer.userId ≠ rootUid
  | dispatchStandard peer recordedOwner operation _ =>
    BrokerState.StandardAuthority peer recordedOwner operation
  | _ => False

/-- What a finishing or abandoning call answers for the operation it ends. -/
def Call.Finishes (running : Running) : Call → Answer → Prop
  | finish h completion _, answer => completion.belongsTo h.authentication = true ∧
      answer = .response (running.session.response
        (BrokerSessionCoordinator.operationResult completion.result))
  | finishWithFeedback h completion _, answer =>
    completion.belongsTo h.authentication = true ∧
    answer = .feedback (running.session.response
      (BrokerSessionCoordinator.operationResult completion.result))
      (if running.session.cancelled then none else some completion.result)
  | finishStandard h completion _, answer => completion.belongsTo h.operation = true ∧
      answer = .message (running.session.standardResponse h.operation.operation completion.result)
  | abandon _ _, answer => answer = .response .failure
  | abandonStandard h _, answer =>
    answer = .message (running.session.standardResponse h.operation.operation (.terminal .error))
  | _, _ => False

/-! ### Consistency of the running operation with the issued handles -/

/-- The running operation is the one of an issued handle, and no two issued handles share
a token or a lease. -/
structure Consistent (w : State) (running : Option Running) : Prop where
  represents : w.service.Represents running
  token_spent : ∀ h ∈ w.issued, Ticket.Spent w.service.coordinator.state.nextToken h.token.value
  lease_spent : ∀ h ∈ w.issued, Ticket.Spent w.service.workers.nextLease h.lease.value
  pointers : ∀ h ∈ w.issued, h.slot = w.service.coordinator.cancellation.identity ∧
    w.service.identity = h.serviceIdentity
  token_inj : ∀ h ∈ w.issued, ∀ h' ∈ w.issued, h.token = h'.token → h = h'
  lease_inj : ∀ h ∈ w.issued, ∀ h' ∈ w.issued, h.lease = h'.lease → h = h'
  held : ∀ r ∈ running, ∃ h ∈ w.issued, w.service.HoldsScheduled r h

section Consistent

lemma Consistent.holds_of_token (hc : Consistent w (some r)) (hi : h ∈ w.issued)
    (ht : r.session.token = h.token) : w.service.HoldsScheduled r h := by
  obtain ⟨h0, hi0, hh0⟩ := hc.held r rfl
  obtain rfl := hc.token_inj h hi h0 hi0 (ht.symm.trans hh0.1.1)
  exact hh0

lemma Consistent.holds_of_lease (hc : Consistent w (some r)) (hi : h ∈ w.issued)
    (hl : r.lease = h.lease) : w.service.HoldsScheduled r h := by
  obtain ⟨h0, hi0, hh0⟩ := hc.held r rfl
  obtain rfl := hc.lease_inj h hi h0 hi0 (hl.symm.trans hh0.2.1)
  exact hh0

/-- A handle a caller can have names the running operation, or it is refused everywhere. -/
lemma Consistent.known_cases (hc : Consistent w running) (hk : w.Known h) :
    (∃ r, running = some r ∧ w.service.HoldsScheduled r h) ∨ (w.service.ownsScheduled h = false ∧
      (h.slot ≠ w.service.coordinator.cancellation.identity ∨
        ∀ r ∈ running, r.session.token ≠ h.token)) := by
  by_cases hheld : ∃ r, running = some r ∧ w.service.HoldsScheduled r h
  · exact .inl hheld
  refine Or.inr ?_
  rcases hk with hi | ⟨hid, hslot⟩
  · constructor
    · rw [← Bool.not_eq_true]
      intro howns
      obtain ⟨-, r, rfl, hl⟩ := hc.represents.ownsLease_iff.mp howns
      exact hheld ⟨r, rfl, hc.holds_of_lease hi hl⟩
    · refine Or.inr fun r hr ht => hheld ⟨r, hr, ?_⟩
      cases hr
      exact hc.holds_of_token hi ht
  · refine ⟨?_, .inl hslot⟩
    simp [BrokerServiceScheduler.ownsScheduled, BrokerServiceScheduler.ownsLease, hid.symm]

/-- The same handles stay consistent with a service that keeps its pointers, only spends
more tickets, and runs the same operation or none. -/
lemma Consistent.update (hc : Consistent w running) (hrep : service.Represents running')
    (htoken : ∀ t, Ticket.Spent w.service.coordinator.state.nextToken t →
      Ticket.Spent service.coordinator.state.nextToken t)
    (hlease : service.workers.nextLease = w.service.workers.nextLease)
    (hslot : service.coordinator.cancellation.identity =
      w.service.coordinator.cancellation.identity) (hid : service.identity = w.service.identity)
    (hsame : ∀ r' ∈ running', ∃ r ∈ running, r'.session.token = r.session.token ∧
      r'.session.event = r.session.event ∧ r'.lease = r.lease) :
    Consistent ⟨service, w.issued⟩ running' where
  represents := hrep
  token_spent h hi := htoken _ (hc.token_spent h hi)
  lease_spent h hi := hlease ▸ hc.lease_spent h hi
  pointers h hi := by
    rw [hslot, hid]
    exact hc.pointers h hi
  token_inj := hc.token_inj
  lease_inj := hc.lease_inj
  held r' hr' := by
    obtain ⟨r, hr, ht, he, hl⟩ := hsame r' hr'
    obtain ⟨h, hi, ⟨hht, hhe, hhs⟩, hhl, hhid⟩ := hc.held r hr
    exact ⟨h, hi, ⟨ht.trans hht, he.trans hhe, hhs.trans hslot.symm⟩, hl.trans hhl, hid.trans hhid⟩

end Consistent

/-! ### What one call can do -/

/-- The effect of a call on the running operation, with the answer it gives. -/
inductive Effect (w : State) (c : Call) : Option Running → Answer → State → Option Running → Prop
  | refused (running : Option Running) (answer : Answer) (ha : answer.isRefusal = true) :
      Effect w c running answer w running
  | started (h : Scheduled) (answer : Answer) (deadline : Duration) (hc : c.Authorized)
      (hp : w.service.workers.poisoned = false)
      (hs : answer.started = some h) (ht : w.service.coordinator.state.nextToken ≠ 0)
      (hl : w.service.workers.nextLease ≠ 0)
      (hh : (w.service.begin deadline).HoldsScheduled (w.service.fresh deadline) h) :
      Effect w c none answer ⟨w.service.begin deadline, w.issued ++ [h]⟩
        (some (w.service.fresh deadline))
  | exhausted (answer : Answer) (ha : answer.isRefusal = true)
      (hp : w.service.workers.poisoned = false) (ht : w.service.coordinator.state.nextToken ≠ 0) :
      Effect w c none answer ⟨w.service.exhaust, w.issued⟩ none
  | acknowledged (r : Running) (answer : Answer) (haccepting : r.session.accepting = true)
      (hd : c.delivery w = some r.session.token) (ha : answer.positive = true) :
      Effect w c (some r) answer ⟨w.service.mark r.session.event, w.issued⟩
        (some { r with session := { r.session with cancelled := true } })
  | closed (r : Running) (h : Scheduled) (hc : c = .closeCancellation h)
      (hh : w.service.HoldsScheduled r h) (haccepting : r.session.accepting = true) :
      Effect w c (some r) (.flag !r.session.cancelled) ⟨w.service.shut, w.issued⟩
        (some { r with session := { r.session with accepting := false } })
  | finished (r : Running) (h : Scheduled) (answer : Answer) (now : Duration)
      (hc : c.handle = some h) (hh : w.service.HoldsScheduled r h) (hf : c.Finishes r answer) :
      Effect w c (some r) answer ⟨w.service.release now, w.issued⟩ none
  | lost (r : Running) (h : Scheduled) (hc : c.handle = some h)
      (hh : w.service.HoldsScheduled r h) (hd : c.delivery w = none) :
      Effect w c (some r) (.flag true) ⟨w.service.lose, w.issued⟩ (some r)
  | expired (r : Running) :
      Effect w c (some r) (.lifecycle (.cancel r.lease)) ⟨w.service.expire r, w.issued⟩
        (some { r with cancellationSent := true })

section

open BrokerServiceScheduler

lemma Answer.started_of_isRefusal (h : answer.isRefusal = true) : answer.started = none := by
  unfold Answer.isRefusal at h
  unfold Answer.started
  split <;> simp_all

lemma Answer.not_positive_of_isRefusal (h : answer.isRefusal = true) : answer.positive = false := by
  unfold Answer.isRefusal at h
  unfold Answer.positive
  split <;> simp_all

lemma Answer.started_of_positive (h : answer.positive = true) : answer.started = none := by
  unfold Answer.positive at h
  unfold Answer.started
  split <;> simp_all

lemma State.step_of_call (h : State.call w.service c = (answer, service)) :
    w.step c = (answer, ⟨service, w.issued ++ answer.started.toList⟩) := by
  simp [State.step, h]

lemma State.step_of_quiet (hs : answer.started = none)
    (h : State.call w.service c = (answer, service)) : w.step c = (answer, ⟨service, w.issued⟩) := by
  simp [State.step, h, hs]

lemma effect_of_refusal (answer : Answer) (ha : answer.isRefusal = true)
    (h : State.call w.service c = (answer, w.service)) :
    Effect w c running (w.step c).1 (w.step c).2 running := by
  rw [State.step_of_quiet (Answer.started_of_isRefusal ha) h]
  exact .refused running answer ha

lemma effect_of_dispatched {cancels admitted : Prop}
    {result : ScheduledDispatch × BrokerServiceScheduler}
    (hd : w.service.Dispatched cancels admitted running result)
    (hcall : State.call w.service c = (.dispatched result.1, result.2))
    (hcancels : cancels → c.delivery w =
      w.service.coordinator.state.active.map ActiveOperation.token)
    (hadmitted : admitted → c.Authorized) (hrep : w.service.Represents running) :
    ∃ running', Effect w c running (w.step c).1 (w.step c).2 running' := by
  cases hd with
  | poisoned => exact ⟨running, effect_of_refusal _ rfl hcall⟩
  | refused r hr => exact ⟨running, effect_of_refusal _ (by simpa [Answer.isRefusal] using hr) hcall⟩
  | cancelled r haccepting hc =>
    refine ⟨some { r with session := { r.session with cancelled := true } }, ?_⟩
    rw [State.step_of_quiet rfl hcall]
    refine .acknowledged r _ haccepting ?_ rfl
    rw [hcancels hc, hrep.session.active_eq]
    rfl
  | started operation deadline ha htoken hfresh hlease hp =>
    refine ⟨some (w.service.fresh deadline), ?_⟩
    rw [State.step_of_call hcall]
    exact .started (.authentication _) _ deadline (hadmitted ha) hp rfl hfresh hlease
      ⟨⟨htoken.symm, rfl, rfl⟩, rfl, rfl⟩
  | exhausted ha hfresh hp =>
    refine ⟨none, ?_⟩
    rw [State.step_of_quiet rfl hcall]
    exact .exhausted _ rfl hp hfresh

lemma effect_of_standardDispatched {peer : PeerMetadata} {recordedOwner : Option AccessPolicy}
    {operation : ResolvedStandardOperation} {now : Duration} (hrep : w.service.Represents running) :
    ∃ running', Effect w (.dispatchStandard peer recordedOwner operation now) running
      (w.step (.dispatchStandard peer recordedOwner operation now)).1
      (w.step (.dispatchStandard peer recordedOwner operation now)).2 running' := by
  have hd := dispatchStandard_dispatched hrep peer recordedOwner operation now
  have hcall : State.call w.service (.dispatchStandard peer recordedOwner operation now) =
    (.dispatchedStandard (w.service.dispatchStandard peer recordedOwner operation now).1,
      (w.service.dispatchStandard peer recordedOwner operation now).2) := rfl
  generalize w.service.dispatchStandard peer recordedOwner operation now = result at hd hcall
  cases hd with
  | poisoned => exact ⟨running, effect_of_refusal _ rfl hcall⟩
  | refused outcome ho =>
    refine ⟨running, effect_of_refusal _ ?_ hcall⟩
    simpa [Answer.isRefusal, or_assoc] using ho
  | started authorized deadline hauthority _ htoken hfresh hlease hp =>
    refine ⟨some (w.service.fresh deadline), ?_⟩
    rw [State.step_of_call hcall]
    exact .started (.standard _) _ deadline hauthority hp rfl hfresh hlease
      ⟨⟨htoken.symm, rfl, rfl⟩, rfl, rfl⟩
  | exhausted _ hfresh hp =>
    refine ⟨none, ?_⟩
    rw [State.step_of_quiet rfl hcall]
    exact .exhausted _ rfl hp hfresh

lemma call_of_not_owned (hrep : w.service.Represents running) (hc : c.handle = some h)
    (howns : w.service.ownsScheduled h = false)
    (hforeign : h.slot ≠ w.service.coordinator.cancellation.identity ∨
      ∀ r ∈ running, r.session.token ≠ h.token) :
    ∃ answer, answer.isRefusal = true ∧ State.call w.service c = (answer, w.service) := by
  cases c <;> simp only [Call.handle, Option.some.injEq, reduceCtorEq] at hc <;> subst hc
  case closeCancellation h =>
    have hclose : w.service.closeCancellation h.token h.event h.slot = (false, w.service) :=
      closeCancellation_foreign hrep (hforeign.imp_right fun hf r hr => .inl (hf r hr))
    exact ⟨.flag false, rfl, by simp only [State.call, hclose]⟩
  case finish h completion now =>
    have ho : w.service.owns h = false := howns
    exact ⟨.response .failure, rfl, by simp [State.call, finish, ho]⟩
  case finishWithFeedback h completion now =>
    have ho : w.service.owns h = false := howns
    exact ⟨.feedback .failure none, rfl, by simp [State.call, finishWithFeedback, ho]⟩
  case finishStandard h completion now =>
    have ho : w.service.ownsStandard h = false := howns
    exact ⟨.message (.terminal .error), rfl, by simp [State.call, finishStandard, ho]⟩
  case abandon h now =>
    have ho : w.service.owns h = false := howns
    exact ⟨.response .failure, rfl, by simp [State.call, abandon, ho]⟩
  case abandonStandard h now =>
    have ho : w.service.ownsStandard h = false := howns
    exact ⟨.message (.terminal .error), rfl, by simp [State.call, abandonStandard, ho]⟩
  all_goals
    refine ⟨.flag false, rfl, ?_⟩
    simp only [ownsScheduled, Scheduled.serviceIdentity, Scheduled.lease] at howns
    simp [State.call, clientDisconnected, cancelStandard, standardClientDisconnected,
      deadlineExpired, standardDeadlineExpired,
      workerLost, standardWorkerLost,
      owns, ownsStandard, howns]

/-- A delivery to the running operation is acknowledged or finds its registration closed. -/
lemma effect_of_delivery (hd : c.delivery w = some r.session.token)
    (hcall : State.call w.service c =
      (.flag (w.service.delivered r).1, (w.service.delivered r).2)) :
    ∃ running', Effect w c (some r) (w.step c).1 (w.step c).2 running' := by
  unfold delivered at hcall
  cases ha : r.session.accepting with
  | true =>
    refine ⟨some { r with session := { r.session with cancelled := true } }, ?_⟩
    rw [ha] at hcall
    rw [State.step_of_quiet rfl hcall]
    exact .acknowledged r (.flag true) ha hd rfl
  | false =>
    rw [ha] at hcall
    exact ⟨some r, effect_of_refusal _ rfl hcall⟩

/-- A finishing call that passes its checks ends the running operation. -/
lemma effect_of_finish (now : Duration) (hc : c.handle = some h)
    (hh : w.service.HoldsScheduled r h) (hf : c.Finishes r answer) (hs : answer.started = none)
    (hcall : State.call w.service c = (answer, w.service.release now)) :
    ∃ running', Effect w c (some r) (w.step c).1 (w.step c).2 running' := by
  refine ⟨none, ?_⟩
  rw [State.step_of_quiet hs hcall]
  exact .finished r h answer now hc hh hf

lemma effect_of_lost (hc : c.handle = some h) (hh : w.service.HoldsScheduled r h)
    (hd : c.delivery w = none) (hcall : State.call w.service c = (.flag true, w.service.lose)) :
    ∃ running', Effect w c (some r) (w.step c).1 (w.step c).2 running' := by
  refine ⟨some r, ?_⟩
  rw [State.step_of_quiet rfl hcall]
  exact .lost r h hc hh hd

/-- A call with the handle of the running operation acts on it, or is refused. -/
lemma effect_of_held (hrep : w.service.Represents (some r)) (hc : c.handle = some h)
    (hh : w.service.HoldsScheduled r h) :
    ∃ running', Effect w c (some r) (w.step c).1 (w.step c).2 running' := by
  cases c <;> simp only [Call.handle, Option.some.injEq, reduceCtorEq] at hc <;> subst hc
  case finish h completion now =>
    by_cases hok : w.service.workers.poisoned = false ∧ w.service.owns h = true ∧
        completion.belongsTo h.authentication = true
    · have hf := finish_held hrep hh hok.1 hok.2.2 now
      exact effect_of_finish now rfl hh ⟨hok.2.2, rfl⟩ rfl (by simp only [State.call, hf])
    · have hr := finish_refused hok now
      exact ⟨_, effect_of_refusal (.response .failure) rfl (by simp only [State.call, hr])⟩
  case finishWithFeedback h completion now =>
    by_cases hok : w.service.workers.poisoned = false ∧ w.service.owns h = true ∧
        completion.belongsTo h.authentication = true
    · have hf := finishWithFeedback_held hrep hh hok.1 hok.2.2 now
      exact effect_of_finish now rfl hh ⟨hok.2.2, rfl⟩ rfl (by simp only [State.call, hf])
    · have hr := finishWithFeedback_refused hok now
      exact ⟨_, effect_of_refusal (.feedback .failure none) rfl (by simp only [State.call, hr])⟩
  case finishStandard h completion now =>
    by_cases hok : w.service.workers.poisoned = false ∧ w.service.ownsStandard h = true ∧
        completion.belongsTo h.operation = true
    · have hf := finishStandard_held hrep hh hok.1 hok.2.2 now
      exact effect_of_finish now rfl hh ⟨hok.2.2, rfl⟩ rfl (by simp only [State.call, hf])
    · have hr := finishStandard_refused now hok
      exact ⟨_, effect_of_refusal (.message (.terminal .error)) rfl (by simp only [State.call, hr])⟩
  case abandon h now =>
    have hf := abandon_held hrep hh now
    exact effect_of_finish now rfl hh rfl rfl (by simp only [State.call, hf])
  case abandonStandard h now =>
    have hf := abandonStandard_held hrep hh now
    exact effect_of_finish now rfl hh rfl rfl (by simp only [State.call, hf])
  case clientDisconnected h | deadlineExpired h =>
    exact effect_of_delivery (congrArg some hh.1.1.symm) (by
      simp only [State.call, clientDisconnected_held hrep hh, deadlineExpired_held hrep hh])
  case cancelStandard h | standardClientDisconnected h | standardDeadlineExpired h =>
    exact effect_of_delivery (congrArg some hh.1.1.symm) (by
      simp only [State.call, cancelStandard_held hrep hh, standardDeadlineExpired,
        standardClientDisconnected_held hrep hh])
  case workerLost h =>
    exact effect_of_lost rfl hh rfl (by
      simp only [State.call, workerLost_held hrep hh])
  case standardWorkerLost h =>
    exact effect_of_lost rfl hh rfl (by
      simp only [State.call, standardWorkerLost_held hrep hh])
  case closeCancellation h =>
    have hclose := closeCancellation_held hrep hh.1
    cases ha : r.session.accepting with
    | true =>
      refine ⟨some { r with session := { r.session with accepting := false } }, ?_⟩
      rw [ha] at hclose
      rw [State.step_of_quiet rfl (by simp only [State.call, hclose]; rfl)]
      exact .closed r h rfl hh ha
    | false =>
      simp only [ha, Bool.false_and, Bool.false_eq_true, if_false] at hclose
      exact ⟨_, effect_of_refusal (.flag false) rfl (by simp only [State.call, hclose])⟩

/-- **What one call can do.** -/
theorem step_effect (hcons : Consistent w running) (he : ∀ h ∈ c.handle, w.Known h) :
    ∃ running', Effect w c running (w.step c).1 (w.step c).2 running' := by
  have hrep := hcons.represents
  cases hhandle : c.handle with
  | some h =>
    rcases hcons.known_cases (he h hhandle) with ⟨r, rfl, hh⟩ | ⟨howns, hforeign⟩
    · exact effect_of_held hrep hhandle hh
    · obtain ⟨answer, ha, hcall⟩ := call_of_not_owned hrep hhandle howns hforeign
      exact ⟨running, effect_of_refusal answer ha hcall⟩
  | none =>
    cases c <;> simp only [Call.handle, reduceCtorEq] at hhandle
    case dispatch peer policy packet now =>
      exact effect_of_dispatched (dispatch_dispatched hrep peer policy packet now) rfl
        (fun h => by simp only [Call.delivery, h.1]) And.left hrep
    case dispatchStandard peer recordedOwner operation now =>
      exact effect_of_standardDispatched hrep
    case enrollWithoutOwner peer now =>
      exact effect_of_dispatched (enrollWithoutOwner_dispatched hrep peer now) rfl
        False.elim id hrep
    case cancelWithoutOwner peer =>
      exact effect_of_dispatched (cancelWithoutOwner_dispatched hrep peer) rfl
        (fun _ => rfl) False.elim hrep
    case decide now listenerReady =>
      rcases decide_represented hrep now listenerReady with
        ⟨decision, hd, hcall⟩ | ⟨r, rfl, -, -, -, hcall⟩
      · refine ⟨running, effect_of_refusal (.lifecycle decision) ?_
          (by simp only [State.call, hcall])⟩
        cases decision <;> simp_all [Answer.isRefusal]
      · refine ⟨some { r with cancellationSent := true }, ?_⟩
        rw [State.step_of_quiet rfl (by simp only [State.call, hcall]; rfl)]
        exact .expired r

/-- Every effect keeps the running operation tied to the issued handles. -/
lemma Effect.consistent (hcons : Consistent w running)
    (he : Effect w c running answer w' running') : Consistent w' running' := by
  cases he with
  | refused => exact hcons
  | started h _ deadline _ _ hs ht hl hh =>
    have htoken : h.token = ⟨w.service.coordinator.state.nextToken⟩ := hh.1.1.symm
    have hlease : h.lease = ⟨w.service.workers.nextLease⟩ := hh.2.1.symm
    have hvalue : h.token.value = w.service.coordinator.state.nextToken :=
      congrArg OperationToken.value htoken
    have hvalue' : h.lease.value = w.service.workers.nextLease :=
      congrArg WorkerLease.value hlease
    have htokens := Ticket.inj_issue (fun x : Scheduled => x.token.value) ht hvalue
      hcons.token_spent fun x hx y hy heq =>
        hcons.token_inj x hx y hy (congrArg OperationToken.mk heq)
    have hleases := Ticket.inj_issue (fun x : Scheduled => x.lease.value) hl hvalue'
      hcons.lease_spent fun x hx y hy heq =>
        hcons.lease_inj x hx y hy (congrArg WorkerLease.mk heq)
    constructor
    · exact hcons.represents.begin deadline
    · exact Ticket.spent_issue (fun x : Scheduled => x.token.value) ht hvalue hcons.token_spent
    · exact Ticket.spent_issue (fun x : Scheduled => x.lease.value) hl hvalue' hcons.lease_spent
    · exact List.forall_mem_append.mpr
        ⟨hcons.pointers, List.forall_mem_singleton.mpr ⟨hh.1.2.2, hh.2.2⟩⟩
    · intro h1 h1i h2 h2i heq
      exact htokens h1 h1i h2 h2i (congrArg OperationToken.value heq)
    · intro h1 h1i h2 h2i heq
      exact hleases h1 h1i h2 h2i (congrArg WorkerLease.value heq)
    · rintro r ⟨⟩
      exact ⟨h, by simp, hh⟩
  | exhausted _ _ _ ht =>
    exact hcons.update hcons.represents.exhaust (fun t h => h.advance ht) rfl rfl rfl (by simp)
  | acknowledged r =>
    exact hcons.update hcons.represents.mark (fun _ => id) rfl rfl rfl (by simp)
  | closed r => exact hcons.update hcons.represents.shut (fun _ => id) rfl rfl rfl (by simp)
  | finished r _ _ now =>
    exact hcons.update (hcons.represents.release now) (fun _ => id) rfl rfl rfl (by simp)
  | lost r => exact hcons.update hcons.represents.lose (fun _ => id) rfl rfl rfl (by simp)
  | expired r => exact hcons.update hcons.represents.expire (fun _ => id) rfl rfl rfl (by simp)

lemma consistent_init (h : broker.init w) : Consistent w none := by
  obtain ⟨hi, slot, identity, now, idleTimeout, hnew⟩ := h
  have hservice : ∃ workers, BrokerScheduler.new now idleTimeout = .ok workers ∧
      w.service = ⟨{ cancellation := { identity := slot } }, workers, identity⟩ := by
    unfold new at hnew
    split at hnew
    · cases hnew
    · next workers hw => exact ⟨workers, hw, (Except.ok.inj hnew).symm⟩
  obtain ⟨workers, hw, hservice⟩ := hservice
  have hactive : workers.active = none := by
    unfold BrokerScheduler.new at hw
    split_ifs at hw
    cases hw
    rfl
  refine ⟨?_, by simp [hi], by simp [hi], by simp [hi], by simp [hi], by simp [hi], by simp⟩
  rw [hservice]
  exact ⟨⟨rfl, rfl, rfl, by simp⟩, hactive⟩

/-- In every reachable state the service runs at most one operation, an issued one. -/
lemma consistent_of_reachable (h : broker.Reachable w) : ∃ running, Consistent w running := by
  refine h.invariant (I := fun w => ∃ running, Consistent w running)
    (fun w hw => ⟨none, consistent_init hw⟩) ?_
  rintro w c he ⟨running, hcons⟩
  obtain ⟨running', heff⟩ := step_effect hcons he
  exact ⟨running', heff.consistent hcons⟩

end

/-- Unless it is finished, the running operation stays with its handle. -/
lemma Effect.held (he : Effect w c (some r) answer w' running') (hh : w.service.HoldsScheduled r h)
    (hne : ∀ h', c.handle = some h' → w.service.HoldsScheduled r h' → ¬ c.Finishes r answer) :
    ∃ r', running' = some r' ∧ w'.service.HoldsScheduled r' h := by
  cases he with
  | refused => exact ⟨r, rfl, hh⟩
  | acknowledged | closed | lost | expired => exact ⟨_, rfl, hh⟩
  | finished _ h' _ _ hc hh' hf => exact absurd hf (hne h' hc hh')

/-! ### One operation across both protocols -/

/-- A session started with this token on this slot would be installed, and the worker slot
would not answer that it is busy. -/
def Unblocked (w : State) (token : OperationToken) (slot : CancellationSlot) : Prop :=
  (slot.newEvent.2.install token slot.newEvent.1).1 = .ok () ∧
    ∀ now timeout, (w.service.workers.admitWithTimeout now timeout).1 ≠ .busy

lemma Consistent.unblocked (hc : Consistent w running) {s' : BrokerState} {token : OperationToken}
    (hs : w.service.coordinator.state.startToken = (.start token, s')) :
    Unblocked w token w.service.coordinator.cancellation := by
  obtain ⟨ha, -, -, -⟩ := BrokerState.startToken_start_iff.mp hs
  have hv := hc.represents.1.eq_none_of_active ha
  obtain rfl := Option.map_eq_none_iff.mp hv
  have hworkers : w.service.workers.active = none := hc.represents.2
  constructor
  · rw [BrokerSessionCoordinator.install_represented hc.represents.1]
  · exact BrokerServiceScheduler.admitWithTimeout_ne_busy hworkers

/-- An issued handle owns the worker slot exactly when its token is the active one. -/
lemma Consistent.owns_iff_token (hc : Consistent w running) (hi : h ∈ w.issued) :
    w.service.ownsScheduled h = true ↔
      ∃ active ∈ w.service.coordinator.state.active, active.token = h.token := by
  rw [BrokerServiceScheduler.ownsScheduled, hc.represents.ownsLease_iff, hc.represents.1.2.1]
  cases running with
  | none => simp
  | some r =>
    simp only [Option.mem_def, Option.map_some, Option.some.injEq, exists_eq_left']
    constructor
    · rintro ⟨-, hl⟩
      exact (hc.holds_of_lease hi hl).1.1
    · intro ht
      exact ⟨(hc.pointers h hi).2, (hc.holds_of_token hi ht).2.1⟩

lemma Consistent.owner_unique (hc : Consistent w running) {h' : Scheduled} (hi : h ∈ w.issued)
    (hi' : h' ∈ w.issued) (ho : w.service.ownsScheduled h = true)
    (ho' : w.service.ownsScheduled h' = true) : h = h' := by
  obtain ⟨active, ha, ht⟩ := (hc.owns_iff_token hi).mp ho
  obtain ⟨active', ha', ht'⟩ := (hc.owns_iff_token hi').mp ho'
  obtain rfl := Option.mem_unique ha ha'
  exact hc.token_inj h hi h' hi' (ht.symm.trans ht')

/-- A handle is handed out only when nothing runs, and then it runs. -/
lemma Effect.of_started (he : Effect w c running answer w' running')
    (hs : answer.started = some h) : running = none ∧ c.Authorized ∧ h ∈ w'.issued ∧
      ∃ r, running' = some r ∧ w'.service.HoldsScheduled r h := by
  cases he with
  | started h' _ deadline hc _ hs' _ _ hh =>
    obtain rfl : h' = h := Option.some.inj (hs'.symm.trans hs)
    exact ⟨rfl, hc, by simp, _, rfl, hh⟩
  | refused _ _ ha | exhausted _ ha => simp [Answer.started_of_isRefusal ha] at hs
  | acknowledged _ _ _ _ ha => simp [Answer.started_of_positive ha] at hs
  | finished _ _ _ _ _ _ hf => cases c <;> simp_all [Call.Finishes, Answer.started]
  | closed | lost | expired => simp [Answer.started] at hs

lemma Effect.token_ne_of_started (hc : Consistent w running)
    (he : Effect w c running answer w' running') (hs : answer.started = some h) :
    ∀ h' ∈ w.issued, h'.token ≠ h.token := by
  intro h' hi heq
  obtain ⟨rfl, -, -, r, rfl, hholds⟩ := he.of_started hs
  have hspent := hc.token_spent h' hi
  cases he with
  | started _ _ deadline _ _ _ ht =>
    rw [heq, ← hholds.1.1] at hspent
    exact Ticket.not_spent_self ht hspent

/-- **One operation.** In every reachable state the coordinator has an active operation
exactly when the worker slot is occupied, both belong to the same issued handle, and an
installed registration carries the active token.  So after the broker has admitted a
request neither the installation nor the worker slot can refuse it, and at most one issued
handle, of either protocol, owns the worker slot; a new one is handed out only when none
does. -/
theorem one_operation_at_a_time {w : State} (h : broker.Reachable w) :
    (w.service.coordinator.state.active.isSome = w.service.workers.active.isSome ∧
      (∀ active ∈ w.service.coordinator.state.active, ∀ worker ∈ w.service.workers.active,
        ∃ h ∈ w.issued, h.token = active.token ∧ h.lease = worker.lease) ∧
      (∀ h ∈ w.issued, w.service.ownsScheduled h = true ↔
        ∃ active ∈ w.service.coordinator.state.active, active.token = h.token) ∧
      (∀ registration ∈ w.service.coordinator.cancellation.registration,
        ∃ active ∈ w.service.coordinator.state.active, active.token = registration.token)) ∧
    ((∀ peer policy packet operation state slot,
        w.service.coordinator.state.handlePacketWithCancellation CancellationSlot.deliver
          peer policy packet w.service.coordinator.cancellation = (.start operation, state, slot) →
        Unblocked w operation.token slot) ∧ (∀ peer operation state,
        w.service.coordinator.state.enrollWithoutOwner peer = (.start operation, state) →
        Unblocked w operation.token w.service.coordinator.cancellation) ∧
      (∀ peer recordedOwner requested operation state,
        w.service.coordinator.state.dispatchStandard peer recordedOwner requested =
          (.start operation, state) →
        Unblocked w operation.token w.service.coordinator.cancellation)) ∧
    (∀ h ∈ w.issued, ∀ h' ∈ w.issued, w.service.ownsScheduled h = true →
      w.service.ownsScheduled h' = true → h = h') ∧
    (∀ c, broker.enabled w c → ∀ h, (w.step c).1.started = some h →
      ∀ h' ∈ w.issued, w.service.ownsScheduled h' = false) := by
  obtain ⟨running, hc⟩ := consistent_of_reachable h
  have hstate := hc.represents.1.2.1
  have hworkers := hc.represents.2
  refine ⟨⟨?_, ?_, fun h hi => hc.owns_iff_token hi, ?_⟩, ⟨?_, ?_, ?_⟩, ?_, ?_⟩
  · rw [hstate, hworkers]
    cases running <;> rfl
  · cases running with
    | none => simp [hstate]
    | some r =>
      obtain ⟨h, hi, hh⟩ := hc.held r rfl
      rw [hstate, hworkers]
      rintro active ⟨⟩ worker ⟨⟩
      exact ⟨h, hi, hh.1.1.symm, hh.2.1.symm⟩
  · intro registration hr
    obtain ⟨session, hsession, rfl⟩ := hc.represents.1.registered hr
    rw [hstate, Option.mem_def.mp hsession]
    exact ⟨_, rfl, rfl⟩
  · intro peer policy packet operation state slot hd
    have hdisp := @BrokerState.handlePacketWithCancellation_dispatched _ CancellationSlot.deliver
      w.service.coordinator.state peer policy packet w.service.coordinator.cancellation
    rw [hd] at hdisp
    obtain ⟨hs, rfl, -⟩ := hdisp.of_start
    exact hc.unblocked hs
  · intro peer operation state hd
    have hdisp := @BrokerState.enrollWithoutOwner_dispatched _ CancellationSlot.deliver
      w.service.coordinator.state peer w.service.coordinator.cancellation
    rw [hd] at hdisp
    exact hc.unblocked hdisp.of_start.1
  · intro peer recordedOwner requested operation state hd
    rcases BrokerState.dispatchStandard_cases w.service.coordinator.state peer recordedOwner
      requested with ⟨_, _, hr⟩ | ⟨_, _, _, _, hs, hr⟩
    · simp [hr, standardReply] at hd
    rw [hr] at hd
    cases hd
    exact hc.unblocked hs
  · intro h hi h' hi' ho ho'
    exact hc.owner_unique hi hi' ho ho'
  intro c he h hs h' _
  obtain ⟨running', heff⟩ := step_effect hc he
  obtain ⟨rfl, -⟩ := heff.of_started hs
  rw [← Bool.not_eq_true]
  intro ho
  obtain ⟨-, r, hr, -⟩ := hc.represents.ownsLease_iff.mp ho
  cases hr

/-- A service that was started at time zero and has seen no call. -/
def idleState : State :=
  ⟨⟨{ cancellation := { identity := 0 } }, ⟨.ofSecs 30, .ofSecs 0, none, 1, false⟩, 1⟩, []⟩

lemma idleState_init : broker.init idleState :=
  ⟨rfl, 0, 1, .ofSecs 0, .ofSecs 30, rfl⟩

def rootPeer : PeerMetadata := ⟨.localFamily, rootUid, 0⟩

def ownerPolicy : AccessPolicy := ⟨1000, by decide⟩

/-- Root's authentication request at time zero. -/
def rootAuthenticates : Call := .dispatch rootPeer ownerPolicy Request.authenticate.encode (.ofSecs 0)

theorem one_operation_at_a_time_root :
    (broker.final idleState [rootAuthenticates]).service.workers.active.isSome = true ∧
    (broker.final idleState [rootAuthenticates]).service.coordinator.state.active.isSome =
      (broker.final idleState [rootAuthenticates]).service.workers.active.isSome :=
  have hrun : broker.Allowed idleState [rootAuthenticates] := ⟨by rintro _ ⟨⟩, trivial⟩
  ⟨by decide, (one_operation_at_a_time ⟨_, _, idleState_init, hrun.run⟩).1.1⟩

end Service

end T1Bridge
