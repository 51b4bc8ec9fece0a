import T1Bridge.Auth.Catalog

/-! # The seqpacket sockets of the daemon

The transport below both protocols.  A system call is an observation: what the descriptor
check, `recvmsg` and `sendmsg` report is given, and `receive` and `send` are the code's
reading of it.  On top of them stand the two adapters: `dispatchConnection` answers one
request on the direct socket, and a `StandardSocketConnection` keeps the protocol state of
one standard client together with the one reply that may wait to be sent.

`Answered` and `Served` say what one receive can do on either socket, given the running
operation of the service; the daemon's proofs go through these cases only. -/

namespace T1Bridge

open BrokerServiceScheduler (cancelWithoutOwner dispatch dispatchStandard dispatch_dispatched
  enrollWithoutOwner finishStandard_held schedule_ne_terminate standardClientDisconnected_held)

variable {completion : StandardCompletion} {w : Option Running}

inductive SeqPacketError where
  | invalidArgument | descriptorInspection | wrongSocket | notListener | notConnected
  | wouldBlock | interrupted | accept | credentials | receive | truncated | peerClosed
  | send | shortSend | activation | wrongPath | readiness | connect | peerDenied | unknown
deriving DecidableEq

/-- An accepted connection, named by its descriptor. -/
abbrev Client := ℕ

abbrev Errno := ℕ

def eintr : Errno := 4

def eagain : Errno := 11

def econnreset : Errno := 104

def transientStatus (error : Errno) (permanentStatus : SeqPacketError) : SeqPacketError :=
  if error = eintr then .interrupted
  else if error = eagain then .wouldBlock
  else permanentStatus

/-- One packet as `recvmsg` delivers it, with its control data. -/
structure Delivery where
  bytes : Packet
  controlTruncated : Bool
  ancillaryValid : Bool
  descriptorCount : ℕ

/-- What the descriptor check and then `recvmsg` report. -/
structure Reception where
  validated : Except SeqPacketError Unit
  message : Except Errno Delivery

/-- A receive that accepts no descriptor: a packet longer than the buffer has the
truncation flag set, and an empty one is the end of the connection. -/
def receive (r : Reception) (capacity : ℕ) : Except SeqPacketError Packet :=
  match r.validated with
  | .error status => .error status
  | .ok () =>
    match r.message with
    | .error errno => .error (transientStatus errno .receive)
    | .ok d =>
      if capacity < d.bytes.length ∨ d.controlTruncated ∨ !d.ancillaryValid ∨
          d.descriptorCount ≠ 0 then .error .truncated
      else if d.bytes = [] then .error .peerClosed
      else .ok d.bytes

/-- The receive failed in a way that both adapters treat as permanent. -/
def ReceiveFails (r : Reception) (capacity : ℕ) : Prop :=
  ∃ error, receive r capacity = .error error ∧ error ≠ .wouldBlock ∧ error ≠ .interrupted ∧
    error ≠ .peerClosed ∧ error ≠ .truncated

/-- What the descriptor check and then `sendmsg` report. -/
structure Transmission where
  validated : Except SeqPacketError Unit
  result : Except Errno ℕ

def send (t : Transmission) (packet : Packet) : Except SeqPacketError Unit :=
  if packet = [] then .error .invalidArgument
  else
    match t.validated with
    | .error status => .error status
    | .ok () =>
      match t.result with
      | .error errno => .error (transientStatus errno .send)
      | .ok length => if length ≠ packet.length then .error .shortSend else .ok ()

structure PeerCredentials where
  processId : ℕ
  userId : UInt32
  groupId : UInt32

def localPeer (credentials : PeerCredentials) : PeerMetadata :=
  ⟨.localFamily, credentials.userId, credentials.groupId⟩

/-! ### The direct socket -/

def requestCapacity : ℕ := requestSize

/-- What a receive on the direct socket leads to. -/
inductive CoreDispatch where
  | pending
  | closed
  | reply (response : Response)
  | start (scheduled : ScheduledAuthentication)
  | terminate

def CoreDispatch.ofScheduled : ScheduledDispatch → CoreDispatch
  | .reply response => .reply response
  | .start scheduled => .start scheduled
  | .terminate => .terminate

/-- The request of a peer, with the policy read before: without a policy only a
cancellation or a first enrollment reaches the service. -/
def dispatchRequest (peer : PeerMetadata) (policy : Except EnrollmentOwnerError AccessPolicy)
    (packet : Packet) (service : BrokerServiceScheduler) (now : Duration) :
    CoreDispatch × BrokerServiceScheduler :=
  match policy with
  | .ok policy =>
    let (decision, service) := service.dispatch peer policy packet now
    (.ofScheduled decision, service)
  | .error ownerError =>
    match decodeRequest packet with
    | .ok .cancel =>
      let (decision, service) := service.cancelWithoutOwner peer
      (.ofScheduled decision, service)
    | .ok .enroll =>
      if ownerError = .missingOwner ∧ peer.userId ≠ rootUid then
        let (decision, service) := service.enrollWithoutOwner peer now
        (.ofScheduled decision, service)
      else (.reply .denied, service)
    | .error _ => (.reply .denied, service)
    | .ok .authenticate => (.reply .failure, service)
    | .ok .approve => (.reply .failure, service)

/-- The answer that the policy gives before any byte is read. -/
def earlyReply (peer : PeerMetadata) : Except EnrollmentOwnerError AccessPolicy → Option Response
  | .ok policy => if !policy.peerIsAuthorized peer then some .denied else none
  | .error .missingOwner => none
  | .error _ => if peer.userId ≠ rootUid then some .failure else none

variable (credentials : Except SeqPacketError PeerCredentials)

def dispatchConnection (policy : Except EnrollmentOwnerError AccessPolicy) (reception : Reception)
    (service : BrokerServiceScheduler) (now : Duration) :
    Except SeqPacketError CoreDispatch × BrokerServiceScheduler :=
  match credentials with
  | .error .credentials => (.ok (.reply .denied), service)
  | .error error => (.error error, service)
  | .ok credentials =>
    let peer := localPeer credentials
    match earlyReply peer policy with
    | some response => (.ok (.reply response), service)
    | none =>
      match receive reception requestCapacity with
      | .error .wouldBlock => (.ok .pending, service)
      | .error .interrupted => (.ok .pending, service)
      | .error .peerClosed => (.ok .closed, service)
      | .error .truncated => (.ok (.reply .denied), service)
      | .error error => (.error error, service)
      | .ok packet =>
        if packet.length > requestCapacity then (.ok (.reply .denied), service)
        else
          let (dispatch, service) := dispatchRequest peer policy packet service now
          (.ok dispatch, service)

/-- What was done about a client that may be gone. -/
inductive DisconnectObservation where
  | connected
  | cancellationDelivered
  | cancellationUnavailable

/-- A confirmed close or a failed probe asks for cancellation of exactly this operation. -/
def observeDisconnectResult (peerClosed : Except SeqPacketError Bool)
    (service : BrokerServiceScheduler) (scheduled : ScheduledAuthentication) :
    DisconnectObservation × BrokerServiceScheduler :=
  match peerClosed with
  | .ok false => (.connected, service)
  | _ =>
    match service.clientDisconnected scheduled with
    | (true, service) => (.cancellationDelivered, service)
    | (false, service) => (.cancellationUnavailable, service)

/-- Anything but a confirmed connection delivers a cancellation to the running operation. -/
lemma observeDisconnectResult_held {service : BrokerServiceScheduler} {r : Running}
    {scheduled : ScheduledAuthentication} (h : service.Represents (some r))
    (hh : service.HoldsAuthentication r scheduled) (peerClosed : Except SeqPacketError Bool) :
    peerClosed = .ok false ∧
      observeDisconnectResult peerClosed service scheduled = (.connected, service) ∨
    peerClosed ≠ .ok false ∧ ∃ observation, observation ≠ .connected ∧
      observeDisconnectResult peerClosed service scheduled =
        (observation, (service.delivered r).2) := by
  have hlost : ∃ observation, observation ≠ DisconnectObservation.connected ∧
      (match service.clientDisconnected scheduled with
        | (true, service) => (DisconnectObservation.cancellationDelivered, service)
        | (false, service) => (DisconnectObservation.cancellationUnavailable, service)) =
        (observation, (service.delivered r).2) := by
    rw [BrokerServiceScheduler.clientDisconnected_held h hh]
    rcases service.delivered r with ⟨_ | _, after⟩
    · exact ⟨.cancellationUnavailable, by simp, rfl⟩
    · exact ⟨.cancellationDelivered, by simp, rfl⟩
  cases peerClosed with
  | error e => exact .inr ⟨by simp, hlost⟩
  | ok closed =>
    cases closed with
    | false => exact .inl ⟨rfl, rfl⟩
    | true => exact .inr ⟨by simp, hlost⟩

/-- A root peer sends the fixed cancellation request on the direct socket. -/
def RootCancels (reception : Reception) : Prop :=
  ∃ c packet, credentials = .ok c ∧ c.userId = rootUid ∧
    receive reception requestCapacity = .ok packet ∧ decodeRequest packet = .ok .cancel

/-- An operation request is read on the direct socket. -/
def RequestsOperation (reception : Reception) : Prop :=
  ∃ packet request, receive reception requestCapacity = .ok packet ∧
    decodeRequest packet = .ok request ∧ request ≠ .cancel

section

variable (service : BrokerServiceScheduler) (cancels requests : Prop) (now : Duration)

/-- The cases of `dispatchConnection` for an unpoisoned service. -/
inductive Answered :
    Option Running → Except SeqPacketError CoreDispatch × BrokerServiceScheduler → Prop
  | failed {w : _} (error : SeqPacketError) : Answered w (.error error, service)
  | waiting {w : _} : Answered w (.ok .pending, service)
  | closed {w : _} : Answered w (.ok .closed, service)
  | refused {w : _} (response : Response) : Answered w (.ok (.reply response), service)
  | cancelled (running : Running) (haccepting : running.session.accepting = true)
      (hcancels : cancels) :
      Answered (some running) (.ok (.reply .okay), service.mark running.session.event)
  | started (scheduled : ScheduledAuthentication) (deadline : Duration)
      (hh : (service.begin deadline).HoldsAuthentication (service.fresh deadline) scheduled) :
      Answered none (.ok (.start scheduled), service.begin deadline)
  | exhausted (hrequests : requests) (hroom : ¬ service.HasRoom now) :
      Answered none (.ok .terminate, service.exhaust)

end

section Answered

variable {service : BrokerServiceScheduler} {cancels requests : Prop} {now : Duration}

lemma Answered.of_dispatched {cancels' admitted : Prop}
    {result : ScheduledDispatch × BrokerServiceScheduler}
    (hd : service.Dispatched cancels' admitted w result)
    (hp : service.workers.poisoned = false) (hc : cancels' → cancels)
    (hr : admitted → requests)
    (hroom : w = none → service.HasRoom now → result.1 ≠ .terminate) :
    Answered service cancels requests now w (.ok (.ofScheduled result.1), result.2) := by
  cases hd with
  | poisoned hp' =>
    rw [hp] at hp'
    cases hp'
  | refused r => exact .refused r
  | cancelled running haccepting hcancels => exact .cancelled running haccepting (hc hcancels)
  | started operation deadline _ htoken =>
    exact .started _ deadline ⟨⟨htoken.symm, rfl, rfl⟩, rfl, rfl⟩
  | exhausted hadmitted => exact .exhausted (hr hadmitted) fun h => hroom rfl h rfl

lemma dispatchRequest_answered (h : service.Represents w)
    (hp : service.workers.poisoned = false) {peer : PeerMetadata} {packet : Packet}
    (hc : decodeRequest packet = .ok .cancel → peer.IsLocalRoot → cancels)
    (hr : ∀ request, decodeRequest packet = .ok request → request ≠ .cancel → requests)
    (policy : Except EnrollmentOwnerError AccessPolicy) (now : Duration) :
    Answered service cancels requests now w (.ok (dispatchRequest peer policy packet service now).1,
        (dispatchRequest peer policy packet service now).2) := by
  unfold dispatchRequest
  have hfree : w = none → service.workers.active = none := by
    rintro rfl
    exact h.2
  cases policy with
  | ok policy =>
    refine .of_dispatched (dispatch_dispatched h peer policy packet now)
      hp (fun hcancel => hc hcancel.1 hcancel.2)
      (fun ⟨_, request, hdecode, hne⟩ => hr request hdecode hne) fun hw hroom => ?_
    rw [dispatch, if_neg (by simp [hp])]
    exact schedule_ne_terminate hroom hp (hfree hw) _ _
  | error ownerError =>
    cases hdecode : decodeRequest packet with
    | error => exact .refused _
    | ok request =>
      cases request with
      | cancel =>
        refine .of_dispatched
          (BrokerServiceScheduler.cancelWithoutOwner_dispatched h peer) hp (hc hdecode)
          False.elim fun _ _ => ?_
        simp [cancelWithoutOwner, hp]
      | enroll =>
        dsimp only
        split_ifs
        · refine .of_dispatched
            (BrokerServiceScheduler.enrollWithoutOwner_dispatched h peer now) hp False.elim
            (fun _ => hr .enroll hdecode (by simp)) fun hw hroom => ?_
          rw [enrollWithoutOwner, if_neg (by simp [hp])]
          exact schedule_ne_terminate hroom hp (hfree hw) _ _
        · exact .refused _
      | authenticate | approve => exact .refused _

lemma dispatchConnection_answered (h : service.Represents w)
    (hp : service.workers.poisoned = false) (credentials : Except SeqPacketError PeerCredentials)
    (policy : Except EnrollmentOwnerError AccessPolicy) (reception : Reception) (now : Duration) :
    Answered service (RootCancels credentials reception) (RequestsOperation reception) now w
      (dispatchConnection credentials policy reception service now) := by
  unfold dispatchConnection
  split
  · exact .refused _
  · exact .failed _
  next c =>
  dsimp only
  split
  · exact .refused _
  split
  · exact .waiting
  · exact .waiting
  · exact .closed
  · exact .refused _
  · exact .failed _
  next packet hreceive =>
  split_ifs
  · exact .refused _
  · exact dispatchRequest_answered h hp
      (fun hdecode hroot => ⟨c, packet, rfl, hroot.2, hreceive, hdecode⟩)
      (fun request hdecode hne => ⟨packet, request, hreceive, hdecode, hne⟩) policy now

end Answered

/-! ### The standard socket -/

inductive StandardSocketError where
  | socket (error : SeqPacketError)
  | connection
  | replyPending
deriving DecidableEq

/-- What a receive on a standard connection leads to. -/
inductive StandardSocketEvent where
  | pending
  | closed
  | replyQueued
  | start (job : StandardWorkerJob)
  | cancellationPending
  | terminate

/-- One persistent connection with one bounded outbound slot. -/
structure StandardSocketConnection where
  client : Client
  connection : StandardConnection
  outbound : Option StandardReply

/-- The recorded owner is read only for a packet that asks for an operation. -/
def ownerFor (packet : Packet) (accessPolicy : Except EnrollmentOwnerError AccessPolicy) :
    Except EnrollmentOwnerError (Option AccessPolicy) :=
  match decodeClient packet with
  | .error _ => .ok none
  | .ok message =>
    match message.connectionAction with
    | .start _ =>
      match accessPolicy with
      | .ok owner => .ok (some owner)
      | .error .missingOwner => .ok none
      | .error error => .error error
    | .queryCapabilities => .ok none
    | .open => .ok none
    | .cancelActive => .ok none

namespace StandardSocketConnection

/-- Accepts a root peer; other peers are dropped before anything is read. -/
def accept (client : Client) (credentials : Except SeqPacketError PeerCredentials)
    (config : StandardConnectionConfig) :
    Except StandardSocketError (Option StandardSocketConnection) :=
  match credentials with
  | .ok credentials =>
    if credentials.userId = rootUid then
      match StandardConnection.new (localPeer credentials) config with
      | .ok connection => .ok (some ⟨client, connection, none⟩)
      | .error _ => .error .connection
    else .ok none
  | .error .credentials => .ok none
  | .error error => .error (.socket error)

variable (c : StandardSocketConnection)

def hasPendingReply : Bool := c.outbound.isSome

/-- The slot takes the new reply in any case; an old one in it is an error. -/
def queue (reply : StandardReply) : Except StandardSocketError Unit × StandardSocketConnection :=
  (if c.outbound.isSome then .error .replyPending else .ok (), { c with outbound := some reply })

/-- Queues a reply and reports it as the event of the call. -/
def queueEvent (reply : StandardReply) (service : BrokerServiceScheduler) :
    Except StandardSocketError StandardSocketEvent × StandardSocketConnection ×
      BrokerServiceScheduler :=
  let (queued, c) := c.queue reply
  (queued.map fun _ => .replyQueued, c, service)

variable (service : BrokerServiceScheduler)

def receiveAndDispatch
    (reception : Reception) (accessPolicy : Except EnrollmentOwnerError AccessPolicy)
    (resolve : Resolve) (now : Duration) :
    Except StandardSocketError StandardSocketEvent × StandardSocketConnection ×
      BrokerServiceScheduler :=
  if c.outbound.isSome then (.ok .pending, c, service)
  else
    match receive reception maxPacketSize with
    | .error .wouldBlock => (.ok .pending, c, service)
    | .error .interrupted => (.ok .pending, c, service)
    | .error .peerClosed => (.ok .closed, c, service)
    | .error .truncated => c.queueEvent (.new (.terminal .error)) service
    | .error error => (.error (.socket error), c, service)
    | .ok packet =>
      match ownerFor packet accessPolicy with
      | .error _ => c.queueEvent (.new (.terminal .error)) service
      | .ok owner =>
        let (dispatch, connection, service) :=
          c.connection.dispatchPacketWith service owner packet now resolve
        let c := { c with connection := connection }
        match dispatch with
        | .reply reply => c.queueEvent reply service
        | .start job => (.ok (.start job), c, service)
        | .cancellationPending => (.ok .cancellationPending, c, service)
        | .terminate => (.ok .terminate, c, service)

def queueWorkerProgress (job : StandardWorkerJob) (progress : EnrollProgress) :
    Except StandardSocketError Unit × StandardSocketConnection :=
  match c.connection.workerProgress job progress with
  | .error _ => (.error .connection, c)
  | .ok reply => c.queue reply

def finishWorker (completion : StandardCompletion) (now : Duration) :
    Except StandardSocketError StandardSocketEvent × StandardSocketConnection ×
      BrokerServiceScheduler :=
  let (dispatch, connection, service) := c.connection.finishWorker service completion now
  let c := { c with connection := connection }
  match dispatch with
  | .reply reply => c.queueEvent reply service
  | .terminate => (.ok .terminate, c, service)
  | .start _ => (.error .connection, c, service)
  | .cancellationPending => (.error .connection, c, service)

/-- Attempts the queued send; a reply that would block goes back into the slot. -/
def flushReply (transmission : Transmission) :
    Except StandardSocketError Bool × StandardSocketConnection :=
  match c.outbound with
  | none => (.ok true, c)
  | some reply =>
    match send transmission reply.packet with
    | .ok () => (.ok true, { c with outbound := none })
    | .error .wouldBlock => (.ok false, c)
    | .error .interrupted => (.ok false, c)
    | .error error => (.error (.socket error), { c with outbound := none })

def clientDisconnected : Bool × BrokerServiceScheduler :=
  c.connection.clientDisconnected service

def deadlineExpired : Bool × BrokerServiceScheduler :=
  c.connection.deadlineExpired service

def isActiveIn : Bool :=
  c.connection.isActiveIn service

def discardReply : StandardSocketConnection :=
  { c with outbound := none }

def workerLost : StandardSocketEvent × StandardSocketConnection × BrokerServiceScheduler :=
  let (_, connection, service) := c.connection.workerLost service
  (.terminate, { c with connection := connection }, service)

lemma accept_fresh {client : Client} {credentials : Except SeqPacketError PeerCredentials}
    {config : StandardConnectionConfig} {c : StandardSocketConnection}
    (h : accept client credentials config = .ok (some c)) :
    c.connection.active = none ∧ c.outbound = none := by
  unfold accept StandardConnection.new at h
  split at h
  · split_ifs at h
    · simp only [Except.ok.injEq, Option.some.injEq] at h
      subst h
      exact ⟨rfl, rfl⟩
    · cases h
  · cases h
  · cases h

/-! ### What one call on a standard connection can do -/

/-- An operation request is read on a standard socket. -/
def RequestsStandard (reception : Reception) : Prop :=
  ∃ packet message, receive reception maxPacketSize = .ok packet ∧
    decodeClient packet = .ok message ∧
    ¬ (message = .getCapabilities ∨ message = .open ∨ message = .cancel)

section

variable (reception : Reception) (now : Duration)

/-- The cases of `receiveAndDispatch` for an unpoisoned service.  A reply is queued only
into a free slot, so `replyPending` is not among the errors. -/
inductive Served : Option Running → Except StandardSocketError StandardSocketEvent ×
      StandardSocketConnection × BrokerServiceScheduler → Prop
  | failed {w : _} (error : SeqPacketError)
      (hfails : ReceiveFails reception maxPacketSize) :
      Served w (.error (.socket error), c, service)
  | waiting {w : _} : Served w (.ok .pending, c, service)
  | closed {w : _} : Served w (.ok .closed, c, service)
  | answered {w : _} (reply : StandardReply) (opened : Bool) :
      Served w (.ok .replyQueued,
        { c with connection := { c.connection with opened := opened }, outbound := some reply },
        service)
  | cancelled {w : _} (active : ScheduledStandardOperation)
      (hactive : c.connection.active = some active) :
      Served w (.ok .cancellationPending, c, (service.cancelStandard active).2)
  | started (scheduled : ScheduledStandardOperation) (deadline : Duration)
      (hidle : c.connection.active = none) (hfree : c.outbound = none)
      (hh : (service.begin deadline).HoldsStandard (service.fresh deadline) scheduled) :
      Served none (.ok (.start ⟨scheduled.operation, scheduled.deadline⟩),
        { c with connection := { c.connection with active := some scheduled } },
        service.begin deadline)
  | exhausted (hrequests : RequestsStandard reception) (hroom : ¬ service.HasRoom now) :
      Served none (.ok .terminate, c, service.exhaust)

end

variable {c} {service} {r : Running} {scheduled : ScheduledStandardOperation}

lemma queueEvent_of_free (hfree : c.outbound = none) (reply : StandardReply)
    (service : BrokerServiceScheduler) :
    c.queueEvent reply service = (.ok .replyQueued, { c with outbound := some reply }, service) := by
  simp [queueEvent, queue, hfree, Except.map]

lemma receiveAndDispatch_served (h : service.Represents w)
    (hp : service.workers.poisoned = false) (reception : Reception)
    (accessPolicy : Except EnrollmentOwnerError AccessPolicy) (resolve : Resolve) (now : Duration) :
    Served c service reception now w
      (c.receiveAndDispatch service reception accessPolicy resolve now) := by
  unfold receiveAndDispatch
  split_ifs with hout
  · exact .waiting
  have hfree : c.outbound = none := by simpa using hout
  have herror : Served c service reception now w (c.queueEvent (.new (.terminal .error)) service) := by
    rw [queueEvent_of_free hfree]
    exact .answered _ c.connection.opened
  split
  · exact .waiting
  · exact .waiting
  · exact .closed
  · exact herror
  · next error hwould hint hclosed htrunc hreceive =>
    exact .failed error ⟨error, hreceive, hwould, hint, hclosed, htrunc⟩
  next packet hreceive =>
  split
  · exact herror
  next owner _ =>
  have hpacket := StandardConnection.dispatchPacketWith_packeted c.connection service
    owner packet now resolve
  generalize c.connection.dispatchPacketWith service owner packet now resolve = result at hpacket
  have hreply : ∀ (message : ServerMessage) (opened : Bool), Served c service reception now w
      (StandardSocketConnection.queueEvent
        { c with connection := { c.connection with opened := opened } }
        (.new message) service) := by
    intro message opened
    rw [queueEvent_of_free
      (c := { c with connection := { c.connection with opened := opened } }) hfree]
    exact .answered _ opened
  cases hpacket with
  | malformed | busy | immediate => exact hreply _ c.connection.opened
  | cancelled active hactive => exact .cancelled active hactive
  | opened => exact hreply _ true
  | dispatched hidle _ message hdecode operation hresolve =>
    have hd := BrokerServiceScheduler.dispatchStandard_dispatched h c.connection.peer
      owner operation now
    have hroom : w = none → service.HasRoom now →
        (service.dispatchStandard c.connection.peer owner operation now).1 ≠ .terminate := by
      rintro rfl hr
      rw [dispatchStandard, if_neg (by simp [hp])]
      exact BrokerServiceScheduler.scheduleStandard_ne_terminate hr hp h.2 _ _
    generalize service.dispatchStandard c.connection.peer owner operation now = decision at hd hroom
    cases hd with
    | poisoned hp' =>
      rw [hp] at hp'
      cases hp'
    | refused outcome => exact hreply _ c.connection.opened
    | started authorized deadline _ _ htoken =>
      exact .started _ deadline hidle hfree ⟨⟨htoken.symm, rfl, rfl⟩, rfl, rfl⟩
    | exhausted =>
      refine .exhausted ⟨packet, message, hreceive, hdecode, ?_⟩ fun hr => hroom rfl hr rfl
      rintro (rfl | rfl | rfl) <;> cases hresolve

/-- The exact worker's completion: the lease is released and the reply queued. -/
lemma finishWorker_held (hfree : c.outbound = none)
    (hactive : c.connection.active = some scheduled) (h : service.Represents (some r))
    (hh : service.HoldsStandard r scheduled) (hp : service.workers.poisoned = false)
    (hb : completion.belongsTo scheduled.operation = true) (now : Duration) :
    c.finishWorker service completion now = (.ok .replyQueued, { c with
        connection := { c.connection with active := none }
        outbound := some (.new
          (r.session.standardResponse scheduled.operation.operation completion.result)) },
      service.release now) := by
  unfold finishWorker StandardConnection.finishWorker
  simp only [hactive, hb, finishStandard_held h hh hp hb]
  exact queueEvent_of_free
    (c := { c with connection := { c.connection with active := none } }) hfree _ _

lemma finishWorker_foreign (hactive : c.connection.active = some scheduled)
    (h : service.Represents (some r)) (hh : service.HoldsStandard r scheduled)
    (hb : completion.belongsTo scheduled.operation = false) (now : Duration) :
    c.finishWorker service completion now = (.ok .terminate,
      { c with connection := { c.connection with active := none } }, service.lose) := by
  unfold finishWorker StandardConnection.finishWorker
  simp [hactive, hb, BrokerServiceScheduler.standardWorkerLost_held h hh]

lemma queueWorkerProgress_cases (hfree : c.outbound = none) (job : StandardWorkerJob)
    (progress : EnrollProgress) :
    c.queueWorkerProgress job progress = (.error .connection, c) ∨
    ∃ reply, c.queueWorkerProgress job progress = (.ok (), { c with outbound := some reply }) := by
  unfold queueWorkerProgress
  cases c.connection.workerProgress job progress with
  | error => exact .inl rfl
  | ok reply => exact .inr ⟨reply, by simp [queue, hfree]⟩

section

variable (hactive : c.connection.active = some scheduled)

include hactive

variable (h : service.Represents (some r))

include h

lemma clientDisconnected_held (hh : service.HoldsStandard r scheduled) :
    c.clientDisconnected service = service.delivered r := by
  simp only [clientDisconnected, StandardConnection.clientDisconnected, hactive]
  exact standardClientDisconnected_held h hh

lemma deadlineExpired_held (hh : service.HoldsStandard r scheduled) :
    c.deadlineExpired service = service.delivered r := by
  simp only [deadlineExpired, StandardConnection.deadlineExpired, hactive]
  exact standardClientDisconnected_held h hh

lemma isActiveIn_held (hh : service.HoldsStandard r scheduled) : c.isActiveIn service = true := by
  simp [isActiveIn, StandardConnection.isActiveIn, hactive, hh.owns h]

end

/-- A flush keeps the reply, hands it over, or fails to. -/
lemma flushReply_cases {reply : StandardReply} (hout : c.outbound = some reply)
    (transmission : Transmission) :
    c.flushReply transmission = (.ok false, c) ∨
    c.flushReply transmission = (.ok true, { c with outbound := none }) ∨
    ∃ error, c.flushReply transmission = (.error (.socket error), { c with outbound := none }) := by
  unfold flushReply
  rw [hout]
  dsimp only
  split
  · exact .inr (.inl rfl)
  · exact .inl rfl
  · exact .inl rfl
  · exact .inr (.inr ⟨_, rfl⟩)

end StandardSocketConnection

end T1Bridge
