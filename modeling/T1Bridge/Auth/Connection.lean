import T1Bridge.Auth.History

/-! # One standard fingerprint connection

A `StandardConnection` turns the packets of one local client into calls on the shared
broker service: it remembers whether the client has opened the device and which scheduled
operation, if any, runs for it.  Account names are resolved by a function outside this
code, so it is a parameter `resolve`. -/

namespace T1Bridge

inductive NssAccountError where
  | invalidInput | lookupFailed | notFound | nonCanonical | root | unrepresentable
  | invalidResult | nativeBoundary

abbrev Resolve := Username → Except NssAccountError ResolvedStandardAccount

inductive StandardConnectionError where
  | nonLocalPeer | invalidCapabilities | noActiveOperation | foreignWorker | invalidProgress

/-- The capabilities that every connection announces. -/
structure StandardConnectionConfig where
  capabilities : Capabilities

/-- The operations that the daemon advertises. -/
def CapabilitySet.every : CapabilitySet := ⟨0x3f, by decide⟩

/-- The exact operation and deadline a worker runs. -/
structure StandardWorkerJob where
  operation : ActiveStandardOperation
  deadline : Duration

def StandardWorkerJob.completion (job : StandardWorkerJob) (result : ServerMessage) :
    StandardCompletion :=
  StandardCompletion.new job.operation result

def StandardWorkerJob.belongsTo (job : StandardWorkerJob)
    (scheduled : ScheduledStandardOperation) : Bool :=
  (job.completion (.terminal .error)).belongsTo scheduled.operation

/-- A server message with its packet. -/
structure StandardReply where
  message : ServerMessage
  packet : Packet
  encoded : encodeServer message = .ok packet

/-- The packet of the fixed error response. -/
def errorPacket : Packet := magic ++ [fingerprintVersion, 0x85, 0, 0, 0, 1, 0, 0, 10]

def StandardReply.new (message : ServerMessage) : StandardReply :=
  match h : encodeServer message with
  | .ok packet => ⟨message, packet, h⟩
  | .error _ => ⟨.terminal .error, errorPacket, rfl⟩

/-- A message that has no packet is replaced by the error response. -/
lemma StandardReply.new_message (message : ServerMessage) :
    (StandardReply.new message).message = message ∨
      (StandardReply.new message).message = .terminal .error := by
  unfold StandardReply.new
  split
  · exact .inl rfl
  · exact .inr rfl

lemma StandardReply.new_message_of_encoded {message : ServerMessage} {packet : Packet}
    (h : encodeServer message = .ok packet) : (StandardReply.new message).message = message := by
  unfold StandardReply.new
  split
  · rfl
  next he =>
  rw [h] at he
  cases he

/-- A local peer's connection; `new` refuses every other peer. -/
structure StandardConnection where
  peer : PeerMetadata
  config : StandardConnectionConfig
  opened : Bool
  active : Option ScheduledStandardOperation
  peer_local : peer.addressFamily = .localFamily

/-- What the loop has to do after a packet. -/
inductive StandardConnectionDispatch where
  | reply (reply : StandardReply)
  | start (job : StandardWorkerJob)
  | cancellationPending
  | terminate

def StandardConnectionDispatch.message (message : ServerMessage) : StandardConnectionDispatch :=
  .reply (StandardReply.new message)

def resolveOperation (resolve : Resolve) :
    ClientMessage → Except NssAccountError ResolvedStandardOperation
  | .listIdentities => .ok .listIdentities
  | .enroll username finger => do return .enroll (← resolve username) finger
  | .verify username identity => do return .verify (← resolve username) identity
  | .identify username => do return .identify (← resolve username)
  | .deleteIdentity username identity => do return .deleteIdentity (← resolve username) identity
  -- the connection controls are handled before, `unreachable!` in the source
  | .getCapabilities => .error .invalidInput
  | .open => .error .invalidInput
  | .cancel => .error .invalidInput

namespace StandardConnection

def new (peer : PeerMetadata) (config : StandardConnectionConfig) :
    Except StandardConnectionError StandardConnection :=
  if h : peer.addressFamily = .localFamily then .ok ⟨peer, config, false, none, h⟩
  else .error .nonLocalPeer

variable (conn : StandardConnection) (service : BrokerServiceScheduler)

/-- The scheduler's answer to an operation, with the new handle kept in the connection. -/
def admitted : ScheduledStandardDispatch →
      StandardConnectionDispatch × StandardConnection × BrokerServiceScheduler
  | .reply message => (.message message, conn, service)
  | .start scheduled =>
    (.start ⟨scheduled.operation, scheduled.deadline⟩, { conn with active := some scheduled },
      service)
  | .terminate => (.terminate, conn, service)

def dispatchPacketWith (recordedOwner : Option AccessPolicy) (packet : Packet) (now : Duration)
    (resolve : Resolve) :
    StandardConnectionDispatch × StandardConnection × BrokerServiceScheduler :=
  match decodeClient packet with
  | .error _ => (.message (.terminal .error), conn, service)
  | .ok message =>
    match conn.active with
    | some active =>
      if message = .cancel then
        let (_, service) := service.cancelStandard active
        (.cancellationPending, conn, service)
      else (.message (.terminal .busy), conn, service)
    | none =>
      match message with
      | .getCapabilities => (.message (.capabilities conn.config.capabilities), conn, service)
      | .open => (.message .opened, { conn with opened := true }, service)
      | .cancel => (.message (.terminal .error), conn, service)
      | message =>
        if !conn.opened then (.message (.terminal .error), conn, service)
        else
          match resolveOperation resolve message with
          | .error _ => (.message (.terminal .error), conn, service)
          | .ok operation =>
            let (decision, service) :=
              service.dispatchStandard conn.peer recordedOwner operation now
            conn.admitted service decision

/-- Nonterminal progress is accepted only from the exact enrollment worker. -/
def workerProgress (worker : StandardWorkerJob)
    (progress : EnrollProgress) : Except StandardConnectionError StandardReply :=
  match conn.active with
  | none => .error .noActiveOperation
  | some scheduled =>
    if !worker.belongsTo scheduled then .error .foreignWorker
    else if worker.operation.operation.operation.kind ≠ .enroll then .error .invalidProgress
    else .ok (StandardReply.new (.enrollProgress progress))

/-- Finalizes one exact worker; a foreign completion counts as a lost worker. -/
def finishWorker (completion : StandardCompletion) (now : Duration) :
    StandardConnectionDispatch × StandardConnection × BrokerServiceScheduler :=
  match conn.active with
  | none => (.terminate, conn, service)
  | some scheduled =>
    let conn := { conn with active := none }
    if !completion.belongsTo scheduled.operation then
      let (_, service) := service.standardWorkerLost scheduled
      (.terminate, conn, service)
    else
      let (message, service) := service.finishStandard scheduled completion now
      (.message message, conn, service)

def clientDisconnected : Bool × BrokerServiceScheduler :=
  match conn.active with
  | none => (false, service)
  | some active => service.standardClientDisconnected active

def deadlineExpired : Bool × BrokerServiceScheduler :=
  match conn.active with
  | none => (false, service)
  | some active => service.standardDeadlineExpired active

def isActiveIn : Bool :=
  conn.active.any fun active => service.ownsStandard active

def workerLost : StandardConnectionDispatch × StandardConnection × BrokerServiceScheduler :=
  match conn.active with
  | none => (.terminate, conn, service)
  | some scheduled =>
    let (_, service) := service.standardWorkerLost scheduled
    (.terminate, { conn with active := none }, service)

/-! ### What one packet can do -/

section

variable (recordedOwner : Option AccessPolicy) (packet : Packet) (now : Duration)
  (resolve : Resolve)

/-- The cases of `dispatchPacketWith`, with the service call that each one makes. -/
inductive Packeted : StandardConnectionDispatch × StandardConnection × BrokerServiceScheduler → Prop
  | malformed (e : ProtocolError) (hdecode : decodeClient packet = .error e) : Packeted
        (.message (.terminal .error), conn, service)
  | cancelled (active : ScheduledStandardOperation) (hactive : conn.active = some active)
      (hdecode : decodeClient packet = .ok .cancel) :
      Packeted (.cancellationPending, conn, (service.cancelStandard active).2)
  | busy (active : ScheduledStandardOperation) (hactive : conn.active = some active)
      (message : ClientMessage) (hdecode : decodeClient packet = .ok message)
      (hne : message ≠ .cancel) : Packeted (.message (.terminal .busy), conn, service)
  | immediate (hidle : conn.active = none) (message : ServerMessage)
      (hmessage : message ≠ .opened) : Packeted (.message message, conn, service)
  | opened (hidle : conn.active = none) (hdecode : decodeClient packet = .ok .open) : Packeted
        (.message .opened, { conn with opened := true }, service)
  | dispatched (hidle : conn.active = none) (hopened : conn.opened = true)
      (message : ClientMessage) (hdecode : decodeClient packet = .ok message)
      (operation : ResolvedStandardOperation)
      (hresolve : resolveOperation resolve message = .ok operation) :
      Packeted (conn.admitted (service.dispatchStandard conn.peer recordedOwner operation now).2
          (service.dispatchStandard conn.peer recordedOwner operation now).1)

end

variable {conn} {service} {recordedOwner : Option AccessPolicy} {packet : Packet} {now : Duration}
  {resolve : Resolve}

lemma packeted_of_operation (hidle : conn.active = none) {message : ClientMessage}
    (hdecode : decodeClient packet = .ok message) :
    Packeted conn service recordedOwner packet now resolve
      (if !conn.opened then (.message (.terminal .error), conn, service) else
        match resolveOperation resolve message with
        | .error _ => (.message (.terminal .error), conn, service)
        | .ok operation =>
          conn.admitted (service.dispatchStandard conn.peer recordedOwner operation now).2
            (service.dispatchStandard conn.peer recordedOwner operation now).1) := by
  cases hopened : conn.opened with
  | false => exact .immediate hidle _ (by simp)
  | true =>
    cases hresolve : resolveOperation resolve message with
    | error => exact .immediate hidle _ (by simp)
    | ok operation => exact .dispatched hidle hopened message hdecode operation hresolve

lemma dispatchPacketWith_packeted (conn : StandardConnection)
    (service : BrokerServiceScheduler) (recordedOwner : Option AccessPolicy) (packet : Packet)
    (now : Duration) (resolve : Resolve) : Packeted conn service recordedOwner packet now resolve
      (conn.dispatchPacketWith service recordedOwner packet now resolve) := by
  unfold dispatchPacketWith
  cases hdecode : decodeClient packet with
  | error e => exact .malformed e hdecode
  | ok message =>
    cases hactive : conn.active with
    | some active =>
      dsimp only
      split_ifs with hcancel
      · subst hcancel
        exact .cancelled active hactive hdecode
      · exact .busy active hactive message hdecode hcancel
    | none =>
      cases message with
      | getCapabilities | cancel => exact .immediate hactive _ (by simp)
      | «open» =>
        have h : Packeted conn service recordedOwner packet now resolve _ :=
          .opened hactive hdecode
        simpa only [hactive] using h
      | listIdentities | enroll | verify | identify | deleteIdentity =>
        exact packeted_of_operation hactive hdecode

end StandardConnection

end T1Bridge
