import T1Bridge.Lib.Stateful
import T1Bridge.Sep.Acm
import T1Bridge.Sep.Keystore
import T1Bridge.Sep.Urb

/-! # Sessions

A session owns the transport and the identities of the relay.  Its functions run on the state of
the session and fail with a result; a failure of the transport or of the protocol poisons it.
The transfer buffers are the arguments and results of the transfers.  Every answer of the
surroundings is free. -/

namespace T1Bridge.Sep

/-- What a session asks of its transport and of the clock. -/
inductive SepOp where
  | exchange (output : Packet) (timeoutMs : ℕ)
  | sendOnly (output : Packet) (timeoutMs : ℕ)
  | receiveOnly (timeoutMs : ℕ)
  | destroyTransport
  | monotonicMs

@[reducible] def SepOp.Answer : SepOp → Type
  | exchange _ _ | receiveOnly _ => Urb.Status × Packet
  | sendOnly _ _ | destroyTransport => Urb.Status
  | monotonicMs => Option ℕ

abbrev SepProg := Prog SepOp SepOp.Answer

abbrev SepEvent := Prog.Event SepOp SepOp.Answer

abbrev SepLog := List SepEvent

def ask (op : SepOp) : SepProg op.Answer := Prog.perform op

end T1Bridge.Sep

namespace T1Bridge.Sep.Session

open Prog (Proc)

/-- Why a call of the session fails. -/
inductive Failure where
  | argument | state | clock | transport | timeout | protocol | skipLimit | poisoned | teardown
deriving DecidableEq

/-- A session ends poisoned or closed. -/
inductive Phase where
  | new | ready | poisoned | closed
deriving DecidableEq

/-- The deadline of an operation is `none` where it is not set. -/
structure State where
  relay : Relay.State
  operationDeadlineMs : Option ℕ
  phase : Phase
deriving DecidableEq

abbrev SessionProc := Proc SepOp SepOp.Answer State Failure

/-- One request to the surroundings. -/
def request (op : SepOp) : SessionProc op.Answer := (ask op : SepProg op.Answer)

variable {α : Type}

def poison (result : Failure) : SessionProc α := do
  modify fun s => { s with phase := .poisoned }
  throw result

/-! ### Deadlines -/

variable (timeoutMs : ℕ)

def beginDeadline : SessionProc ℕ := do
  let s ← get
  if timeoutMs = 0 ∨ timeoutMs > Urb.maxTimeoutMs then throw .argument
  else if s.phase = .poisoned then throw .poisoned
  else if s.phase = .closed then throw .state
  else
    match ← request .monotonicMs with
    | none => poison .clock
    | some now =>
      if 2 ^ 64 - 1 - now < timeoutMs then poison .clock
      else
        match s.operationDeadlineMs with
        | none => pure (now + timeoutMs)
        | some deadline =>
          if now ≥ deadline then poison .timeout
          else pure (min deadline (now + timeoutMs))

def setOperationDeadline (deadlineMs : ℕ) : SessionProc Unit := do
  let s ← get
  if deadlineMs = 0 ∨ s.operationDeadlineMs.isSome then throw .argument
  else if s.phase = .poisoned then throw .poisoned
  else if s.phase = .closed then throw .state
  else
    match ← request .monotonicMs with
    | none => poison .clock
    | some now =>
      if now ≥ deadlineMs then poison .timeout
      else if deadlineMs - now > 0xffffffff then throw .argument
      else set { s with operationDeadlineMs := some deadlineMs }

def releaseOperationDeadline : SessionProc Unit := do
  let s ← get
  match s.operationDeadlineMs with
  | none => throw .argument
  | some deadlineMs =>
    if s.phase = .poisoned then throw .poisoned
    else if s.phase = .closed then throw .state
    else
      match ← request .monotonicMs with
      | none => poison .clock
      | some now =>
        if now ≥ deadlineMs then poison .timeout
        else set { s with operationDeadlineMs := none }

def remainingTimeout (deadline : ℕ) : SessionProc ℕ := do
  match ← request .monotonicMs with
  | none => poison .clock
  | some now =>
    if now ≥ deadline then poison .timeout
    else pure (min (deadline - now) Urb.maxTimeoutMs)

/-! ### Transfers -/

def transportFailure (status : Urb.Status) : SessionProc α :=
  if status = .timedOut then poison .timeout else poison .transport

variable (output : Packet)

def exchangeTransfer (deadline : ℕ) : SessionProc Packet := do
  let remaining ← remainingTimeout deadline
  let (status, input) ← request (.exchange output remaining)
  if status = .ok then pure input else transportFailure status

def sendTransfer (deadline : ℕ) : SessionProc Unit := do
  let remaining ← remainingTimeout deadline
  let status ← request (.sendOnly output remaining)
  if status = .ok then pure () else transportFailure status

def receiveTransfer (deadline : ℕ) : SessionProc Packet := do
  let remaining ← remainingTimeout deadline
  let (status, input) ← request (.receiveOnly remaining)
  if status = .ok then pure input else transportFailure status

/-- A transfer that the relay builds; where it cannot, the session is poisoned. -/
def reserve (build : Relay.State → Except Relay.Error (Packet × Relay.Pending × Relay.State)) :
    SessionProc (Packet × Relay.Pending) := do
  let s ← get
  match build s.relay with
  | .error _ => poison .protocol
  | .ok (output, pending, relay) =>
    set { s with relay := relay }
    pure (output, pending)

def parseControlReply (input : Packet)
    (accept : Relay.State → Relay.Message → Except Relay.Error Relay.State) : SessionProc Unit := do
  let s ← get
  match Relay.parse input Relay.bufferSize with
  | .error _ => poison .protocol
  | .ok m =>
    match accept s.relay m with
    | .error _ => poison .protocol
    | .ok relay => set { s with relay := relay }

/-! ### Calls -/

/-- A call on a session that is not in the phase it needs. -/
def wrongPhase (phase : Phase) : SessionProc α :=
  throw (if phase = .poisoned then .poisoned else .state)

def announceEndpoint (deadline : ℕ) (endpoint : UInt32) : SessionProc Unit := do
  let (output, _) ← reserve fun relay => Relay.buildEndpointEnable relay endpoint true
  sendTransfer output deadline

def negotiate : SessionProc Unit := do
  let s ← get
  if s.phase ≠ .new then wrongPhase s.phase
  else
    let deadline ← beginDeadline timeoutMs
    let (output, pending) ← reserve Relay.buildGetVersion
    let input ← exchangeTransfer output deadline
    parseControlReply input fun relay m => Relay.acceptVersion relay m pending
    let (output, pending) ← reserve Relay.buildEndpointStatus
    let input ← exchangeTransfer output deadline
    parseControlReply input fun relay m => Relay.acceptEndpointStatus relay m pending
    announceEndpoint deadline Relay.acmEndpoint
    announceEndpoint deadline 2
    announceEndpoint deadline Relay.keystoreEndpoint
    modify fun s => { s with phase := .ready }

/-- The loop of `wait_for_reply`; the waiter ends it before the attempts do. -/
def awaitReply (deadline : ℕ) : ℕ → Relay.Waiter → Packet → SessionProc Relay.Message
  | 0, _, _ => poison .protocol
  | attempts + 1, waiter, input =>
    match Relay.waiterConsume waiter input Relay.bufferSize with
    | .ok (.matched m) => pure m
    | .ok (.skipped _ waiter) => do
      let input ← receiveTransfer deadline
      awaitReply deadline attempts waiter input
    | .error .skipLimit => poison .skipLimit
    | .error _ => poison .protocol

def waitForReply (pending : Relay.Pending) (deadline : ℕ) : SessionProc Relay.Message :=
  match Relay.waiterInit pending Relay.defaultSkipLimit with
  | .error _ => poison .protocol
  | .ok waiter => do
    let input ← exchangeTransfer output deadline
    awaitReply deadline Relay.defaultSkipLimit waiter input

/-- A reply, or the refusal of the remote side. -/
def keystoreExchange (sha : Keystore.Sha256) (operation : Keystore.Operation) (bytes : Packet)
    (timeoutMs : ℕ) : SessionProc Keystore.Parsed := do
  let s ← get
  if bytes.length ≠ operation.requestLength then throw .argument
  else if s.phase ≠ .ready then wrongPhase s.phase
  else
    let deadline ← beginDeadline timeoutMs
    match Keystore.wrapRequest sha s.relay operation bytes with
    | .error .relay => poison .protocol
    | .error _ => throw .argument
    | .ok (output, pending, relay) =>
      set { s with relay := relay }
      let m ← waitForReply output pending deadline
      match Keystore.parseReply m pending operation with
      | .ok parsed => pure parsed
      | .error _ => poison .protocol

/-- Whether a notification came; a receive that times out or is interrupted leaves the session
as it was. -/
def drainNotification : SessionProc Bool := do
  let s ← get
  if timeoutMs = 0 ∨ timeoutMs > Urb.maxTimeoutMs then throw .argument
  else if s.phase ≠ .ready then wrongPhase s.phase
  else
    let (status, input) ← request (.receiveOnly timeoutMs)
    match status with
    | .timedOut | .interrupted => pure false
    | .ok =>
      match Relay.parse input Relay.bufferSize with
      | .error _ => poison .protocol
      | .ok m =>
        if Relay.classify m = .keystoreNotification then pure true else poison .protocol
    | status => transportFailure status

/-- A session and the state of the context that it works on. -/
structure Link where
  session : State
  acm : Acm.State
deriving DecidableEq

abbrev LinkProc := Proc SepOp SepOp.Answer Link Failure

def onSession (p : SessionProc α) : LinkProc α :=
  Proc.zoom Link.session (fun s link => { link with session := s }) p

/-- `sep_acm_mark_ambiguous` for a reply that never came. -/
def orAmbiguous (p : SessionProc Relay.Message) : LinkProc Relay.Message :=
  tryCatch (onSession p) fun e => do
    modify fun link => { link with acm := Acm.markAmbiguous link.acm }
    throw e

/-- Whether the remote side accepted the command, and what it said. -/
def acmExchange (command : Acm.Command) (timeoutMs : ℕ) : LinkProc (Bool × Acm.Outcome) := do
  let link ← get
  if link.session.phase ≠ .ready then onSession (wrongPhase link.session.phase)
  else
    let deadline ← onSession (beginDeadline timeoutMs)
    match Acm.build link.acm link.session.relay command with
    | .error .relay => onSession (poison .protocol)
    | .error .argument => throw .argument
    | .error _ => throw .state
    | .ok (output, acm, relay) =>
      set (⟨{ link.session with relay := relay }, acm⟩ : Link)
      match acm.pending with
      | none => onSession (poison .protocol)
      | some completed =>
        let m ← orAmbiguous (waitForReply output completed deadline)
        let (accepted, outcome, acm) := Acm.acceptReply acm m
        modify fun link => { link with acm := acm }
        match accepted with
        | .error _ => onSession (poison .protocol)
        | accepted =>
          let (output, _) ← onSession (reserve fun relay =>
            Relay.buildEndpointReady relay Relay.acmEndpoint completed)
          onSession (sendTransfer output deadline)
          pure (decide (accepted = .ok), outcome)

/-- What is left of the relay once a session was destroyed. -/
def clearedRelay : Relay.State :=
  ⟨0, 0, List.replicate Relay.endpointCount 0, List.replicate Relay.endpointCount 0, 0, false,
    false, false, false⟩

def destroy : SessionProc Unit := do
  let s ← get
  if s.phase = .closed then pure ()
  else
    let status ← request .destroyTransport
    set (⟨clearedRelay, none, .closed⟩ : State)
    if status = .ok then pure () else throw .teardown

end T1Bridge.Sep.Session
