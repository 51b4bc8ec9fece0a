import T1Bridge.Sep.Relay

/-! # The access control context

The state of one ACM context: its phase, the command that is pending, and the handle of the
context.  A command is built only where the state allows it; a reply is accepted, refused, or
fails the state, which erases the handle. -/

namespace T1Bridge.Sep.Acm

def externalFormSize : ℕ := 16
def contextCreateReplySize : ℕ := 17
def passphraseMaxSize : ℕ := 0x80
def passphraseDataSize : ℕ := 0x88
def verifyReplyCapacity : ℕ := 0x1000
def keybagUuidSize : ℕ := 16
def relayRequest : UInt8 := 1
def magic : ℕ := 0x53435244
def defaultLogLevel : UInt8 := 0x28
def contextScope : ℕ := 1

inductive Error where
  | argument | state | relay | reply
deriving DecidableEq

/-- In `failed` the context has been erased. -/
inductive Phase where
  | new | ready | active | failed
deriving DecidableEq

inductive Operation where
  | none | initializeAcm | contextCreate | contextDelete | contextExternalize
  | containsCredential | replacePassphrase | verifyEnrollment
deriving DecidableEq

/-- `pending` is `none` where it is not valid. -/
structure State where
  pending : Option Relay.Pending
  phase : Phase
  pendingOperation : Operation
  context : Packet
  logLevel : UInt8
  contextExternalized : Bool
deriving DecidableEq

/-- What the reply to an ACM command says. -/
structure Outcome where
  operation : Operation
  remoteResult : ℤ
  booleanValue : Option Bool
  logLevel : Option UInt8
deriving DecidableEq

def Outcome.zero : Outcome := ⟨.none, 0, none, none⟩

def erased : Packet := List.replicate externalFormSize 0

/-- `fail_state`; a wiped state is the same. -/
def failState : State := ⟨none, .failed, .none, erased, 0, false⟩

variable (s : State)

def markAmbiguous : State := if s.pending.isSome then failState else s

/-! ### Commands -/

/-- The commands with what their builders are given. -/
inductive Command where
  | initializeAcm
  | contextCreate (auditUid : UInt32)
  | contextDelete
  | contextExternalize
  | containsCredential (credentialType credentialScope : UInt32)
  | replacePassphrase (secret : Packet) (credentialScope : UInt32)
  | verifyEnrollment (preflight : ℤ) (keybagUuid : Option Packet)

def Command.operation : Command → Operation
  | initializeAcm => .initializeAcm
  | contextCreate _ => .contextCreate
  | contextDelete => .contextDelete
  | contextExternalize => .contextExternalize
  | containsCredential _ _ => .containsCredential
  | replacePassphrase _ _ => .replacePassphrase
  | verifyEnrollment _ _ => .verifyEnrollment

def Command.selector : Command → UInt8
  | contextCreate _ => 0x01
  | contextDelete => 0x02
  | verifyEnrollment _ _ => 0x03
  | containsCredential _ _ => 0x04
  | initializeAcm => 0x0a
  | replacePassphrase _ _ => 0x0f
  | contextExternalize => 0x13

def enrollmentPolicy : Packet := ascii "TouchIdEnrollment".toList ++ [0]

/-- A passphrase credential with its header. -/
def passphraseCredential (secret : Packet) : Packet :=
  leBytes 4 2 ++ leBytes 4 1 ++ List.replicate 4 0 ++ leBytes 4 0xffffffff ++
    List.replicate 12 0 ++ leBytes 4 passphraseDataSize ++
    padTo passphraseDataSize (leBytes 4 0 ++ leBytes 4 secret.length ++ secret)

/-- The payload of a command, or why its builder refuses it. -/
def Command.payload : Command → Except Error Packet
  | initializeAcm => if s.phase ≠ .new ∨ s.pending.isSome then .error .state else .ok []
  | contextCreate auditUid =>
    if s.phase ≠ .ready ∨ s.pending.isSome then .error .state
    else .ok (leBytes 4 auditUid.toNat)
  | contextDelete =>
    if s.phase ≠ .active ∨ s.pending.isSome then .error .state else .ok s.context
  | contextExternalize =>
    if s.phase ≠ .active ∨ s.pending.isSome ∨ s.contextExternalized then .error .state
    else .ok s.context
  | containsCredential credentialType credentialScope =>
    if s.phase ≠ .active ∨ s.pending.isSome ∨ s.contextExternalized = false then .error .state
    else if credentialType ≠ 1 ∧ credentialType ≠ 2 ∨ credentialScope ≠ 0 then
      .error .argument
    else .ok (s.context ++ leBytes 4 credentialType.toNat ++ leBytes 4 credentialScope.toNat)
  | replacePassphrase secret credentialScope =>
    if s.phase ≠ .active ∨ s.pending.isSome ∨ s.contextExternalized = false then .error .state
    else if secret.length = 0 ∨ secret.length > passphraseMaxSize ∨
        credentialScope.toNat ≠ contextScope then .error .argument
    else .ok (s.context ++ passphraseCredential secret ++ leBytes 4 credentialScope.toNat)
  | verifyEnrollment preflight keybagUuid =>
    if s.phase ≠ .active ∨ s.pending.isSome ∨ s.contextExternalized = false then .error .state
    else if preflight ≠ 0 ∧ preflight ≠ 1 then .error .argument
    else
      match keybagUuid with
      | some uuid =>
        if uuid.length ≠ keybagUuidSize ∨ preflight ≠ 0 then .error .argument
        else .ok (s.context ++ enrollmentPolicy ++ [0] ++ leBytes 4 0 ++ leBytes 4 1 ++
          leBytes 4 2 ++ leBytes 4 keybagUuidSize ++ uuid)
      | none =>
        if preflight ≠ 1 then .error .argument
        else .ok (s.context ++ enrollmentPolicy ++ [1] ++ leBytes 4 0 ++ leBytes 4 0)

def Command.parameter : Command → UInt8
  | initializeAcm => defaultLogLevel
  | _ => 0

def Command.protocolVersion : Command → UInt8
  | initializeAcm => 0
  | _ => 1

def buildCommand (command : Command) (payload : Packet) : Packet :=
  leBytes 4 magic ++ [command.selector, command.parameter, 0, command.protocolVersion] ++ payload

/-- The builder of the command, and `begin_command`. -/
def build (relay : Relay.State) (command : Command) :
    Except Error (Packet × State × Relay.State) := do
  let payload ← command.payload s
  if s.pending.isSome ∨ s.phase = .failed then .error .state
  else
    match Relay.buildAcmRequest relay (buildCommand command payload) relayRequest with
    | .ok (output, pending, relay) =>
      pure (output, { s with
        pending := some pending
        pendingOperation := command.operation }, relay)
    | .error _ => .error .relay

/-! ### Replies -/

/-- The boolean that a payload of this length stands for. -/
def booleanPayload (payload : Packet) (outcome : Outcome) : Except Error Outcome :=
  if wordAt 4 0 payload > 1 then .error .reply
  else .ok { outcome with booleanValue := some (decide (wordAt 4 0 payload = 1)) }

def expectedPayload (operation : Operation) (payload : Packet) (payloadLength : ℕ)
    (outcome : Outcome) : Except Error Outcome :=
  match operation with
  | .initializeAcm | .contextDelete | .contextExternalize | .replacePassphrase =>
    if payloadLength = 0 then .ok outcome else .error .reply
  | .contextCreate =>
    if payloadLength ≠ contextCreateReplySize then .error .reply else .ok outcome
  | .containsCredential =>
    if payloadLength ≠ 4 then .error .reply else booleanPayload payload outcome
  | .verifyEnrollment =>
    if payloadLength < 4 ∨ payloadLength > verifyReplyCapacity then .error .reply
    else booleanPayload payload outcome
  | .none => .error .state

def clearPending : State := { s with pending := none, pendingOperation := .none }

def acceptSuccess (operation : Operation) (payload : Packet) (outcome : Outcome) :
    State × Outcome :=
  match operation with
  | .initializeAcm => ({ s with phase := .ready }, outcome)
  | .contextCreate =>
    ({ s with
      context := padTo externalFormSize (payload.take externalFormSize)
      logLevel := byteAt externalFormSize payload
      contextExternalized := false
      phase := .active }, { outcome with logLevel := some (byteAt externalFormSize payload) })
  | .contextDelete =>
    ({ s with
      context := erased
      contextExternalized := false
      logLevel := 0
      phase := .ready }, outcome)
  | .contextExternalize => ({ s with contextExternalized := true }, outcome)
  | _ => (s, outcome)

/-- How a reply was taken. -/
inductive Accepted where
  | ok
  | remoteError
  | error (e : Error)
deriving DecidableEq

def acceptReply (m : Relay.Message) : Accepted × Outcome × State :=
  match s.pending with
  | none => (.error .argument, .zero, s)
  | some pending =>
    let outcome := { Outcome.zero with operation := s.pendingOperation }
    match Relay.matchesPending m pending with
    | .error _ => (.error .relay, outcome, s)
    | .ok () =>
      if m.messageLength ≠ Relay.acmHeaderSize then (.error .reply, outcome, failState)
      else
        let declared := wordAt 4 10 m.message
        let remoteResult := signed 4 (wordAt 4 14 m.message)
        let outcome := { outcome with remoteResult := remoteResult }
        if declared > m.dataLength ∨ m.dataLength > Relay.dataCapacity then
          (.error .reply, outcome, failState)
        else if remoteResult ≠ 0 then (.remoteError, outcome, clearPending s)
        else
          match expectedPayload s.pendingOperation m.data declared outcome with
          | .error e => (.error e, outcome, failState)
          | .ok outcome =>
            let (s, outcome) := acceptSuccess s s.pendingOperation m.data outcome
            (.ok, outcome, clearPending s)

/-! ### What the commands and replies do -/

variable {s} {s' : State} {output : Packet}

lemma build_spends {relay relay' : Relay.State} {command : Command}
    (h : build s relay command = .ok (output, s', relay')) :
    ∃ pending, Relay.Spends relay output pending relay' ∧ s'.pending = some pending ∧
      pending = ⟨.acm, relay.nextToken, relay.nextMessageIndex, Relay.acmEndpoint, relayRequest,
        0⟩ := by
  unfold build at h
  cases hpayload : command.payload s with
  | error e =>
    rw [hpayload] at h
    cases h
  | ok payload =>
    rw [hpayload] at h
    simp only [bind, Except.bind] at h
    split at h
    · cases h
    split at h
    · next output' pending relay'' hbuilt =>
      cases h
      obtain ⟨hspends, hpending⟩ := Relay.buildAcmRequest_spends hbuilt
      exact ⟨pending, hspends, rfl, hpending⟩
    · cases h

/-- A reply that is neither accepted nor refused fails the state. -/
lemma acceptReply_error {pending : Relay.Pending} {m : Relay.Message} {e : Error}
    {outcome : Outcome} (hpending : s.pending = some pending)
    (hmatch : Relay.matchesPending m pending = .ok ())
    (h : acceptReply s m = (.error e, outcome, s')) : s' = failState := by
  unfold acceptReply at h
  rw [hpending] at h
  simp only [hmatch] at h
  split at h
  · cases h
    rfl
  split at h
  · cases h
    rfl
  split at h
  · cases h
  split at h
  · cases h
    rfl
  · cases h

end T1Bridge.Sep.Acm
