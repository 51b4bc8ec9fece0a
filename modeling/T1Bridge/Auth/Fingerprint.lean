import T1Bridge.Auth.Protocol

/-! # The standard fingerprint wire contract

Messages and packets of the additive standard-client protocol: a fixed twelve-byte header
(`T1FP`, version, type, payload length, zero reserved fields) followed by a typed payload.
Names, identities, capability sets and progress reports are validated when they are built,
so their structures carry the validity as a field and a decoded message is always valid.

Parsing functions take the remaining payload and return the value with what is left of it;
`decodeClient` and `decodeServer` refuse a packet that leaves bytes over. -/

namespace T1Bridge

def headerSize : ℕ := 12
def maxPacketSize : ℕ := 1024
def maxUsernameSize : ℕ := 255
def maxIdentities : ℕ := 5
def maxOwnerIdentities : ℕ := 3
def maxEnrollStages : ℕ := 100

inductive ProtocolError where
  | wrongLength | packetTooLarge | badMagic | unsupportedVersion | unsupportedType
  | nonzeroReserved | payloadLengthMismatch | invalidUsername | invalidFingerLabel
  | invalidIdentity | invalidCapabilities | invalidRange | invalidPayload

/-! ### Validated values -/

variable (value : String)

/-- The bytes of a text; a `String` is a valid UTF-8 byte sequence, as a `str` is. -/
def utf8Bytes : List UInt8 := value.toByteArray.data.toList

def Username.Valid : Prop :=
  ¬ ((utf8Bytes value).isEmpty ∨ (utf8Bytes value).length > maxUsernameSize ∨
    (utf8Bytes value).contains 0)

instance (value : String) : Decidable (Username.Valid value) :=
  inferInstanceAs (Decidable (¬ _))

/-- A bounded nonempty account name without NUL bytes. -/
structure Username where
  value : String
  valid : Username.Valid value
deriving DecidableEq

def Username.new : Except ProtocolError Username :=
  if h : Username.Valid value then .ok ⟨value, h⟩ else .error .invalidUsername

/-- An opaque sixteen-byte identifier; the all-zero sentinel is not one. -/
structure IdentityId where
  bytes : List UInt8
  length_eq : bytes.length = 16
  ne_zero : bytes ≠ List.replicate 16 0
deriving DecidableEq

def IdentityId.new (bytes : List UInt8) : Except ProtocolError IdentityId :=
  if hl : bytes.length = 16 then
    if hz : bytes = List.replicate 16 0 then .error .invalidIdentity else .ok ⟨bytes, hl, hz⟩
  else .error .invalidIdentity

inductive FingerLabel where
  | leftThumb | leftIndex | leftMiddle | leftRing | leftLittle
  | rightThumb | rightIndex | rightMiddle | rightRing | rightLittle
deriving DecidableEq

def FingerLabel.toByte : FingerLabel → UInt8
  | leftThumb => 1
  | leftIndex => 2
  | leftMiddle => 3
  | leftRing => 4
  | leftLittle => 5
  | rightThumb => 6
  | rightIndex => 7
  | rightMiddle => 8
  | rightRing => 9
  | rightLittle => 10

def FingerLabel.decode (value : UInt8) : Except ProtocolError FingerLabel :=
  match value.toNat with
  | 1 => .ok .leftThumb
  | 2 => .ok .leftIndex
  | 3 => .ok .leftMiddle
  | 4 => .ok .leftRing
  | 5 => .ok .leftLittle
  | 6 => .ok .rightThumb
  | 7 => .ok .rightIndex
  | 8 => .ok .rightMiddle
  | 9 => .ok .rightRing
  | 10 => .ok .rightLittle
  | _ => .error .invalidFingerLabel

structure Identity where
  id : IdentityId
  finger : FingerLabel
deriving DecidableEq

/-- Operation bits a server may advertise; unassigned bits are never set. -/
structure CapabilitySet where
  bits : UInt16
  known : bits &&& ~~~0x3f = 0
deriving DecidableEq

namespace CapabilitySet

def enroll : CapabilitySet := ⟨0x02, by decide⟩

def identityOperationBits : UInt16 := 0x1f

def fromBits (bits : UInt16) : Except ProtocolError CapabilitySet :=
  if h : bits &&& ~~~0x3f = 0 then .ok ⟨bits, h⟩ else .error .invalidCapabilities

def contains (s capability : CapabilitySet) : Bool :=
  s.bits &&& capability.bits == capability.bits

end CapabilitySet

variable (operations : CapabilitySet)

/-- Each operation family is advertised together with a nonzero bound, or not at all. -/
def Capabilities.Consistent (maxEnrollStages maxIdentities : UInt8) : Prop :=
  ¬ (maxEnrollStages.toNat > T1Bridge.maxEnrollStages ∨
    operations.contains .enroll ≠ (maxEnrollStages != 0) ∨
    maxIdentities.toNat > T1Bridge.maxIdentities ∨
    (operations.bits &&& CapabilitySet.identityOperationBits != 0) ≠ (maxIdentities != 0))

instance (operations : CapabilitySet) (stages identities : UInt8) :
    Decidable (Capabilities.Consistent operations stages identities) :=
  inferInstanceAs (Decidable (¬ _))

/-- The announced operations with the limits that go with them. -/
structure Capabilities where
  operations : CapabilitySet
  maxEnrollStages : UInt8
  maxIdentities : UInt8
  consistent : Capabilities.Consistent operations maxEnrollStages maxIdentities
deriving DecidableEq

def Capabilities.new (maxEnrollStages maxIdentities : UInt8) : Except ProtocolError Capabilities :=
  if h : Capabilities.Consistent operations maxEnrollStages maxIdentities then
    .ok ⟨operations, maxEnrollStages, maxIdentities, h⟩
  else .error .invalidCapabilities

variable (completedStage totalStages : UInt8)

def EnrollProgress.InRange : Prop :=
  ¬ (completedStage = 0 ∨ totalStages = 0 ∨ completedStage > totalStages ∨
    totalStages.toNat > maxEnrollStages)

instance (completedStage totalStages : UInt8) :
    Decidable (EnrollProgress.InRange completedStage totalStages) :=
  inferInstanceAs (Decidable (¬ _))

/-- A completed stage of an enrollment, the first one is 1. -/
structure EnrollProgress where
  completedStage : UInt8
  totalStages : UInt8
  inRange : EnrollProgress.InRange completedStage totalStages
deriving DecidableEq

def EnrollProgress.new : Except ProtocolError EnrollProgress :=
  if h : EnrollProgress.InRange completedStage totalStages then
    .ok ⟨completedStage, totalStages, h⟩
  else .error .invalidRange

/-! ### Messages -/

/-- Requests of a standard client. -/
inductive ClientMessage where
  | getCapabilities
  | «open»
  | listIdentities
  | enroll (username : Username) (finger : FingerLabel)
  | verify (username : Username) (identity : IdentityId)
  | identify (username : Username)
  | deleteIdentity (username : Username) (identity : IdentityId)
  | cancel
deriving DecidableEq

inductive OperationKind where
  | listIdentities | enroll | verify | identify | deleteIdentity
deriving DecidableEq

/-- What a request asks of the connection. -/
inductive ConnectionAction where
  | queryCapabilities
  | «open»
  | start (kind : OperationKind)
  | cancelActive

def ClientMessage.connectionAction : ClientMessage → ConnectionAction
  | getCapabilities => .queryCapabilities
  | «open» => .open
  | listIdentities => .start .listIdentities
  | enroll _ _ => .start .enroll
  | verify _ _ => .start .verify
  | identify _ => .start .identify
  | deleteIdentity _ _ => .start .deleteIdentity
  | cancel => .cancelActive

/-- How an operation ended for its client. -/
inductive TerminalOutcome where
  | completed
  | enrolled (identity : IdentityId)
  | matched (identity : IdentityId)
  | noMatch | cancelled | deviceLost | busy | secondOwner | unsupported
  | duplicate | capacityFull | error
deriving DecidableEq

/-- Answers to a standard client. -/
inductive ServerMessage where
  | capabilities (capabilities : Capabilities)
  | opened
  | identityList (owner : Option Username) (identities : List Identity)
  | enrollProgress (progress : EnrollProgress)
  | terminal (outcome : TerminalOutcome)
deriving DecidableEq

/-- What a standard client can take for a success of its operation. -/
def ServerMessage.IsSuccess : ServerMessage → Prop
  | identityList _ _ => True
  | terminal .completed => True
  | terminal (.enrolled _) => True
  | terminal (.matched _) => True
  | _ => False

/-! ### Framing -/

def UInt16.toBeBytes (n : UInt16) : List UInt8 := [(n >>> 8).toUInt8, n.toUInt8]

def fromBeBytes (high low : UInt8) : ℕ := high.toNat * 256 + low.toNat

def magic : Packet := ascii ['T', '1', 'F', 'P']

def fingerprintVersion : UInt8 := 1

variable (messageType : UInt8)

def encodePacket (payload : List UInt8) : Except ProtocolError Packet :=
  if headerSize + payload.length > maxPacketSize then .error .packetTooLarge
  else .ok (magic ++ [fingerprintVersion, messageType] ++ UInt16.toBeBytes 0 ++
    UInt16.toBeBytes payload.length.toUInt16 ++ UInt16.toBeBytes 0 ++ payload)

variable (packet : Packet)

def decodePacket : Except ProtocolError (UInt8 × List UInt8) :=
  if packet.length < headerSize then .error .wrongLength
  else if packet.length > maxPacketSize then .error .packetTooLarge
  else if packet.take 4 ≠ magic then .error .badMagic
  else if packet.getD 4 0 ≠ fingerprintVersion then .error .unsupportedVersion
  else if fromBeBytes (packet.getD 6 0) (packet.getD 7 0) ≠ 0 ∨
      fromBeBytes (packet.getD 10 0) (packet.getD 11 0) ≠ 0 then .error .nonzeroReserved
  else if fromBeBytes (packet.getD 8 0) (packet.getD 9 0) ≠ packet.length - headerSize then
    .error .payloadLengthMismatch
  else .ok (packet.getD 5 0, packet.drop headerSize)

def takeByte : List UInt8 → Except ProtocolError (UInt8 × List UInt8)
  | [] => .error .invalidPayload
  | value :: rest => .ok (value, rest)

variable (payload : List UInt8)

def takeSlice (length : ℕ) : Except ProtocolError (List UInt8 × List UInt8) :=
  if payload.length < length then .error .invalidPayload
  else .ok (payload.take length, payload.drop length)

def requireEmpty : Except ProtocolError Unit :=
  if payload.isEmpty then .ok () else .error .invalidPayload

def encodeUsername (username : Username) : List UInt8 :=
  (utf8Bytes username.value).length.toUInt8 :: utf8Bytes username.value

def decodeUsername : Except ProtocolError (Username × List UInt8) := do
  let (length, payload) ← takeByte payload
  let (bytes, payload) ← takeSlice payload length.toNat
  match String.fromUTF8? ⟨bytes.toArray⟩ with
  | none => .error .invalidUsername
  | some value => return (← Username.new value, payload)

def decodeIdentity : Except ProtocolError (IdentityId × List UInt8) := do
  let (bytes, payload) ← takeSlice payload 16
  return (← IdentityId.new bytes, payload)

def decodeFinger : Except ProtocolError (FingerLabel × List UInt8) := do
  let (value, payload) ← takeByte payload
  return (← FingerLabel.decode value, payload)

/-- The final cursor check: the whole payload must have been consumed. -/
def consumed {α : Type} : α × List UInt8 → Except ProtocolError α
  | (value, []) => .ok value
  | (_, _ :: _) => .error .invalidPayload

/-! ### Client packets -/

def encodeClient : ClientMessage → Except ProtocolError Packet
  | .getCapabilities => encodePacket 0x01 []
  | .open => encodePacket 0x02 []
  | .listIdentities => encodePacket 0x03 []
  | .enroll username finger => encodePacket 0x04 (encodeUsername username ++ [finger.toByte])
  | .verify username identity => encodePacket 0x05 (encodeUsername username ++ identity.bytes)
  | .identify username => encodePacket 0x06 (encodeUsername username)
  | .deleteIdentity username identity =>
    encodePacket 0x07 (encodeUsername username ++ identity.bytes)
  | .cancel => encodePacket 0x08 []

/-- The payload of one client message type, with what is left of it. -/
def decodeClientPayload (payload : List UInt8) :
    Except ProtocolError (ClientMessage × List UInt8) :=
  match messageType.toNat with
  | 0x01 => do requireEmpty payload; return (.getCapabilities, payload)
  | 0x02 => do requireEmpty payload; return (.open, payload)
  | 0x03 => do requireEmpty payload; return (.listIdentities, payload)
  | 0x04 => do
    let (username, payload) ← decodeUsername payload
    let (finger, payload) ← decodeFinger payload
    return (.enroll username finger, payload)
  | 0x05 => do
    let (username, payload) ← decodeUsername payload
    let (identity, payload) ← decodeIdentity payload
    return (.verify username identity, payload)
  | 0x06 => do
    let (username, payload) ← decodeUsername payload
    return (.identify username, payload)
  | 0x07 => do
    let (username, payload) ← decodeUsername payload
    let (identity, payload) ← decodeIdentity payload
    return (.deleteIdentity username identity, payload)
  | 0x08 => do requireEmpty payload; return (.cancel, payload)
  | _ => .error .unsupportedType

def decodeClient : Except ProtocolError ClientMessage := do
  let (messageType, payload) ← decodePacket packet
  consumed (← decodeClientPayload messageType payload)

/-! ### Server packets -/

def validateIdentityList (owner : Option Username) (identities : List Identity) :
    Except ProtocolError Unit :=
  if identities.length > maxIdentities then .error .invalidRange
  else if owner.isSome = identities.isEmpty then .error .invalidPayload
  else if identities.zipIdx.any fun (identity, index) =>
      (identities.take index).any fun earlier => earlier.id = identity.id then
    .error .invalidIdentity
  else .ok ()

def TerminalOutcome.encode : TerminalOutcome → List UInt8
  | completed => [1]
  | enrolled identity => 2 :: identity.bytes
  | matched identity => 3 :: identity.bytes
  | noMatch => [4]
  | cancelled => [5]
  | deviceLost => [6]
  | busy => [7]
  | secondOwner => [8]
  | unsupported => [9]
  | error => [10]
  | duplicate => [11]
  | capacityFull => [12]

def encodeServer : ServerMessage → Except ProtocolError Packet
  | .capabilities c =>
    encodePacket 0x81 (UInt16.toBeBytes c.operations.bits ++ [c.maxEnrollStages, c.maxIdentities])
  | .opened => encodePacket 0x82 []
  | .identityList owner identities => do
    validateIdentityList owner identities
    encodePacket 0x83 (identities.length.toUInt8 :: ((owner.map encodeUsername).getD [] ++
        identities.flatMap fun identity => identity.id.bytes ++ [identity.finger.toByte]))
  | .enrollProgress progress => encodePacket 0x84 [progress.completedStage, progress.totalStages]
  | .terminal outcome => encodePacket 0x85 outcome.encode

def decodeIdentities : ℕ → List UInt8 → Except ProtocolError (List Identity × List UInt8)
  | 0, payload => .ok ([], payload)
  | count + 1, payload => do
    let (id, payload) ← decodeIdentity payload
    let (finger, payload) ← decodeFinger payload
    let (identities, payload) ← decodeIdentities count payload
    return (⟨id, finger⟩ :: identities, payload)

def decodeOutcome : Except ProtocolError (TerminalOutcome × List UInt8) := do
  let (code, payload) ← takeByte payload
  match code.toNat with
  | 1 => return (.completed, payload)
  | 2 =>
    let (identity, payload) ← decodeIdentity payload
    return (.enrolled identity, payload)
  | 3 =>
    let (identity, payload) ← decodeIdentity payload
    return (.matched identity, payload)
  | 4 => return (.noMatch, payload)
  | 5 => return (.cancelled, payload)
  | 6 => return (.deviceLost, payload)
  | 7 => return (.busy, payload)
  | 8 => return (.secondOwner, payload)
  | 9 => return (.unsupported, payload)
  | 10 => return (.error, payload)
  | 11 => return (.duplicate, payload)
  | 12 => return (.capacityFull, payload)
  | _ => .error .invalidPayload

def decodeServerPayload (payload : List UInt8) :
    Except ProtocolError (ServerMessage × List UInt8) :=
  match messageType.toNat with
  | 0x81 =>
    match payload with
    | [high, low, stages, identities] => do
      let operations ← CapabilitySet.fromBits (fromBeBytes high low).toUInt16
      return (.capabilities (← Capabilities.new operations stages identities), [])
    | _ => .error .invalidPayload
  | 0x82 => do requireEmpty payload; return (.opened, payload)
  | 0x83 => do
    let (count, payload) ← takeByte payload
    if count.toNat > maxIdentities then .error .invalidPayload
    let (owner, payload) ← if count = 0 then pure (none, payload) else do
      let (owner, payload) ← decodeUsername payload
      pure (some owner, payload)
    let (identities, payload) ← decodeIdentities count.toNat payload
    validateIdentityList owner identities
    return (.identityList owner identities, payload)
  | 0x84 =>
    match payload with
    | [completedStage, totalStages] => do
      return (.enrollProgress (← EnrollProgress.new completedStage totalStages), [])
    | _ => .error .invalidPayload
  | 0x85 => do
    let (outcome, payload) ← decodeOutcome payload
    return (.terminal outcome, payload)
  | _ => .error .unsupportedType

def decodeServer : Except ProtocolError ServerMessage := do
  let (messageType, payload) ← decodePacket packet
  consumed (← decodeServerPayload messageType payload)

end T1Bridge
