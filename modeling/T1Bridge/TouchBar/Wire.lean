import T1Bridge.Lib.Word

/-! # Touch Bar hardware messages

The version 1 packets between the hardware service and its renderer: a sixteen-byte header
(`T1HW`, major version, message type, payload length, request identifier) and a typed payload.
`decodeClient` and `decodeService` check direction, handshake phase, identifiers, every payload
field and the descriptors that came with the packet; `dimensions` is absent until the handshake
is complete.  The encoders apply the checks that a constructor has not made already. -/

namespace T1Bridge.TouchBar

open Word (read)

abbrev Bytes := List UInt8

/-! ### Packets -/

def headerLength : ℕ := 16
def maxPacketLength : ℕ := 64 * 1024
def maxPayloadLength : ℕ := maxPacketLength - headerLength

def magic : Bytes := [0x54, 0x31, 0x48, 0x57]

def protocolMajor : UInt16 := 1

structure Packet where
  messageType : UInt16
  requestId : UInt32
  payload : Bytes

inductive PacketError where
  | tooShort | badMagic | wrongMajor | oversize | lengthMismatch

def Packet.encode (packet : Packet) : Except PacketError Bytes :=
  if packet.payload.length > maxPayloadLength then .error .oversize
  else .ok (magic ++ record [.of protocolMajor, .of packet.messageType,
    .of (UInt32.ofNat packet.payload.length), .of packet.requestId] ++ packet.payload)

def Packet.decode (packet : Bytes) : Except PacketError Packet :=
  if packet.length < headerLength then .error .tooShort
  else if packet.length > maxPacketLength then .error .oversize
  else if packet.take 4 ≠ magic then .error .badMagic
  else if read UInt16 4 packet ≠ protocolMajor then .error .wrongMajor
  else if (read UInt32 8 packet).toNat ≠ (packet.drop headerLength).length then
    .error .lengthMismatch
  else .ok ⟨read UInt16 6 packet, read UInt32 12 packet, packet.drop headerLength⟩

/-! ### Message types -/

def protocolMinor : UInt16 := 1
def maxBuffers : UInt32 := 3
def maxDamageRectangles : ℕ := 64
def maxContacts : ℕ := 10
def maxKeys : ℕ := 4

inductive MessageType where
  | hello | registerBuffer | submitFrame | tapKeys | setDisplayBrightness | setKeyboardBacklight
  | cancelTouchId | stepDisplayBrightness | stepKeyboardBacklight
  | helloAck | ack | error | frameReleased | inputFrame

inductive Direction where
  | clientToService | serviceToClient
deriving DecidableEq

inductive MessageClass where
  | request | response | event

inductive AncillaryExpectation where
  | none | oneDescriptor

namespace MessageType

def wireValue : MessageType → UInt16
  | hello => 0x0001
  | registerBuffer => 0x0002
  | submitFrame => 0x0003
  | tapKeys => 0x0004
  | setDisplayBrightness => 0x0005
  | setKeyboardBacklight => 0x0006
  | cancelTouchId => 0x0007
  | stepDisplayBrightness => 0x0008
  | stepKeyboardBacklight => 0x0009
  | helloAck => 0x8001
  | ack => 0x8002
  | error => 0x8003
  | frameReleased => 0x9001
  | inputFrame => 0x9002

def fromWire (value : UInt16) : Option MessageType :=
  match value.toNat with
  | 0x0001 => some hello
  | 0x0002 => some registerBuffer
  | 0x0003 => some submitFrame
  | 0x0004 => some tapKeys
  | 0x0005 => some setDisplayBrightness
  | 0x0006 => some setKeyboardBacklight
  | 0x0007 => some cancelTouchId
  | 0x0008 => some stepDisplayBrightness
  | 0x0009 => some stepKeyboardBacklight
  | 0x8001 => some helloAck
  | 0x8002 => some ack
  | 0x8003 => some error
  | 0x9001 => some frameReleased
  | 0x9002 => some inputFrame
  | _ => none

def direction : MessageType → Direction
  | helloAck | ack | error | frameReleased | inputFrame => .serviceToClient
  | _ => .clientToService

def messageClass : MessageType → MessageClass
  | helloAck | ack | error => .response
  | frameReleased | inputFrame => .event
  | _ => .request

def ancillaryExpectation : MessageType → AncillaryExpectation
  | registerBuffer => .oneDescriptor
  | _ => .none

end MessageType

structure AncillaryMetadata where
  rightsDescriptorCount : ℕ
  controlTruncated : Bool
  hasOtherControl : Bool

/-! ### Fields -/

/-- Dimensions reported by the display negotiation; neither axis is zero. -/
structure DisplayDimensions where
  width : UInt32
  height : UInt32
  width_ne : width ≠ 0
  height_ne : height ≠ 0

structure FeatureBits where
  bits : UInt64

def FeatureBits.contains (features required : FeatureBits) : Bool :=
  features.bits &&& required.bits == required.bits

inductive PixelFormat where
  | xrgb8888

def PixelFormat.wireValue : PixelFormat → UInt32
  | xrgb8888 => 1

inductive ErrorCode where
  | unsupported | unsupportedFeature | resourceLimit | invalidBuffer | unknownBuffer | bufferBusy
  | actionDenied | deviceUnavailable | ioFailure | internalFailure

def ErrorCode.wireValue : ErrorCode → UInt32
  | unsupported => 1
  | unsupportedFeature => 2
  | resourceLimit => 3
  | invalidBuffer => 4
  | unknownBuffer => 5
  | bufferBusy => 6
  | actionDenied => 7
  | deviceUnavailable => 8
  | ioFailure => 9
  | internalFailure => 10

def ErrorCode.fromWire (value : UInt32) : Option ErrorCode :=
  match value.toNat with
  | 1 => some unsupported
  | 2 => some unsupportedFeature
  | 3 => some resourceLimit
  | 4 => some invalidBuffer
  | 5 => some unknownBuffer
  | 6 => some bufferBusy
  | 7 => some actionDenied
  | 8 => some deviceUnavailable
  | 9 => some ioFailure
  | 10 => some internalFailure
  | _ => none

inductive KeyCode where
  | escape | f1 | f2 | f3 | f4 | f5 | f6 | f7 | f8 | f9 | f10 | f11 | f12
deriving DecidableEq

def KeyCode.wireValue : KeyCode → UInt16
  | escape => 1
  | f1 => 59
  | f2 => 60
  | f3 => 61
  | f4 => 62
  | f5 => 63
  | f6 => 64
  | f7 => 65
  | f8 => 66
  | f9 => 67
  | f10 => 68
  | f11 => 87
  | f12 => 88

def KeyCode.fromWire (value : UInt16) : Option KeyCode :=
  match value.toNat with
  | 1 => some escape
  | 59 => some f1
  | 60 => some f2
  | 61 => some f3
  | 62 => some f4
  | 63 => some f5
  | 64 => some f6
  | 65 => some f7
  | 66 => some f8
  | 67 => some f9
  | 68 => some f10
  | 87 => some f11
  | 88 => some f12
  | _ => none

inductive StepDirection where
  | down | up

def StepDirection.toByte : StepDirection → UInt8
  | down => 0
  | up => 1

/-- A wire percentage. -/
structure Percentage where
  value : UInt8
  le_hundred : value ≤ 100

structure Hello where
  minor : UInt16
  requiredFeatures : FeatureBits

structure HelloAck where
  minor : UInt16
  width : UInt32
  height : UInt32
  pixelFormat : PixelFormat
  maxBuffers : UInt32

structure RegisterBuffer where
  bufferId : UInt32
  stride : UInt32
  byteLength : UInt64

structure DamageRectangle where
  x : UInt32
  y : UInt32
  width : UInt32
  height : UInt32

structure SubmitFrame where
  bufferId : UInt32
  frameId : UInt64
  damage : List DamageRectangle

structure FrameReleased where
  bufferId : UInt32
  frameId : UInt64

structure InputContact where
  id : UInt8
  tip : Bool
  inRange : Bool
  x : UInt32
  y : UInt32

structure WireInputFrame where
  monotonicNs : UInt64
  fnPressed : Bool
  contacts : List InputContact

structure UnknownRequest where
  messageType : UInt16
  payload : Bytes

/-- Messages of the client. -/
inductive ClientMessage where
  | hello (hello : Hello)
  | registerBuffer (buffer : RegisterBuffer)
  | submitFrame (frame : SubmitFrame)
  | tapKeys (keys : List KeyCode)
  | setDisplayBrightness (percentage : Percentage)
  | setKeyboardBacklight (percentage : Percentage)
  | cancelTouchId
  | stepDisplayBrightness (direction : StepDirection)
  | stepKeyboardBacklight (direction : StepDirection)
  | unknown (request : UnknownRequest)

def ClientMessage.messageType : ClientMessage → Option MessageType
  | hello _ => some .hello
  | registerBuffer _ => some .registerBuffer
  | submitFrame _ => some .submitFrame
  | tapKeys _ => some .tapKeys
  | setDisplayBrightness _ => some .setDisplayBrightness
  | setKeyboardBacklight _ => some .setKeyboardBacklight
  | cancelTouchId => some .cancelTouchId
  | stepDisplayBrightness _ => some .stepDisplayBrightness
  | stepKeyboardBacklight _ => some .stepKeyboardBacklight
  | unknown _ => none

/-- Messages of the service. -/
inductive ServiceMessage where
  | helloAck (ack : HelloAck)
  | ack
  | error (code : ErrorCode)
  | frameReleased (frame : FrameReleased)
  | inputFrame (frame : WireInputFrame)

def ServiceMessage.messageType : ServiceMessage → MessageType
  | helloAck _ => .helloAck
  | ack => .ack
  | error _ => .error
  | frameReleased _ => .frameReleased
  | inputFrame _ => .inputFrame

/-- A message under the id of its request. -/
structure Envelope (Message : Type) where
  requestId : UInt32
  message : Message

inductive WireError where
  | packet (error : PacketError)
  | wrongDirection | wrongState | unknownServiceMessage | zeroRequestId | nonzeroEventRequestId
  | wrongPayloadLength | reservedNonzero | invalidBoolean | invalidCount | invalidRange
  | duplicateKey | duplicateContact | ancillaryTruncated | unexpectedAncillary
  | descriptorCountMismatch

/-! ### Checks -/

def requireRequestId (requestId : UInt32) : Except WireError Unit :=
  if requestId = 0 then .error .zeroRequestId else .ok ()

variable (messageType : MessageType)

def validatePhase (established : Bool) : Except WireError Unit :=
  let allowed := match messageType with
    | .hello | .helloAck => !established
    | .error => true
    | _ => established
  if allowed then .ok () else .error .wrongState

def validateIdentifier (messageClass : MessageClass) (requestId : UInt32) : Except WireError Unit :=
  match messageClass with
  | .request | .response => requireRequestId requestId
  | .event => if requestId = 0 then .ok () else .error .nonzeroEventRequestId

def AncillaryExpectation.descriptors : AncillaryExpectation → ℕ
  | none => 0
  | oneDescriptor => 1

def validateAncillary (expectation : AncillaryExpectation) (ancillary : AncillaryMetadata) :
    Except WireError Unit :=
  if ancillary.controlTruncated then .error .ancillaryTruncated
  else if ancillary.hasOtherControl then .error .unexpectedAncillary
  else if ancillary.rightsDescriptorCount ≠ expectation.descriptors then
    .error .descriptorCountMismatch
  else .ok ()

variable (payload : Bytes)

def requireLength (expected : ℕ) : Except WireError Unit :=
  if payload.length ≠ expected then .error .wrongPayloadLength else .ok ()

variable (bytes : Bytes)

def requireReserved : Except WireError Unit :=
  if bytes.any (· ≠ 0) then .error .reservedNonzero else .ok ()

def validateNonzero {α : Type} [DecidableEq α] [Inhabited α] (value : α) : Except WireError Unit :=
  if value = default then .error .invalidRange else .ok ()

def decodeBool (value : UInt8) : Except WireError Bool :=
  match value.toNat with
  | 0 => .ok false
  | 1 => .ok true
  | _ => .error .invalidBoolean

def Percentage.new (value : UInt8) : Except WireError Percentage :=
  if h : value ≤ 100 then .ok ⟨value, h⟩ else .error .invalidRange

def validateHelloAck (ack : HelloAck) : Except WireError Unit :=
  if ack.minor > protocolMinor ∨ ack.width = 0 ∨ ack.height = 0 ∨
      ¬ (1 ≤ ack.maxBuffers ∧ ack.maxBuffers ≤ maxBuffers) then .error .invalidRange
  else .ok ()

def validateBuffer (buffer : RegisterBuffer) : Except WireError Unit := do
  validateNonzero buffer.bufferId
  if buffer.stride = 0 ∨ buffer.byteLength = 0 then .error .invalidRange else .ok ()

/-- A sum that overflows 32 bits lies outside every display. -/
def DamageRectangle.outside (dimensions : DisplayDimensions) (rectangle : DamageRectangle) : Bool :=
  rectangle.width = 0 ∨ rectangle.height = 0 ∨
    rectangle.x.toNat + rectangle.width.toNat > dimensions.width.toNat ∨
    rectangle.y.toNat + rectangle.height.toNat > dimensions.height.toNat

def validateDamage (damage : List DamageRectangle) (dimensions : DisplayDimensions) :
    Except WireError Unit :=
  if damage.length > maxDamageRectangles then .error .invalidCount
  else if damage.any (DamageRectangle.outside dimensions) then .error .invalidRange
  else .ok ()

/-- The identifiers of the active contacts so far are the bits of `activeIds`. -/
def validateContacts (dimensions : DisplayDimensions) (activeIds : UInt16) :
    List InputContact → Except WireError Unit
  | [] => .ok ()
  | contact :: contacts =>
    if contact.id > 15 ∨ contact.x ≥ dimensions.width ∨ contact.y ≥ dimensions.height then
      .error .invalidRange
    else if contact.tip ∨ contact.inRange then
      if activeIds &&& (1 <<< contact.id.toUInt16) ≠ 0 then .error .duplicateContact
      else validateContacts dimensions (activeIds ||| (1 <<< contact.id.toUInt16)) contacts
    else validateContacts dimensions activeIds contacts

def validateInputFrame (frame : WireInputFrame) (dimensions : DisplayDimensions) :
    Except WireError Unit :=
  if frame.contacts.length > maxContacts then .error .invalidCount
  else validateContacts dimensions 0 frame.contacts

/-! ### Client payloads -/

def DamageRectangle.encode (rectangle : DamageRectangle) : Bytes :=
  record [.of rectangle.x, .of rectangle.y, .of rectangle.width, .of rectangle.height]

def DamageRectangle.decode (chunk : Bytes) : DamageRectangle :=
  ⟨read UInt32 0 chunk, read UInt32 4 chunk, read UInt32 8 chunk, read UInt32 12 chunk⟩

def decodeHello : Except WireError Hello := do
  requireLength payload 12
  requireReserved ((payload.drop 2).take 2)
  return ⟨read UInt16 0 payload, ⟨read UInt64 4 payload⟩⟩

def decodeRegisterBuffer : Except WireError RegisterBuffer := do
  requireLength payload 16
  let buffer : RegisterBuffer :=
    ⟨read UInt32 0 payload, read UInt32 4 payload, read UInt64 8 payload⟩
  validateBuffer buffer
  return buffer

def decodeSubmitFrame (dimensions : DisplayDimensions) : Except WireError SubmitFrame :=
  if payload.length < 16 then .error .wrongPayloadLength
  else do
    validateNonzero (read UInt32 0 payload)
    validateNonzero (read UInt64 4 payload)
    let count := (read UInt32 12 payload).toNat
    if count > maxDamageRectangles then .error .invalidCount
    else do
      requireLength payload (16 + count * 16)
      let damage := (asChunks 16 (payload.drop 16)).map DamageRectangle.decode
      validateDamage damage dimensions
      return ⟨read UInt32 0 payload, read UInt64 4 payload, damage⟩

/-- The four key slots: `count` keys still to come, then only zeros. -/
def decodeSlots : ℕ → List UInt16 → List KeyCode → Except WireError (List KeyCode)
  | _, [], keys => .ok keys
  | 0, value :: slots, keys =>
    if value ≠ 0 then .error .reservedNonzero else decodeSlots 0 slots keys
  | count + 1, value :: slots, keys =>
    match KeyCode.fromWire value with
    | none => .error .invalidRange
    | some key =>
      if key ∈ keys then .error .duplicateKey else decodeSlots count slots (keys ++ [key])

def decodeTapKeys : Except WireError (List KeyCode) := do
  requireLength payload 12
  let count := (read UInt8 0 payload).toNat
  if ¬ (1 ≤ count ∧ count ≤ maxKeys) then .error .invalidCount
  else do
    requireReserved ((payload.drop 1).take 3)
    decodeSlots count ((List.range maxKeys).map fun slot =>
      read UInt16 (4 + slot * 2) payload) []

def encodeKeys (keys : List KeyCode) : Except WireError Bytes :=
  if ¬ (1 ≤ keys.length ∧ keys.length ≤ maxKeys) then .error .invalidCount
  else if keys.zipIdx.any fun (key, index) => (keys.take index).contains key then
    .error .duplicateKey
  else .ok (record ([.of (UInt8.ofNat keys.length), .zeros 3] ++ (List.range maxKeys).map fun slot =>
      .of ((keys[slot]?).elim (0 : UInt16) KeyCode.wireValue)))

def decodePercentage : Except WireError Percentage := do
  requireLength payload 1
  Percentage.new (read UInt8 0 payload)

def decodeStepDirection : Except WireError StepDirection := do
  requireLength payload 1
  match (read UInt8 0 payload).toNat with
  | 0 => .ok .down
  | 1 => .ok .up
  | _ => .error .invalidRange

variable (dimensions : Option DisplayDimensions)

/-- The payload of a client message. -/
def ClientMessage.encodePayload : ClientMessage → Except WireError Bytes
  | hello request =>
    .ok (record [.of request.minor, .zeros 2, .of request.requiredFeatures.bits])
  | registerBuffer buffer => do
    validateBuffer buffer
    return record [.of buffer.bufferId, .of buffer.stride, .of buffer.byteLength]
  | submitFrame frame =>
    match dimensions with
    | none => .error .wrongState
    | some display => do
      validateNonzero frame.bufferId
      validateNonzero frame.frameId
      validateDamage frame.damage display
      return record [.of frame.bufferId, .of frame.frameId,
        .of (UInt32.ofNat frame.damage.length)] ++ frame.damage.flatMap DamageRectangle.encode
  | tapKeys keys => encodeKeys keys
  | setDisplayBrightness percentage | setKeyboardBacklight percentage =>
    .ok (record [.of percentage.value])
  | cancelTouchId => .ok []
  | stepDisplayBrightness direction | stepKeyboardBacklight direction =>
    .ok (record [.of direction.toByte])
  | unknown request => .ok request.payload

def ClientMessage.wireType : ClientMessage → UInt16
  | unknown request => request.messageType
  | message => (message.messageType.map MessageType.wireValue).getD 0

/-- A known message is checked against the phase; an unknown one must not carry a known type. -/
def ClientMessage.validateType (message : ClientMessage) (established : Bool) :
    Except WireError Unit :=
  match message.messageType with
  | some messageType => validatePhase messageType established
  | none =>
    if !established then .error .wrongState
    else if (MessageType.fromWire message.wireType).isSome then .error .wrongDirection
    else .ok ()

def decodeClientPayload (payload : Bytes)
    (dimensions : Option DisplayDimensions) : Except WireError ClientMessage :=
  match messageType with
  | .hello => return .hello (← decodeHello payload)
  | .registerBuffer => return .registerBuffer (← decodeRegisterBuffer payload)
  | .submitFrame =>
    match dimensions with
    | none => .error .wrongState
    | some display => return .submitFrame (← decodeSubmitFrame payload display)
  | .tapKeys => return .tapKeys (← decodeTapKeys payload)
  | .setDisplayBrightness => return .setDisplayBrightness (← decodePercentage payload)
  | .setKeyboardBacklight => return .setKeyboardBacklight (← decodePercentage payload)
  | .cancelTouchId => do
    requireLength payload 0
    return .cancelTouchId
  | .stepDisplayBrightness => return .stepDisplayBrightness (← decodeStepDirection payload)
  | .stepKeyboardBacklight => return .stepKeyboardBacklight (← decodeStepDirection payload)
  | _ => .error .wrongDirection

def encodeClient (envelope : Envelope ClientMessage) (dimensions : Option DisplayDimensions) :
    Except WireError Bytes := do
  requireRequestId envelope.requestId
  envelope.message.validateType dimensions.isSome
  let payload ← envelope.message.encodePayload dimensions
  (Packet.encode ⟨envelope.message.wireType, envelope.requestId, payload⟩).mapError .packet

def decodeClient (ancillary : AncillaryMetadata) (dimensions : Option DisplayDimensions) :
    Except WireError (Envelope ClientMessage) := do
  let packet ← (Packet.decode bytes).mapError .packet
  requireRequestId packet.requestId
  match MessageType.fromWire packet.messageType with
  | none =>
    if dimensions.isNone then .error .wrongState
    else do
      validateAncillary .none ancillary
      return ⟨packet.requestId, .unknown ⟨packet.messageType, packet.payload⟩⟩
  | some messageType =>
    if messageType.direction ≠ .clientToService then .error .wrongDirection
    else do
      validatePhase messageType dimensions.isSome
      validateAncillary messageType.ancillaryExpectation ancillary
      return ⟨packet.requestId, ← decodeClientPayload messageType packet.payload dimensions⟩

/-! ### Service payloads -/

def InputContact.encode (contact : InputContact) : Bytes :=
  record [.of contact.id, .of contact.tip.toUInt8, .of contact.inRange.toUInt8, .zeros 1,
    .of contact.x, .of contact.y]

def InputContact.decode (chunk : Bytes) : Except WireError InputContact := do
  requireReserved ((chunk.drop 3).take 1)
  let tip ← decodeBool (read UInt8 1 chunk)
  let inRange ← decodeBool (read UInt8 2 chunk)
  return ⟨read UInt8 0 chunk, tip, inRange, read UInt32 4 chunk, read UInt32 8 chunk⟩

def decodeHelloAck : Except WireError HelloAck := do
  requireLength payload 20
  requireReserved ((payload.drop 2).take 2)
  if read UInt32 12 payload ≠ 1 then .error .invalidRange
  else do
    let ack : HelloAck := ⟨read UInt16 0 payload, read UInt32 4 payload,
      read UInt32 8 payload, .xrgb8888, read UInt32 16 payload⟩
    validateHelloAck ack
    return ack

def decodeError : Except WireError ErrorCode := do
  requireLength payload 4
  match ErrorCode.fromWire (read UInt32 0 payload) with
  | none => .error .invalidRange
  | some code => return code

def decodeFrameReleased : Except WireError FrameReleased := do
  requireLength payload 12
  validateNonzero (read UInt32 0 payload)
  validateNonzero (read UInt64 4 payload)
  return ⟨read UInt32 0 payload, read UInt64 4 payload⟩

def decodeInputFrame (dimensions : DisplayDimensions) : Except WireError WireInputFrame :=
  if payload.length < 12 then .error .wrongPayloadLength
  else do
    let fnPressed ← decodeBool (read UInt8 8 payload)
    let count := (read UInt8 9 payload).toNat
    if count > maxContacts then .error .invalidCount
    else do
      requireReserved ((payload.drop 10).take 2)
      requireLength payload (12 + count * 12)
      let contacts ← (asChunks 12 (payload.drop 12)).mapM InputContact.decode
      let frame : WireInputFrame := ⟨read UInt64 0 payload, fnPressed, contacts⟩
      validateInputFrame frame dimensions
      return frame

def ServiceMessage.encodePayload : ServiceMessage → Except WireError Bytes
  | helloAck answer => do
    validateHelloAck answer
    return record [.of answer.minor, .zeros 2, .of answer.width, .of answer.height,
      .of answer.pixelFormat.wireValue, .of answer.maxBuffers]
  | ack => .ok []
  | error code => .ok (record [.of code.wireValue])
  | frameReleased frame => do
    validateNonzero frame.bufferId
    validateNonzero frame.frameId
    return record [.of frame.bufferId, .of frame.frameId]
  | inputFrame frame =>
    match dimensions with
    | none => .error .wrongState
    | some display => do
      validateInputFrame frame display
      return record [.of frame.monotonicNs, .of frame.fnPressed.toUInt8,
        .of (UInt8.ofNat frame.contacts.length), .zeros 2] ++
          frame.contacts.flatMap InputContact.encode

def decodeServicePayload (payload : Bytes)
    (dimensions : Option DisplayDimensions) : Except WireError ServiceMessage :=
  match messageType with
  | .helloAck => return .helloAck (← decodeHelloAck payload)
  | .ack => do
    requireLength payload 0
    return .ack
  | .error => return .error (← decodeError payload)
  | .frameReleased => return .frameReleased (← decodeFrameReleased payload)
  | .inputFrame =>
    match dimensions with
    | none => .error .wrongState
    | some display => return .inputFrame (← decodeInputFrame payload display)
  | _ => .error .wrongDirection

def encodeService (envelope : Envelope ServiceMessage) (dimensions : Option DisplayDimensions) :
    Except WireError Bytes := do
  validatePhase envelope.message.messageType dimensions.isSome
  validateIdentifier envelope.message.messageType.messageClass envelope.requestId
  let payload ← envelope.message.encodePayload dimensions
  (Packet.encode ⟨envelope.message.messageType.wireValue, envelope.requestId, payload⟩).mapError
    .packet

def decodeService (ancillary : AncillaryMetadata) (dimensions : Option DisplayDimensions) :
    Except WireError (Envelope ServiceMessage) := do
  let packet ← (Packet.decode bytes).mapError .packet
  match MessageType.fromWire packet.messageType with
  | none => .error .unknownServiceMessage
  | some messageType =>
    if messageType.direction ≠ .serviceToClient then .error .wrongDirection
    else do
      validatePhase messageType dimensions.isSome
      validateIdentifier messageType.messageClass packet.requestId
      validateAncillary messageType.ancillaryExpectation ancillary
      return ⟨packet.requestId, ← decodeServicePayload messageType packet.payload dimensions⟩

end T1Bridge.TouchBar
