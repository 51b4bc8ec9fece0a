import T1Bridge.Device.Command
import T1Bridge.Wire.Frame
import T1Bridge.Wire.PlistRoundTrip

/-! # Envelopes

A call and its reply are property lists of four elements: the version, whether it is a reply, the
identifier of the request, and the payload.  `handleInboundRequest` is what the bridge answers to
the calls of its peer. -/

namespace T1Bridge.Wire

open T1Bridge.Device (CommandPacket)

def rpcProtocolVersion : ℕ := 1
def bridgexpcNil : String := "d4161201-daf5-4bbd-ae4f-9bf319fabbe0"
def performBiometricCommandOrdinal : ℕ := 3
def biometricBridgeCommand : ℕ := 0
def serviceStatusOrdinals : List ℕ := [9, 10]
def success : ℤ := 0
def unsupportedMethod : ℤ := 22

structure RequestId where
  value : String
deriving DecidableEq

inductive RpcError where
  | binaryPlist (error : PlistError)
  | invalidRequestId
  | invalidEnvelope
  | unsupportedProtocolVersion
  | invalidCallbackService
  | invalidCallbackData
  | invalidCallbackTiming

/-- A request or the reply to one. -/
inductive RpcEnvelope where
  | request (requestId : RequestId) (payload : List Value)
  | reply (requestId : RequestId) (result : List Value)

/-- A callback of the peer with everything it says. -/
structure ServiceStatusEvent where
  service : ℕ
  data : Packet
  referenceTimestamp : ℕ
  continuousTimeDelta : ℕ

/-- The answer to a request of the device, and the event it carried. -/
structure InboundRequestResult where
  reply : List Value
  serviceEvent : Option ServiceStatusEvent

def integer (value : ℕ) : Value := .integer value

/-- An uppercase identifier: hexadecimal digits with dashes at four places. -/
def isCanonicalRequestId (value : String) : Bool :=
  let bytes := value.toUTF8.data.toList
  decide (bytes.length = 36) && bytes.zipIdx.all fun (byte, index) =>
    if index = 8 ∨ index = 13 ∨ index = 18 ∨ index = 23 then decide (byte = 0x2d)
    else (decide (0x30 ≤ byte) && decide (byte ≤ 0x39)) || (decide (0x41 ≤ byte) && decide (byte ≤ 0x46))

def envelope (isReply : Bool) (requestId : RequestId) (payload : List Value) : Value :=
  .array [integer rpcProtocolVersion, .boolean isReply, .string requestId.value, .array payload]

def encodeEnvelope (isReply : Bool) (requestId : RequestId) (payload : List Value) :
    Except RpcError Packet :=
  (encode (envelope isReply requestId payload)).mapError .binaryPlist

def encodeRequest (requestId : RequestId) (payload : List Value) : Except RpcError Packet :=
  if isCanonicalRequestId requestId.value = false then .error .invalidRequestId
  else encodeEnvelope false requestId payload

def encodeReply (requestId : RequestId) (result : List Value) : Except RpcError Packet :=
  encodeEnvelope true requestId result

/-- The fields are looked at from the last to the first. -/
def openEnvelope : Value → Except RpcError RpcEnvelope
  | .array [version, isReply, requestId, payload] =>
    match payload with
    | .array payload =>
      match requestId with
      | .string requestId =>
        match isReply with
        | .boolean isReply =>
          match version with
          | .integer version =>
            if version ≠ rpcProtocolVersion then .error .unsupportedProtocolVersion
            else if isReply then .ok (.reply ⟨requestId⟩ payload)
            else .ok (.request ⟨requestId⟩ payload)
          | _ => .error .unsupportedProtocolVersion
        | _ => .error .invalidEnvelope
      | _ => .error .invalidEnvelope
    | _ => .error .invalidEnvelope
  | _ => .error .invalidEnvelope

def decodeEnvelope (data : Packet) : Except RpcError RpcEnvelope := do
  let value ← (decode data).mapError .binaryPlist
  openEnvelope value

def performBiometricCommandRequest (packet : CommandPacket) : List Value :=
  [integer performBiometricCommandOrdinal, integer biometricBridgeCommand, .data packet.request,
    .integer packet.responseCapacity]

def unsupportedRequest : InboundRequestResult := ⟨[.integer unsupportedMethod], none⟩

/-- The service, the data and the times of a callback. -/
def parseCallback (service data referenceTimestamp continuousTimeDelta : Value) :
    Except RpcError ServiceStatusEvent := do
  let service ← match service with
    | .integer service =>
      if 0 ≤ service ∧ service < 2 ^ 32 then .ok service.toNat else .error .invalidCallbackService
    | _ => .error .invalidCallbackService
  let data ← match data with
    | .string value => if value = bridgexpcNil then .ok [] else .error .invalidCallbackData
    | .data data => .ok data
    | _ => .error .invalidCallbackData
  match referenceTimestamp, continuousTimeDelta with
  | .integer referenceTimestamp, .integer continuousTimeDelta =>
    if 0 ≤ referenceTimestamp ∧ referenceTimestamp < 2 ^ 64 ∧ 0 ≤ continuousTimeDelta ∧
        continuousTimeDelta < 2 ^ 64 then
      .ok ⟨service, data, referenceTimestamp.toNat, continuousTimeDelta.toNat⟩
    else .error .invalidCallbackTiming
  | _, _ => .error .invalidCallbackTiming

def handleInboundRequest : List Value → Except RpcError InboundRequestResult
  | [.integer ordinal, service, data, referenceTimestamp, continuousTimeDelta] =>
    if 0 ≤ ordinal ∧ ordinal < 2 ^ 64 ∧ ordinal.toNat ∈ serviceStatusOrdinals then do
      let event ← parseCallback service data referenceTimestamp continuousTimeDelta
      .ok ⟨[.integer success], some event⟩
    else .ok unsupportedRequest
  | _ => .ok unsupportedRequest

end T1Bridge.Wire
