import T1Bridge.Xart.Record

/-! # The xART service

A connection begins with a greeting from each side; then every frame with a property list is a
request and is answered before the next frame is read.  The loop takes the number of frames it
looks at and returns `none` while the connection goes on. -/

namespace T1Bridge.Xart

open FileSystem Wire

/-! ### Requests -/

def protocolVersion : ℕ := 1
def fetchCommand : ℕ := 100
def saveCommand : ℕ := 150

def versionKey : String := "xart-msg.version"
def commandKey : String := "xart-msg.command"
def successKey : String := "xart-msg.success"
def errorKey : String := "xart-msg.error"
def xartKey : String := "xart-msg.xart"
def volumeUuidKey : String := "xart-msg.volume-uuid"
def volumeExternalKey : String := "xart-msg.volume-external?"
def uint64WrapperKey : String := "__com.apple.BridgeXPC.uint64"
def uuidWrapperKey : String := "__com.apple.BridgeXPC.UUID"

/-- A response, with its entries in the order of the keys. -/
abbrev Response := List (String × Value)

def bridgexpcUint64 (value : ℕ) : Value := .dictionary [(uint64WrapperKey, .integer value)]

def bridgexpcUuid (value : Packet) : Value := .dictionary [(uuidWrapperKey, .data value)]

def failure (message : String) : Response :=
  [(errorKey, .string message), (successKey, .boolean false),
    (versionKey, bridgexpcUint64 protocolVersion)]

def storageFailure : XartStoreError → Response
  | .invalidWireBlob => failure "save request contained an invalid xART"
  | .storageUnavailable => failure "xART storage is unavailable"
  | .unsafeStorage => failure "xART storage is unsafe"
  | .invalidStoredBlob => failure "stored xART is invalid"

def fetchedResponse (fetched : FetchedXart) : Response :=
  [(successKey, .boolean true), (versionKey, bridgexpcUint64 protocolVersion),
    (volumeExternalKey, .boolean fetched.volumeExternal),
    (volumeUuidKey, bridgexpcUuid fetched.volumeId), (xartKey, .data fetched.wireBlob)]

def savedResponse : Response :=
  [(successKey, .boolean true), (versionKey, bridgexpcUint64 protocolVersion)]

def toUint64 (value : ℤ) : Option ℕ :=
  if 0 ≤ value ∧ value < 2 ^ 64 then some value.toNat else none

def decodeUint64 : Value → Option ℕ
  | .integer value => toUint64 value
  | .dictionary wrapper =>
    if wrapper.length = 1 then
      match wrapper.lookup uint64WrapperKey with
      | some (.integer value) => toUint64 value
      | _ => none
    else none
  | _ => none

/-- What a request asks for. -/
inductive Request where
  | fetch
  | save (value : Option Value)

/-- The request of a decoded value, or the message it is refused with. -/
def requestOf : Value → Except String Request
  | .dictionary request =>
    if (request.lookup versionKey).bind decodeUint64 ≠ some protocolVersion then
      .error "invalid or missing protocol version"
    else if (request.lookup commandKey).bind decodeUint64 = some fetchCommand then .ok .fetch
    else if (request.lookup commandKey).bind decodeUint64 = some saveCommand then
      .ok (.save (request.lookup xartKey))
    else .error "unsupported command"
  | _ => .error "request is not a dictionary"

def handleFetch (store : XartStore) : XartProg Response := do
  match ← (fetch store).run with
  | .ok fetched => pure (fetchedResponse fetched)
  | .error error => pure (storageFailure error)

def handleSave (process sequence : ℕ) : Option Value → XartProg (Response × ℕ)
  | some (.data wireBlob) => do
    match ← save process sequence wireBlob with
    | (.ok _, sequence) => pure (savedResponse, sequence)
    | (.error error, sequence) => pure (storageFailure error, sequence)
  | _ => pure (failure "save request contained an invalid xART", sequence)

/-- The response to a request, and the counter of the process after it. -/
def handleRequest (store : XartStore) (process sequence : ℕ) (request : Value) :
    XartProg (Response × ℕ) :=
  match requestOf request with
  | .error message => pure (failure message, sequence)
  | .ok .fetch => do
    let response ← handleFetch store
    pure (response, sequence)
  | .ok (.save value) => handleSave process sequence value

/-! ### Connections -/

def frameHello : ℕ := 1
def frameBinaryPlist : ℕ := 2
def maxFrameBodyLen : ℕ := 16 * 1024 * 1024

inductive HelloError where
  | invalidProcessName | bodyTooLarge | malformedJson | nestingTooDeep | jsonKeyTooLong
  | missingProtocolVersion | duplicateProtocolVersion | unsupportedProtocolVersion
deriving DecidableEq

inductive XartSessionError where
  | transport (error : TransportError)
  | expectedPeerHello
  | hello (error : HelloError)
  | binaryPlist (error : PlistError)
deriving DecidableEq

/-- The greeting of the service. -/
def serverHello : Frame where
  messageType := frameHello
  body := ("\x7b\"OSBuild\":\"Linux\",\"BridgeXPCVersion\":1.35,\"ProcessName\":" ++
    "\"xartstorageremoted\",\"MaxSupportedProtocolVersion\":1\x7d").toUTF8.data.toList

def Frame.new (messageType : ℕ) (body : Packet) : Except FrameError Frame :=
  if body.length > maxFrameBodyLen then .error (.bodyTooLarge body.length maxFrameBodyLen)
  else .ok ⟨messageType, body⟩

/-- The frame of a response. -/
def responseFrame (response : Response) : Except XartSessionError Frame :=
  match encode (.dictionary response) with
  | .error error => .error (.binaryPlist error)
  | .ok body =>
    match Frame.new frameBinaryPlist body with
    | .error error => .error (.transport (.frame error))
    | .ok frame => .ok frame

-- The decoder of property lists and the check of the peer's greeting; nothing is assumed of them.
variable (decode : Packet → Except PlistError Value)
  (validatePeerHello : Packet → Except HelloError Unit) (store : XartStore)

def serveRequests (process : ℕ) : ℕ → ℕ → XartProg (Option (Except XartSessionError Unit) × ℕ)
  | 0, sequence => pure (none, sequence)
  | n + 1, sequence => do
    match ← receiveFrame with
    | .error .connectionClosed => pure (some (.ok ()), sequence)
    | .error error => pure (some (.error (.transport error)), sequence)
    | .ok frame =>
      if frame.messageType ≠ frameBinaryPlist then serveRequests process n sequence
      else
        match decode frame.body with
        | .error error => pure (some (.error (.binaryPlist error)), sequence)
        | .ok request =>
          let (response, sequence) ← handleRequest store process sequence request
          match responseFrame response with
          | .error error => pure (some (.error error), sequence)
          | .ok frame =>
            match ← sendFrame frame with
            | .error error => pure (some (.error (.transport error)), sequence)
            | .ok _ => serveRequests process n sequence

/-- The peer's greeting, as the service checks it. -/
def checkPeerHello (frame : Frame) : Except XartSessionError Unit :=
  if frame.messageType ≠ frameHello then .error .expectedPeerHello
  else
    match validatePeerHello frame.body with
    | .error error => .error (.hello error)
    | .ok _ => .ok ()

def serveConnection (process n sequence : ℕ) :
    XartProg (Option (Except XartSessionError Unit) × ℕ) := do
  match ← sendFrame serverHello with
  | .error error => pure (some (.error (.transport error)), sequence)
  | .ok _ =>
    match ← receiveFrame with
    | .error error => pure (some (.error (.transport error)), sequence)
    | .ok frame =>
      match checkPeerHello validatePeerHello frame with
      | .error error => pure (some (.error error), sequence)
      | .ok _ => serveRequests decode store process n sequence

end T1Bridge.Xart
