import T1Bridge.Sep.Relay

/-! # Keystore requests

A request is a sealed header and its arguments; the seal is a part of a SHA-256 digest.  A reply
names a result of the relay and a result of the keystore before its typed output. -/

namespace T1Bridge.Sep.Keystore

def ipcHeaderSize : ℕ := 0x50
def ipcWireHeaderSize : ℕ := 0x54
def ipcDigestSize : ℕ := 16
def ipcHashedHeaderSize : ℕ := 0x38
def uuidSize : ℕ := 16

/-- The digest of the implementation. -/
structure Sha256 where
  hash : Packet → Packet
  length_hash : ∀ bytes, (hash bytes).length = 32

inductive Error where
  | argument | capacity | length | header | hash | selector | transaction | state | exhausted
  | relay

inductive OperationKind where
  | capabilities | create | serialize | load | lockState | copyUuid | makeSystem | unlock
  | deviceState | verifySecret | getConfiguration | setConfiguration | setEnvironment

def operationSelector : OperationKind → UInt8
  | .create => 0x01
  | .serialize => 0x02
  | .load => 0x03
  | .lockState => 0x04
  | .copyUuid => 0x06
  | .makeSystem => 0x0d
  | .unlock => 0x18
  | .deviceState => 0x19
  | .verifySecret => 0x21
  | .getConfiguration => 0x23
  | .setConfiguration => 0x24
  | .setEnvironment => 0x2a
  | .capabilities => 0x4d

inductive ReplyKind where
  | none | value | valueAndFlags | statePair | opaqueBytes
deriving DecidableEq

/-- A request under way, as its reply is checked against it. -/
structure Operation where
  kind : OperationKind
  requestLength : ℕ
  selector : UInt8
  transaction : UInt8

/-- The fields of a keystore reply. -/
structure Reply where
  kind : ReplyKind
  opaqueBytes : Packet
  firstWideValue : ℕ
  secondWideValue : ℕ
  value : ℕ
  innerResult : ℤ
  outerResult : ℤ
deriving DecidableEq

def Reply.zero : Reply := ⟨.none, [], 0, 0, 0, 0, 0⟩

def validateIpcBounds (length : ℕ) : Except Error Unit :=
  if length < ipcWireHeaderSize ∨ length > Relay.dataCapacity ∨ length > 0xffff then
    .error .length
  else .ok ()

def verifySeal (sha : Sha256) (request : Packet) : Except Error Unit := do
  validateIpcBounds request.length
  if wordAt 4 0 request ≠ ipcHeaderSize ∨ wordAt 4 0x14 request ≠ 1 then .error .header
  else if (request.drop 4).take ipcDigestSize ≠
      (sha.hash ((request.drop 0x14).take ipcHashedHeaderSize ++
        request.drop ipcWireHeaderSize)).take ipcDigestSize then .error .hash
  else pure ()

def wrapRequest (sha : Sha256) (relay : Relay.State) (operation : Operation) (request : Packet) :
    Except Error (Packet × Relay.Pending × Relay.State) := do
  if request.length ≠ operation.requestLength then .error .length
  else if operation.selector ≠ operationSelector operation.kind then .error .selector
  else
    verifySeal sha request
    match Relay.buildKeystoreRequest relay request operation.selector operation.transaction with
    | .ok built => pure built
    | .error _ => .error .relay

/-! ### Replies -/

def parseLengthPrefixedOpaque (reply : Reply) (output : Packet) (outputLength exactLength : ℕ) :
    Except Error Reply :=
  if outputLength < 4 then .error .length
  else if wordAt 4 0 output > outputLength - 4 ∨
      exactLength ≠ 0 ∧ wordAt 4 0 output ≠ exactLength then .error .length
  else .ok { reply with
    kind := .opaqueBytes
    opaqueBytes := (output.drop 4).take (wordAt 4 0 output) }

def parseTypedOutput (kind : OperationKind) (reply : Reply) (output : Packet)
    (outputLength : ℕ) : Except Error Reply :=
  match kind with
  | .create | .load =>
    if outputLength ≠ 4 then .error .length
    else .ok { reply with kind := .value, value := wordAt 4 0 output }
  | .serialize | .deviceState | .getConfiguration =>
    parseLengthPrefixedOpaque reply output outputLength 0
  | .copyUuid => parseLengthPrefixedOpaque reply output outputLength uuidSize
  | .lockState =>
    if outputLength ≠ 12 then .error .length
    else .ok { reply with
      kind := .valueAndFlags
      value := wordAt 4 0 output
      firstWideValue := wordAt 8 4 output }
  | .unlock | .setConfiguration =>
    if outputLength ≠ 16 then .error .length
    else .ok { reply with
      kind := .statePair
      firstWideValue := wordAt 8 0 output
      secondWideValue := wordAt 8 8 output }
  | .capabilities =>
    .ok { reply with kind := .opaqueBytes, opaqueBytes := output.take outputLength }
  | .makeSystem | .verifySecret | .setEnvironment => .ok { reply with kind := .none }

/-- What a reply that fits says. -/
inductive Parsed where
  | ok (reply : Reply)
  | remoteError (reply : Reply)
deriving DecidableEq

def parseReply (m : Relay.Message) (pending : Relay.Pending) (operation : Operation) :
    Except Error Parsed :=
  if operation.selector ≠ operationSelector operation.kind then .error .selector
  else if pending.kind ≠ .keystore ∨ pending.selector ≠ operation.selector then
    .error .selector
  else if pending.transaction ≠ operation.transaction then .error .transaction
  else
    match Relay.matchesPending m pending with
    | .error _ => .error .relay
    | .ok () =>
      let outer := signed 1 (byteAt 11 m.message).toNat
      let declared := wordAt 2 14 m.message
      let reply := { Reply.zero with outerResult := outer }
      if m.messageLength < 8 then .error .length
      else if declared > m.dataLength then .error .length
      else if outer ≠ 0 then .ok (.remoteError reply)
      else if declared < 8 then .error .length
      else
        let headerLength := wordAt 4 0 m.data
        if headerLength > declared - 8 then .error .header
        else if 4 + headerLength > declared - 4 then .error .length
        else
          let inner := signed 4 (wordAt 4 (4 + headerLength) m.data)
          let reply := { reply with innerResult := inner }
          if inner ≠ 0 then .ok (.remoteError reply)
          else do
            let reply ← parseTypedOutput operation.kind reply
              (m.data.drop (8 + headerLength)) (declared - (8 + headerLength))
            pure (.ok reply)

end T1Bridge.Sep.Keystore
