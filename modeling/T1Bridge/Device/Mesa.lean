import T1Bridge.Device.Command

/-! # Messages of the sensor

Identity records and the service-status callbacks of the sensor's service.  `parseMesaMessage`
ignores the callbacks of other services; the evaluators then say what a message means for the
user an operation was started for. -/

namespace T1Bridge.Device

structure ServiceStatusEvent where
  service : ℕ
  data : Packet

/-- What the wait loop of an enrollment gets. -/
inductive EnrollmentEvent where
  | serviceStatus (event : ServiceStatusEvent)
  | timedOut

/-- What the wait loop of a match gets. -/
inductive MatchEvent where
  | callback (event : ServiceStatusEvent)
  | cancelled
  | timedOut

def mesaServiceMessage : ℕ := 0xe3ff8000
def mesaEnrollmentStatus : ℕ := 0xe3ff8001
def mesaMatchResult : ℕ := 0xe3ff8002
def mesaEnrollmentComplete : ℕ := 0xe3ff8003
def mesaMessageTypeV1 : ℕ := 1
def mesaMessageHeaderSize : ℕ := 40
def mesaEnrollmentCompleteV1Size : ℕ := 20
def mesaEnrollmentContinueMin : ℕ := 0x64
def mesaEnrollmentContinueMax : ℕ := 0x163
def mesaMatchResultV1Size : ℕ := 0x0c70
def mesaMatchUserListCountOffset : ℕ := 0x0c6c
def mesaMatchUserListItemSize : ℕ := 4

/-- Sizes are 64-bit words. -/
def usizeLimit : ℕ := 2 ^ 64

inductive MesaError where
  | invalidIdentitySize (actual expected : ℕ)
  | negativeIdentityUser
  | zeroIdentityIdentifier
  | truncatedMessageHeader (actual minimum : ℕ)
  | serviceResultFailed (result : ℕ)
  | payloadLengthDoesNotFit (declared : ℕ)
  | payloadLengthMismatch (declared actual : ℕ)
  | unsupportedEnrollmentCompletionType (actual : ℕ)
  | truncatedEnrollmentCompletion (actual minimum : ℕ)
  | enrollmentCompletedForWrongUser
  | zeroEnrollmentIdentifier
  | unsupportedMatchResultType (actual : ℕ)
  | truncatedMatchResult (actual minimum : ℕ)
  | matchUserListSizeOverflow (itemCount : ℕ)
  | truncatedMatchUserList (actual required : ℕ)
deriving DecidableEq

structure MesaMessage where
  status : ℕ
  messageType : ℕ
  timestamp : ℕ
  payload : Packet
  inValue : ℕ

/-! ### Words -/

variable (data : Packet) (offset : ℕ)

def readU32 : ℕ := fromLe ((data.drop offset).take 4)

def readI32 : ℤ := signed 4 (readU32 data offset)

def readU64 : ℕ := fromLe ((data.drop offset).take 8)

/-! ### Identities -/

def zeroIdentifier : Packet := List.replicate 16 0

/-- A validated identity record. -/
structure Identity where
  userId : ℤ
  identifier : Packet
  nonneg : 0 ≤ userId
  length_eq : identifier.length = 16
  ne_zero : identifier ≠ zeroIdentifier
deriving DecidableEq

variable {message : MesaMessage} {requestedUserId : ℤ} {identities : List Identity}

def parseIdentity : Except MesaError Identity :=
  if h : data.length = identityV1Size then
    if hn : readI32 data 0 < 0 then .error .negativeIdentityUser
    else if hz : (data.drop 4).take 16 = zeroIdentifier then .error .zeroIdentityIdentifier
    else .ok ⟨readI32 data 0, (data.drop 4).take 16, Int.not_lt.mp hn, by
      rw [List.length_take, List.length_drop, h]
      decide, hz⟩
  else .error (.invalidIdentitySize data.length identityV1Size)

/-- The records of a packed list, as `chunks` cuts them. -/
def identityRecords (response : Packet) : List Packet :=
  (List.range ((response.length + identityV1Size - 1) / identityV1Size)).map fun i =>
    (response.drop (i * identityV1Size)).take identityV1Size

def parseIdentities (response : Packet) : Except MesaError (List Identity) :=
  (identityRecords response).mapM parseIdentity

/-! ### Messages -/

def parseMesaMessage (event : ServiceStatusEvent) : Except MesaError (Option MesaMessage) :=
  if event.service ≠ mesaServiceMessage then .ok none
  else if event.data.length < mesaMessageHeaderSize then
    .error (.truncatedMessageHeader event.data.length mesaMessageHeaderSize)
  else if readU64 event.data 0 ≠ 0 then .error (.serviceResultFailed (readU64 event.data 0))
  else if usizeLimit ≤ readU64 event.data 32 then
    .error (.payloadLengthDoesNotFit (readU64 event.data 32))
  else if readU64 event.data 32 ≠ event.data.length - mesaMessageHeaderSize then
    .error (.payloadLengthMismatch (readU64 event.data 32)
      (event.data.length - mesaMessageHeaderSize))
  else .ok (some {
    status := readU32 event.data 8
    messageType := readU32 event.data 12
    timestamp := readU64 event.data 16
    inValue := readU64 event.data 24
    payload := event.data.drop mesaMessageHeaderSize })

variable (message)

/-- The message asks for another touch. -/
def enrollmentNeedsContinue : Bool :=
  message.status == mesaEnrollmentStatus && decide (mesaEnrollmentContinueMin ≤ message.inValue) &&
    decide (message.inValue ≤ mesaEnrollmentContinueMax)

/-- The identifier of a completed enrollment; `none` when the message is about something else. -/
def enrollmentCompletion (requestedUserId : ℤ) : Except MesaError (Option Packet) :=
  if message.status ≠ mesaEnrollmentComplete then .ok none
  else if message.messageType ≠ mesaMessageTypeV1 then
    .error (.unsupportedEnrollmentCompletionType message.messageType)
  else if message.payload.length < mesaEnrollmentCompleteV1Size then
    .error (.truncatedEnrollmentCompletion message.payload.length mesaEnrollmentCompleteV1Size)
  else if readI32 message.payload 0 ≠ requestedUserId then .error .enrollmentCompletedForWrongUser
  else if (message.payload.drop 4).take 16 = zeroIdentifier then .error .zeroEnrollmentIdentifier
  else .ok (some ((message.payload.drop 4).take 16))

/-- The bytes a match result takes with its list of users. -/
def matchResultSize (payload : Packet) : ℕ :=
  mesaMatchResultV1Size + readU32 payload mesaMatchUserListCountOffset * mesaMatchUserListItemSize

def validateMatchResult : Except MesaError Unit :=
  if message.messageType ≠ mesaMessageTypeV1 then
    .error (.unsupportedMatchResultType message.messageType)
  else if message.payload.length < mesaMatchResultV1Size then
    .error (.truncatedMatchResult message.payload.length mesaMatchResultV1Size)
  else if usizeLimit ≤ matchResultSize message.payload then
    .error (.matchUserListSizeOverflow (readU32 message.payload mesaMatchUserListCountOffset))
  else if message.payload.length < matchResultSize message.payload then
    .error (.truncatedMatchUserList message.payload.length (matchResultSize message.payload))
  else .ok ()

/-- The enrolled identity that a match result names; user -1 is no match. -/
def matchedIdentity (payload : Packet) (requestedUserId : ℤ) (identities : List Identity) :
    Option Identity :=
  if readI32 payload 0 = -1 then none
  else
    identities.find? fun identity =>
      decide (readI32 payload 0 = requestedUserId) && decide (identity.userId = requestedUserId) &&
        decide (identity.identifier = (payload.drop 4).take 16)

/-- The verdict of a match result: the enrolled identifier, or no match; `none` when the message
is about something else. -/
def evaluateMatchedIdentity (requestedUserId : ℤ)
    (identities : List Identity) : Except MesaError (Option (Option Packet)) :=
  if message.status ≠ mesaMatchResult then .ok none
  else
    match validateMatchResult message with
    | .error error => .error error
    | .ok _ =>
      .ok (some ((matchedIdentity message.payload requestedUserId identities).map
        Identity.identifier))

variable {message}

lemma evaluateMatchedIdentity_matched {identifier : Packet}
    (h : evaluateMatchedIdentity message requestedUserId identities =
      .ok (some (some identifier))) :
    message.status = mesaMatchResult ∧ readI32 message.payload 0 = requestedUserId ∧
      identifier = (message.payload.drop 4).take 16 ∧
      ∃ identity ∈ identities, identity.identifier = identifier := by
  unfold evaluateMatchedIdentity at h
  split at h
  · cases h
  next hstatus =>
  split at h
  · cases h
  obtain ⟨identity, hmatched, hid⟩ :=
    Option.map_eq_some_iff.mp (Option.some.inj (Except.ok.inj h))
  unfold matchedIdentity at hmatched
  split at hmatched
  · cases hmatched
  have hmem := List.mem_of_find?_eq_some hmatched
  have hnamed := List.find?_some hmatched
  rw [Bool.and_eq_true, Bool.and_eq_true, decide_eq_true_iff, decide_eq_true_iff,
    decide_eq_true_iff] at hnamed
  refine ⟨not_not.mp hstatus, hnamed.1.1, ?_, identity, hmem, hid⟩
  rw [← hid, hnamed.2]

end T1Bridge.Device
