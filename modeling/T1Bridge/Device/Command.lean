import T1Bridge.Auth.Protocol
import T1Bridge.Lib.Bytes

/-! # Command packets

The packets the bridge sends to the sensor: a header with the code and a value, the payload,
and the number of bytes the reply may have.  The payload of every builder is the source's, byte
by byte. -/

namespace T1Bridge.Device

/-- The commands that the workflows send. -/
inductive CommandCode where
  | startEnrollment | startMatch | cancelOperation | continueEnrollment | loadCalibration
  | loadSecureCatacomb | getIdentities
deriving DecidableEq

def CommandCode.asRaw : CommandCode → ℕ
  | startEnrollment => 0x03
  | startMatch => 0x04
  | cancelOperation => 0x0c
  | continueEnrollment => 0x0e
  | loadCalibration => 0x20
  | loadSecureCatacomb => 0x40
  | getIdentities => 0x42

/-- A policy payload or user that the sensor is not asked to take. -/
inductive PolicyError where
  | userIdOutOfRange
  | invalidCredentialLength (actual : ℕ)
deriving DecidableEq

/-- A catacomb of a size that is not sent. -/
inductive CatacombError where
  | invalidSecureCatacombSize (actual maximum : ℕ)
deriving DecidableEq

inductive CommandError where
  | calibrationDataTooLarge (actual maximum : ℕ)
  | unexpectedResponseData (actual : ℕ)
  | misalignedIdentityList (actual recordSize : ℕ)
  | identityListExceedsCapacity (actual capacity : ℕ)
  | policy (error : PolicyError)
  | catacomb (error : CatacombError)
deriving DecidableEq

/-- A user the sensor knows: a non-negative signed word. -/
structure BiometricUserId where
  raw : ℕ
  le_max : raw ≤ 0x7fffffff

def BiometricUserId.new (value : ℤ) : Except PolicyError BiometricUserId :=
  if h : 0 ≤ value ∧ value ≤ 0x7fffffff then .ok ⟨value.toNat, Int.toNat_le.mpr h.2⟩
  else .error .userIdOutOfRange

/-- A command and the space for its response. -/
structure CommandPacket where
  code : CommandCode
  value : ℕ
  payload : Packet
  responseCapacity : ℕ
deriving DecidableEq

def biometricMagic : ℕ := 0x4d42

def biometricProtocolVersion : ℕ := 1

/-- The bytes of a packet: magic, code, version and value, then the payload. -/
def CommandPacket.request (packet : CommandPacket) : Packet :=
  leBytes 2 biometricMagic ++ leBytes 2 packet.code.asRaw ++
    leBytes 2 biometricProtocolVersion ++ leBytes 2 packet.value ++ packet.payload

/-! ### Builders the others are made of -/

variable (code : CommandCode)

def commandWithPayload (payload : Packet) (responseCapacity : ℕ) :
    CommandPacket := ⟨code, 0, payload, responseCapacity⟩

def command (responseCapacity : ℕ) : CommandPacket :=
  commandWithPayload code [] responseCapacity

def userCommand (userId responseCapacity : ℕ) : CommandPacket :=
  commandWithPayload code (leBytes 4 userId) responseCapacity

/-! ### Sizes -/

def identityV1Size : ℕ := 20

/-- Identity records a list can have. -/
def maxIdentities : ℕ := 5

def identityListCapacity : ℕ := maxIdentities * identityV1Size

def acmContextExternalFormSize : ℕ := 16

def authorizationSize : ℕ := 40

def startMatchDescriptorSize : ℕ := 0x44

/-! ### Commands -/

variable (userId : BiometricUserId)

def identitiesCommand : CommandPacket :=
  userCommand .getIdentities userId.raw identityListCapacity

/-- The authorization block: no credential, or one of exactly sixteen bytes. -/
def encodeAuthorization : Option Packet → Except PolicyError Packet
  | none => .ok (leBytes 4 1 ++ List.replicate (authorizationSize - 4) 0)
  | some credentialSet =>
    if credentialSet.length ≠ acmContextExternalFormSize then
      .error (.invalidCredentialLength credentialSet.length)
    else .ok (leBytes 4 0 ++ leBytes 4 16 ++ credentialSet ++ List.replicate 16 0)

def startEnrollmentCommand (credentialSet : Option Packet) : Except CommandError CommandPacket := do
  let authorization ← (encodeAuthorization credentialSet).mapError .policy
  return ⟨.startEnrollment, 1, leBytes 4 0 ++ leBytes 4 userId.raw ++ authorization, 0⟩

def continueEnrollmentCommand : CommandPacket := command .continueEnrollment 0

def startMatchCommand : CommandPacket :=
  commandWithPayload .startMatch
    (leBytes 4 0 ++ leBytes 4 userId.raw ++ List.replicate (startMatchDescriptorSize - 8) 0) 0

def cancelOperationCommand : CommandPacket := command .cancelOperation 0

def maxCalibrationDataSize : ℕ := 16 * 1024 * 1024 - 8

inductive CalibrationSource where
  | systemConfiguration | eeprom | fdr

def CalibrationSource.asRaw : CalibrationSource → ℕ
  | systemConfiguration => 1
  | eeprom => 2
  | fdr => 3

def loadCalibrationCommand (source : CalibrationSource) (calibration : Packet) :
    Except CommandError CommandPacket :=
  if calibration.length > maxCalibrationDataSize then
    .error (.calibrationDataTooLarge calibration.length maxCalibrationDataSize)
  else .ok ⟨.loadCalibration, source.asRaw, calibration, 0⟩

def maxSecureCatacombSize : ℕ := 16 * 1024 * 1024 - 8

def validateSecureCatacombSize (size : ℕ) : Except CatacombError Unit :=
  if size = 0 ∨ size > maxSecureCatacombSize then
    .error (.invalidSecureCatacombSize size maxSecureCatacombSize)
  else .ok ()

def loadSecureCatacombCommand (data : Packet) : Except CommandError CommandPacket := do
  (validateSecureCatacombSize data.length).mapError .catacomb
  return commandWithPayload .loadSecureCatacomb data 0

/-! ### Checks of replies -/

def validateEmptyResponse (response : Packet) : Except CommandError Unit :=
  if response.isEmpty then .ok () else .error (.unexpectedResponseData response.length)

def validateIdentityListResponse (response : Packet) : Except CommandError Unit :=
  if response.length % identityV1Size ≠ 0 then
    .error (.misalignedIdentityList response.length identityV1Size)
  else if response.length > identityListCapacity then
    .error (.identityListExceedsCapacity response.length identityListCapacity)
  else .ok ()

end T1Bridge.Device
