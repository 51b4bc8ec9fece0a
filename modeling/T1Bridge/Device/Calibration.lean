import T1Bridge.Device.Command
import T1Bridge.Lib.Except

/-! # Calibration records

A factory record is a nest of DER elements around a calibration blob.  Only its framing is checked:
the elements in their places, the size and the marker of the blob, and that it names the module. -/

namespace T1Bridge.Device

def moduleSerialNumberSize : ℕ := 18
def derSequence : UInt8 := 0x30
def derOctetString : UInt8 := 0x04
def derIa5String : UInt8 := 0x16
def calibrationMinimumSize : ℕ := 20
def calibrationMarkerOffset : ℕ := 16
def calibrationMarker : Packet := ascii ['C', 'A', 'L', 'B']

inductive CalibrationError where
  | truncatedDerElement | unsupportedDerLength | truncatedDerLength | nonMinimalDerLength
  | nonMinimalDerLongLength | truncatedDerContent | incompleteDerSequence | unexpectedImg4Envelope
  | missingFdrdContainer | missingImg4Object | missingIm4pObject | missingCalibrationPayload
  | truncatedCalibrationBlob (actual : ℕ)
  | calibrationSizeMismatch (declared actual : ℕ)
  | missingCalibrationMarker
  | invalidModuleSerialLength (actual : ℕ)
  | differentModule
deriving DecidableEq

structure DerElement where
  tag : UInt8
  content : Packet
deriving DecidableEq

/-- The length of an element and the size of the element's header. -/
def readDerLength (lengthOctet : UInt8) (rest : Packet) : Except CalibrationError (ℕ × ℕ) :=
  if lengthOctet &&& 0x80 = 0 then .ok (lengthOctet.toNat, 2)
  else
    let lengthSize := (lengthOctet &&& 0x7f).toNat
    let length := (rest.take lengthSize).foldl (fun value byte => value * 256 + byte.toNat) 0
    if lengthSize = 0 ∨ lengthSize > 4 then .error .unsupportedDerLength
    else if rest.length < lengthSize then .error .truncatedDerLength
    else if rest.head? = some 0 then .error .nonMinimalDerLength
    else if length < 0x80 then .error .nonMinimalDerLongLength
    else .ok (length, 2 + lengthSize)

/-- The first element of the data and what stands behind it. -/
def readDerElement (data : Packet) : Except CalibrationError (DerElement × Packet) :=
  match data with
  | tag :: lengthOctet :: rest => do
    let (length, headerSize) ← readDerLength lengthOctet rest
    if data.length < headerSize + length then .error .truncatedDerContent
    else .ok (⟨tag, (data.drop headerSize).take length⟩, data.drop (headerSize + length))
  | _ => .error .truncatedDerElement

lemma readDerElement_shorter {data rest : Packet} {element : DerElement}
    (h : readDerElement data = .ok (element, rest)) : rest.length < data.length := by
  match data with
  | [] | [_] => cases h
  | tag :: lengthOctet :: bytes =>
    obtain ⟨⟨length, headerSize⟩, hlength, h⟩ := Except.of_bind_ok h
    obtain ⟨-, h⟩ := Except.of_ite_error_ok h
    have hheader : 2 ≤ headerSize := by
      unfold readDerLength at hlength
      split at hlength
      · cases hlength
        exact le_rfl
      obtain ⟨-, hlength⟩ := Except.of_ite_error_ok hlength
      obtain ⟨-, hlength⟩ := Except.of_ite_error_ok hlength
      obtain ⟨-, hlength⟩ := Except.of_ite_error_ok hlength
      obtain ⟨-, hlength⟩ := Except.of_ite_error_ok hlength
      cases hlength
      exact Nat.le_add_right _ _
    cases h
    rw [List.length_drop, List.length_cons]
    omega

/-- A whole object that is one sequence: its content. -/
def readExactSequence (data : Packet) : Except CalibrationError Packet := do
  let (element, rest) ← readDerElement data
  if element.tag ≠ derSequence ∨ rest ≠ [] then .error .incompleteDerSequence
  else .ok element.content

/-- The next element of a sequence, if there is one, and the rest of the sequence. -/
def nextElement (content : Packet) : Except CalibrationError (Option DerElement × Packet) :=
  if content = [] then .ok (none, [])
  else do
    let (element, rest) ← readDerElement content
    .ok (some element, rest)

/-- Every element up to the end is well formed. -/
def validateRemaining (content : Packet) : Except CalibrationError Unit :=
  if content = [] then .ok ()
  else
    match h : readDerElement content with
    | .error error => .error error
    | .ok (_, rest) =>
      have : rest.length < content.length := readDerElement_shorter h
      validateRemaining rest
termination_by content.length

variable (element : Option DerElement)

def requireDerValue (tag : UInt8) (value : Packet) : Except CalibrationError Unit :=
  if element = some ⟨tag, value⟩ then .ok () else .error .unexpectedImg4Envelope

def requireTag (tag : UInt8) : Option DerElement :=
  element.filter fun element => element.tag = tag

/-- The serial stands somewhere in the blob. -/
def containsWindow (serial : Packet) : Packet → Bool
  | [] => serial.isEmpty
  | byte :: bytes => serial.isPrefixOf (byte :: bytes) || containsWindow serial bytes

def validateCalibrationBlob (calibration moduleSerial : Packet) : Except CalibrationError Unit :=
  if calibration.length < calibrationMinimumSize then
    .error (.truncatedCalibrationBlob calibration.length)
  else if wordAt 4 4 calibration ≠ calibration.length then
    .error (.calibrationSizeMismatch (wordAt 4 4 calibration) calibration.length)
  else if (calibration.drop calibrationMarkerOffset).take 4 ≠ calibrationMarker then
    .error .missingCalibrationMarker
  else if moduleSerial.length ≠ moduleSerialNumberSize then
    .error (.invalidModuleSerialLength moduleSerial.length)
  else if containsWindow moduleSerial calibration = false then .error .differentModule
  else .ok ()

/-- The blob inside a record. -/
def validateFdrCalibrationRecord (record moduleSerial : Packet) : Except CalibrationError Packet := do
  let container ← readExactSequence record
  let (containerKind, container) ← nextElement container
  let (fdrdContainer, container) ← nextElement container
  validateRemaining container
  requireDerValue containerKind derIa5String (ascii ['c', 'o', 'm', 'b'])
  match requireTag fdrdContainer derSequence with
  | none => .error .missingFdrdContainer
  | some fdrdContainer => do
    let (fdrdKind, fdrd) ← nextElement fdrdContainer.content
    let (img4Object, fdrd) ← nextElement fdrd
    validateRemaining fdrd
    requireDerValue fdrdKind derIa5String (ascii ['f', 'd', 'r', 'd'])
    match requireTag img4Object derOctetString with
    | none => .error .missingImg4Object
    | some img4Object => do
      let img4 ← readExactSequence img4Object.content
      let (img4Kind, img4) ← nextElement img4
      let (im4pObject, img4) ← nextElement img4
      validateRemaining img4
      requireDerValue img4Kind derIa5String (ascii ['I', 'M', 'G', '4'])
      match requireTag im4pObject derSequence with
      | none => .error .missingIm4pObject
      | some im4pObject => do
        let (im4pKind, im4p) ← nextElement im4pObject.content
        let (payloadKind, im4p) ← nextElement im4p
        let (version, im4p) ← nextElement im4p
        let (calibration, im4p) ← nextElement im4p
        validateRemaining im4p
        requireDerValue im4pKind derIa5String (ascii ['I', 'M', '4', 'P'])
        requireDerValue payloadKind derIa5String (ascii ['F', 'S', 'C', 'l'])
        requireDerValue version derIa5String (ascii ['1', '.', '0'])
        match requireTag calibration derOctetString with
        | none => .error .missingCalibrationPayload
        | some calibration => do
          validateCalibrationBlob calibration.content moduleSerial
          .ok calibration.content

end T1Bridge.Device
