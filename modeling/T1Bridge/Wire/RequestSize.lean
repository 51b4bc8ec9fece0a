import T1Bridge.Device.Calibration
import T1Bridge.Wire.Rpc

/-! # How large a command can be

A command is sent as data inside an envelope.  The frame has room for a body of 16 MiB, and so has
the property list, but what stands around the data takes some of it: `sendable_iff` says how much
is left. -/

namespace T1Bridge.Wire

open T1Bridge.Device

/-- The command can be sent as one frame. -/
def Sendable (requestId : RequestId) (packet : CommandPacket) : Prop :=
  ∃ body frame bytes, encodeRequest requestId (performBiometricCommandRequest packet) = .ok body ∧
      Frame.new frameBinaryPlist body = .ok frame ∧ frame.encode = .ok bytes

/-- The most bytes of a command that fit into a frame. -/
def maxRequestSize : ℕ := maxPlistSize - 140

/-! ### Identifiers -/

/-- The first byte of a character that is not ASCII is not ASCII. -/
lemma ascii_of_utf8EncodeChar {c : Char} (h : ∀ byte ∈ String.utf8EncodeChar c, byte < 128) :
    c.val < 128 := by
  have hlarge : ∀ {k base : ℕ}, 128 ≤ base → k + base < 256 → ¬ UInt8.ofNat (k + base) < 128 := by
    intro k base hbase hlt hsmall
    have hbyte := UInt8.lt_iff_toNat_lt.mp hsmall
    rw [UInt8.toNat_ofNat_of_lt' hlt] at hbyte
    have : (128 : UInt8).toNat = 128 := rfl
    omega
  unfold String.utf8EncodeChar at h
  dsimp only at h
  split at h
  · next hle => exact UInt32.lt_iff_toNat_lt.mpr (Nat.lt_succ_of_le hle)
  split at h
  · exact absurd (h _ List.mem_cons_self) (hlarge (by decide) (by omega))
  split at h
  · exact absurd (h _ List.mem_cons_self) (hlarge (by decide) (by omega))
  · exact absurd (h _ List.mem_cons_self) (hlarge (by decide) (by omega))

lemma isAscii_of_bytes {text : String} (h : isAsciiBytes text.toUTF8.data.toList = true) :
    isAscii text = true := by
  rw [toUTF8_flatMap] at h
  refine List.all_eq_true.mpr fun c hc => decide_eq_true (ascii_of_utf8EncodeChar fun byte hbyte => ?_)
  exact of_decide_eq_true (List.all_eq_true.mp h byte (List.mem_flatMap.mpr ⟨c, hc, hbyte⟩))

lemma isCanonicalRequestId_inv {value : String} (h : isCanonicalRequestId value = true) :
    value.utf8ByteSize = 36 ∧ isAscii value = true := by
  obtain ⟨hlen, hall⟩ := Bool.and_eq_true_iff.mp h
  rw [decide_eq_true_eq] at hlen
  refine ⟨hlen, isAscii_of_bytes (List.all_eq_true.mpr fun byte hbyte => ?_)⟩
  obtain ⟨index, hindex⟩ := List.getElem?_of_mem hbyte
  have hmem : (byte, index) ∈ value.toUTF8.data.toList.zipIdx := List.mem_zipIdx_iff_getElem?.mpr hindex
  have hbyte := List.all_eq_true.mp hall (byte, index) hmem
  refine decide_eq_true (UInt8.lt_iff_toNat_lt.mpr ?_)
  dsimp only at hbyte
  split at hbyte
  · rw [of_decide_eq_true hbyte]
    decide
  rw [Bool.or_eq_true, Bool.and_eq_true, Bool.and_eq_true] at hbyte
  rcases hbyte with ⟨-, hbyte⟩ | ⟨-, hbyte⟩
  · exact lt_of_le_of_lt (UInt8.le_iff_toNat_le.mp (of_decide_eq_true hbyte)) (by decide)
  · exact lt_of_le_of_lt (UInt8.le_iff_toNat_le.mp (of_decide_eq_true hbyte)) (by decide)

variable {packet : CommandPacket} {requestId : RequestId}

lemma length_requestId (hid : isCanonicalRequestId requestId.value = true) (width : ℕ) :
    ((itemOf (.string requestId.value)).bytes width).length = 39 := by
  obtain ⟨hsize, hascii⟩ := isCanonicalRequestId_inv hid
  have hlen := length_toUTF8 requestId.value
  rw [itemOf, if_pos hascii, Item.bytes, Item.payload, List.length_cons, List.length_append, hlen,
    hsize]
  rfl

/-! ### Widths -/

lemma storageWidth_four {value : ℕ} (hlow : 65536 ≤ value) (hhigh : value < 2 ^ 32) :
    integerStorageWidth value = 4 := by
  rw [integerStorageWidth, if_neg (by omega), if_neg (by omega), if_pos hhigh]

/-! ### The envelope of a command -/

section Envelope

variable (hid : isCanonicalRequestId requestId.value = true)
  (hcapacity : packet.responseCapacity = 0)

/-- The envelope of a command without a reply. -/
abbrev commandEnvelope (requestId : RequestId) (packet : CommandPacket) : Value :=
  envelope false requestId (performBiometricCommandRequest packet)

include hcapacity

lemma objects_commandEnvelope : (commandEnvelope requestId packet).objects 0 =
      [.array [1, 2, 3, 4], .integer 1, .boolean false, .string requestId.value,
        .array [5, 6, 7, 8], .integer 3, .integer 0, .data packet.request, .integer 0] := by
  simp [envelope, performBiometricCommandRequest, integer, hcapacity, Value.objects, objectsAll,
    childIndices, Value.count, rpcProtocolVersion, performBiometricCommandOrdinal,
    biometricBridgeCommand]

omit hcapacity in
/-- The table has nine offsets, and the trailer thirty-two bytes. -/
lemma length_document : (commandEnvelope requestId packet).document.length =
      8 + (commandEnvelope requestId packet).body.length +
        (9 * integerStorageWidth (8 + (commandEnvelope requestId packet).body.length) + 32) :=
  Value.length_document _

include hid

lemma admitted_commandEnvelope (hbytes : 36 + packet.request.length ≤ maxValueBytes) :
    (commandEnvelope requestId packet).Admitted := by
  have hsize := (isCanonicalRequestId_inv hid).1
  rw [Value.Admitted, objects_commandEnvelope hcapacity]
  have hsmall : ∀ {m n : ℕ}, Nat.ble m n = true → m ≤ n := Nat.le_of_ble_eq_true
  refine ⟨hsmall rfl, hsmall rfl, hsmall rfl, ?_, ?_⟩
  · simpa [bytesOf, EncodedObject.byteCount, hsize] using hbytes
  · simp [EncodedObject.InRange, EncodedObject.Fits, inWireRange, maxReferences]

/-- The bytes of the objects: fifty-nine and the data with its length. -/
lemma length_body : (commandEnvelope requestId packet).body.length =
      59 + ((formOf packet.request.length).rest packet.request.length).length +
        packet.request.length := by
  have hcount : (commandEnvelope requestId packet).count = 9 := by
    rfl
  have hdata : ((itemOf (.data packet.request)).bytes 1).length =
      1 + ((formOf packet.request.length).rest packet.request.length).length +
        packet.request.length := by
    rw [itemOf, Item.bytes, Item.payload, List.length_cons, List.length_append]
    omega
  have hone : integerStorageWidth (9 - 1) = 1 := rfl
  rw [Value.body, hcount, objects_commandEnvelope hcapacity, hone]
  have harrays : ((itemOf (.array [1, 2, 3, 4])).bytes 1).length = 5 ∧
      ((itemOf (.array [5, 6, 7, 8])).bytes 1).length = 5 := ⟨rfl, rfl⟩
  have hintegers : ((itemOf (.integer 0)).bytes 1).length = 2 ∧
      ((itemOf (.integer 1)).bytes 1).length = 2 ∧ ((itemOf (.integer 3)).bytes 1).length = 2 :=
    ⟨rfl, rfl, rfl⟩
  have hboolean : ((itemOf (.boolean false)).bytes 1).length = 1 := rfl
  simp only [List.map_cons, List.map_nil, List.flatMap_cons, List.flatMap_nil, List.length_append,
    List.length_nil, length_requestId hid]
  omega

lemma document_fits_iff : (commandEnvelope requestId packet).document.length ≤ maxPlistSize ↔
      packet.request.length ≤ maxRequestSize := by
  have hmax : maxPlistSize = 16777216 := rfl
  have hroom : maxRequestSize = 16777076 := rfl
  rw [length_document, length_body hid hcapacity]
  generalize packet.request.length = n
  have hrest := length_rest_formOf n
  have hstart := storageWidth_le (8 + (59 + ((formOf n).rest n).length + n))
  rcases lt_or_ge n 65536 with hsmall | hlarge
  · have hwidth := storageWidth_le n
    have hshort : ((formOf n).rest n).length ≤ 9 := by
      rw [hrest]
      split <;> omega
    omega
  · rcases lt_or_ge n (2 ^ 25) with hmiddle | hhuge
    · have hwidth : integerStorageWidth n = 4 := storageWidth_four hlarge (by omega)
      rw [if_neg (by omega)] at hrest
      rw [storageWidth_four (by omega) (by omega)]
      omega
    · omega

end Envelope

variable {data : Packet}

lemma sendable_iff
    (hid : isCanonicalRequestId requestId.value = true) (hcapacity : packet.responseCapacity = 0) :
    Sendable requestId packet ↔ packet.request.length ≤ maxRequestSize := by
  have hfits := document_fits_iff hid hcapacity
  have hencode : encodeRequest requestId (performBiometricCommandRequest packet) =
      (encode (commandEnvelope requestId packet)).mapError .binaryPlist := by
    rw [encodeRequest, if_neg (by rw [hid]; decide), encodeEnvelope]
  constructor
  · rintro ⟨body, frame, bytes, hbody, -, -⟩
    rw [hencode] at hbody
    cases hok : encode (commandEnvelope requestId packet) with
    | error error =>
      rw [hok] at hbody
      cases hbody
    | ok output => exact hfits.mp (encode_ok_iff.mp hok).2.1
  · intro hle
    have hbytes : 36 + packet.request.length ≤ maxValueBytes :=
      le_trans (Nat.add_le_add_left hle 36) (by decide)
    have hadmitted := admitted_commandEnvelope hid hcapacity hbytes
    have hlength := hfits.mpr hle
    have hframe : (commandEnvelope requestId packet).document.length ≤ maxFrameBodyLen := hlength
    refine ⟨_, _, _, ?_, Frame.new_eq hframe, Frame.encode_eq hframe⟩
    rw [hencode, encode_ok_iff.mpr ⟨hadmitted, hlength, rfl⟩]
    rfl

/-! ### Calibration records and catacombs -/

lemma length_request (packet : CommandPacket) :
    packet.request.length = 8 + packet.payload.length := by
  rw [CommandPacket.request]
  simp only [List.length_append, length_leBytes]

/-- A record or catacomb that was accepted can be sent exactly when eight bytes of header and a
hundred and forty bytes of envelope fit beside it. -/
theorem accepted_payloads_are_sendable_iff {requestId : RequestId}
    (hid : isCanonicalRequestId requestId.value = true) :
    (∀ (source : CalibrationSource) (record serial blob : Packet) (packet : CommandPacket),
      validateFdrCalibrationRecord record serial = .ok blob →
      loadCalibrationCommand source record = .ok packet →
        (Sendable requestId packet ↔ record.length ≤ 16 * 1024 * 1024 - 148)) ∧
    ∀ (data : Packet) (packet : CommandPacket), loadSecureCatacombCommand data = .ok packet →
      (Sendable requestId packet ↔ data.length ≤ 16 * 1024 * 1024 - 148) := by
  have hroom : maxRequestSize = 16777076 := rfl
  refine ⟨fun source record serial blob packet _ hload => ?_, fun data packet hload => ?_⟩
  · obtain ⟨-, hload⟩ := Except.of_ite_error_ok hload
    cases hload
    rw [sendable_iff hid rfl, length_request]
    dsimp only
    omega
  · obtain ⟨_, -, hload⟩ := Except.of_bind_ok hload
    cases hload
    rw [sendable_iff hid rfl, length_request, commandWithPayload]
    dsimp only
    omega

def zeroRequestId : RequestId := ⟨"00000000-0000-4000-8000-000000000000"⟩

lemma zeroRequestId_canonical : isCanonicalRequestId zeroRequestId.value = true := by
  decide +kernel

def derElement (tag : UInt8) (content : Packet) : Packet :=
  tag :: UInt8.ofNat content.length :: content

def named (name : List Char) (rest : Packet) : Packet :=
  derElement derIa5String (ascii name) ++ rest

def moduleSerial : Packet := List.replicate moduleSerialNumberSize 0x41

def calibrationBlob : Packet :=
  [0, 0, 0, 0, 38] ++ List.replicate 11 0 ++ calibrationMarker ++ moduleSerial

/-- A factory record around the blob. -/
def factoryRecord : Packet :=
  derElement derSequence (named ['c', 'o', 'm', 'b'] (derElement derSequence
    (named ['f', 'd', 'r', 'd'] (derElement derOctetString (derElement derSequence
      (named ['I', 'M', 'G', '4'] (derElement derSequence (named ['I', 'M', '4', 'P']
        (named ['F', 'S', 'C', 'l'] (named ['1', '.', '0']
          (derElement derOctetString calibrationBlob)))))))))))

/-- A factory record and a catacomb of one byte. -/
theorem accepted_payloads_are_sendable_one :
    validateFdrCalibrationRecord factoryRecord moduleSerial = .ok calibrationBlob ∧
      Sendable zeroRequestId ⟨.loadCalibration, CalibrationSource.fdr.asRaw, factoryRecord, 0⟩ ∧
      Sendable zeroRequestId (commandWithPayload .loadSecureCatacomb [7] 0) := by
  have hvalid : validateFdrCalibrationRecord factoryRecord moduleSerial = .ok calibrationBlob := by
    decide +kernel
  have hiff := accepted_payloads_are_sendable_iff zeroRequestId_canonical
  exact ⟨hvalid, (hiff.1 .fdr _ _ _ _ hvalid rfl).mpr (by decide +kernel),
    (hiff.2 [7] _ rfl).mpr (by decide)⟩

lemma not_sendable_of_length (hlen : data.length = maxSecureCatacombSize) :
    ∃ packet, loadSecureCatacombCommand data = .ok packet ∧ ¬ Sendable zeroRequestId packet := by
  have hvalid : validateSecureCatacombSize data.length = .ok () := by
    rw [hlen]
    rfl
  refine ⟨commandWithPayload .loadSecureCatacomb data 0, ?_, ?_⟩
  · rw [loadSecureCatacombCommand, hvalid]
    rfl
  · rw [sendable_iff zeroRequestId_canonical rfl, length_request, commandWithPayload, hlen]
    decide

/-- The largest catacomb that is accepted cannot be sent. -/
theorem largest_catacomb_is_not_sendable :
    ∃ packet, loadSecureCatacombCommand (List.replicate maxSecureCatacombSize 0) = .ok packet ∧
      ¬ Sendable zeroRequestId packet :=
  not_sendable_of_length List.length_replicate

end T1Bridge.Wire
