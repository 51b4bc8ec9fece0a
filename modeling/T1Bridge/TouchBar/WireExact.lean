import T1Bridge.Lib.Codec
import T1Bridge.TouchBar.Wire
import Mathlib.Data.List.Nodup

/-! # The Touch Bar wire format is exact

For every payload kind, the decoder accepts a payload exactly when it is the encoding of the
value it returns; so a packet is accepted exactly when it is the encoding of the message it
decodes to and the descriptors that came with it are those the message calls for.  Both sides
are brought to the same list of facts, one per field at its offset (`record_eq_iff`). -/

namespace T1Bridge.TouchBar

open List (length_drop length_eq_zero_iff)
open Except (bind_eq_ok ite_error_eq_ok mapError_eq_ok map_eq_ok of_bind_ok of_ite_error_ok ok_bind
  pure_eq_ok unit_bind_eq_ok)
open Word (read width_uint16 width_uint32 width_uint64 width_uint8)

variable {frame : WireInputFrame} {display : DisplayDimensions}

/-! ### Checks -/

variable {payload bs : Bytes} {messageType : MessageType} {keys : List KeyCode}
  {dimensions : Option DisplayDimensions} {message : ClientMessage}
  {envelope : Envelope ClientMessage} {code : ErrorCode} {packet : Packet} {value : UInt16}
  {chunk : Bytes}

lemma requireLength_ok {expected : ℕ} :
    requireLength payload expected = .ok () ↔ payload.length = expected := by
  unfold requireLength
  rw [ite_error_eq_ok, not_not]
  exact and_iff_left rfl

lemma requireLength_zero_ok :
    requireLength payload 0 = .ok () ↔ (.ok [] : Except WireError Bytes) = .ok payload := by
  rw [requireLength_ok, length_eq_zero_iff, Except.ok.injEq, eq_comm]

lemma requireReserved_ok {k offset : ℕ} :
    requireReserved ((bs.drop offset).take k) = .ok () ↔ wordAt k offset bs = 0 := by
  unfold requireReserved
  rw [wordAt_eq_zero_iff]
  simp

lemma decodeBool_ok {value : UInt8} {b : Bool} : decodeBool value = .ok b ↔ value = b.toUInt8 := by
  constructor
  · intro h
    refine UInt8.toNat_inj.mp ?_
    unfold decodeBool at h
    split at h <;> cases h <;> assumption
  · rintro rfl
    cases b <;> rfl

lemma validateAncillary_ok {expectation : AncillaryExpectation} {ancillary : AncillaryMetadata} :
    validateAncillary expectation ancillary = .ok () ↔
      ancillary = ⟨expectation.descriptors, false, false⟩ := by
  obtain ⟨count, truncated, other⟩ := ancillary
  unfold validateAncillary
  cases truncated <;> cases other <;> simp

lemma MessageType.fromWire_eq_some :
    fromWire value = some messageType ↔ value = messageType.wireValue := by
  constructor
  · intro h
    refine UInt16.toNat_inj.mp ?_
    unfold fromWire at h
    split at h <;> cases h <;> assumption
  · rintro rfl
    cases messageType <;> rfl

lemma ErrorCode.fromWire_eq_some {value : UInt32} :
    fromWire value = some code ↔ value = code.wireValue := by
  constructor
  · intro h
    refine UInt32.toNat_inj.mp ?_
    unfold fromWire at h
    split at h <;> cases h <;> assumption
  · rintro rfl
    cases code <;> rfl

lemma KeyCode.fromWire_eq_some {key : KeyCode} :
    fromWire value = some key ↔ value = key.wireValue := by
  constructor
  · intro h
    refine UInt16.toNat_inj.mp ?_
    unfold fromWire at h
    split at h <;> cases h <;> assumption
  · rintro rfl
    cases key <;> rfl

/-! ### Packets -/

lemma take_eq_magic (h : 4 ≤ bs.length) : bs.take 4 = magic ↔ wordAt 4 0 bs = fromLe magic := by
  constructor
  · intro htake
    rw [wordAt, List.drop_zero, htake]
  intro hword
  have hbytes := leBytes_fromLe (bs.take 4)
  rw [List.length_take_of_le h] at hbytes
  rw [← hbytes]
  exact congrArg (leBytes 4) hword

/-- The magic bytes as the first field of the header. -/
def magicField : WordField := ⟨4, fromLe magic, fromLe_lt magic⟩

lemma Packet.encode_ok : packet.encode = .ok bs ↔ packet.payload.length ≤ maxPayloadLength ∧
      wordAt 4 0 bs = fromLe magic ∧ read UInt16 4 bs = protocolMajor ∧
      read UInt16 6 bs = packet.messageType ∧
      read UInt32 8 bs = UInt32.ofNat packet.payload.length ∧
      read UInt32 12 bs = packet.requestId ∧ headerLength ≤ bs.length ∧
      bs.drop headerLength = packet.payload := by
  have hlaid : magic ++ record [.of protocolMajor, .of packet.messageType,
      .of (UInt32.ofNat packet.payload.length), .of packet.requestId] ++ packet.payload = bs ↔
      Laid bs packet.payload 0 [magicField, .of protocolMajor, .of packet.messageType,
        .of (UInt32.ofNat packet.payload.length), .of packet.requestId] := by
    rw [← record_append_eq_iff]
    rfl
  unfold encode
  rw [ite_error_eq_ok, Except.ok.injEq, hlaid, Laid]
  simp [magicField, headerLength, laid_nil]

lemma Packet.decode_ok : decode bs = .ok packet ↔ packet.encode = .ok bs := by
  rw [encode_ok]
  unfold decode
  simp only [ite_error_eq_ok, not_not, Nat.not_lt, Except.ok.injEq]
  constructor
  · rintro ⟨hshort, hlong, hmagic, hmajor, hlength, rfl⟩
    have hpayload : (bs.drop headerLength).length ≤ maxPayloadLength := by
      rw [length_drop]
      unfold maxPayloadLength
      omega
    refine ⟨hpayload, (take_eq_magic (le_trans (by decide) hshort)).mp hmagic, hmajor, rfl, ?_, rfl,
      hshort, rfl⟩
    rw [← hlength, UInt32.ofNat_toNat]
  · rintro ⟨hfits, hmagic, hmajor, htype, hlength, hid, hshort, hpayload⟩
    have hbound : packet.payload.length < 2 ^ 32 := lt_of_le_of_lt hfits (by decide)
    have hdrop : bs.length - headerLength = packet.payload.length := by
      rw [← hpayload, length_drop]
    refine ⟨hshort, ?_, (take_eq_magic (le_trans (by decide) hshort)).mpr hmagic, hmajor, ?_, ?_⟩
    · unfold maxPayloadLength maxPacketLength headerLength at *
      omega
    · rw [hlength, UInt32.toNat_ofNat_of_lt' hbound, hpayload]
    · rw [htype, hid, hpayload]

lemma wrapped_ok {α μ : Type} {decode : Except WireError α} {wrap : α → μ} {message : μ}
    {encode : μ → Except WireError Bytes} {typed : Prop}
    (hdecode : ∀ a, decode = .ok a ↔ encode (wrap a) = .ok payload)
    (htyped : typed ↔ ∃ a, wrap a = message) :
    (decode >>= fun a => pure (wrap a)) = .ok message ↔ typed ∧ encode message = .ok payload := by
  rw [map_eq_ok, htyped]
  constructor
  · rintro ⟨a, ha, rfl⟩
    exact ⟨⟨a, rfl⟩, (hdecode a).mp ha⟩
  · rintro ⟨⟨a, rfl⟩, h⟩
    exact ⟨a, (hdecode a).mpr h, rfl⟩

/-! ### Client payloads -/

lemma decodeHello_ok {hello : Hello} : decodeHello payload = .ok hello ↔
      (ClientMessage.hello hello).encodePayload dimensions = .ok payload := by
  obtain ⟨minor, ⟨features⟩⟩ := hello
  rw [ClientMessage.encodePayload, Except.ok.injEq, record_eq_iff]
  unfold decodeHello
  simp only [unit_bind_eq_ok, pure_eq_ok, requireLength_ok, requireReserved_ok, Hello.mk.injEq,
    FeatureBits.mk.injEq, laid_of, laid_zeros, laid_end]
  tauto

lemma decodeRegisterBuffer_ok {buffer : RegisterBuffer} :
    decodeRegisterBuffer payload = .ok buffer ↔
      (ClientMessage.registerBuffer buffer).encodePayload dimensions = .ok payload := by
  rw [ClientMessage.encodePayload, unit_bind_eq_ok, pure_eq_ok, record_eq_iff]
  unfold decodeRegisterBuffer
  simp only [unit_bind_eq_ok, pure_eq_ok, requireLength_ok, laid_of, laid_end]
  obtain ⟨bufferId, stride, byteLength⟩ := buffer
  grind

lemma DamageRectangle.decode_eq {rectangle : DamageRectangle}
    (h : chunk.length = 16) : decode chunk = rectangle ↔ chunk = rectangle.encode := by
  obtain ⟨x, y, width, height⟩ := rectangle
  unfold encode decode
  rw [eq_comm (a := chunk), record_eq_iff]
  simp [h]

lemma DamageRectangle.length_encode (rectangle : DamageRectangle) :
    rectangle.encode.length = 16 := by
  simp [encode, record, WordField.bytes, WordField.of]

lemma decodeSubmitFrame_ok {frame : SubmitFrame} : decodeSubmitFrame payload display = .ok frame ↔
      (ClientMessage.submitFrame frame).encodePayload (some display) = .ok payload := by
  simp only [ClientMessage.encodePayload, unit_bind_eq_ok, pure_eq_ok, record_append_eq_iff]
  unfold decodeSubmitFrame
  simp only [ite_error_eq_ok, unit_bind_eq_ok, pure_eq_ok, requireLength_ok, Nat.not_lt, laid_of,
    laid_nil, width_uint32, width_uint64]
  constructor
  · rintro ⟨hshort, hbuffer, hframe, hcount, hlength, hdamage, rfl⟩
    obtain ⟨-, hnumber, htail⟩ := (map_asChunks_drop (by decide) DamageRectangle.length_encode
      fun _ _ => DamageRectangle.decode_eq).mp ⟨hlength, rfl⟩
    refine ⟨hbuffer, hframe, hdamage, rfl, rfl, ?_, hshort, htail⟩
    rw [hnumber, UInt32.ofNat_toNat]
  · obtain ⟨bufferId, frameId, damage⟩ := frame
    rintro ⟨hbuffer, hframe, hdamage, rfl, rfl, hcount, hshort, htail⟩
    have hmany : damage.length ≤ maxDamageRectangles := Nat.not_lt.mp (of_ite_error_ok hdamage).1
    have hread : (read UInt32 12 payload).toNat = damage.length := by
      rw [hcount]
      exact UInt32.toNat_ofNat_of_lt' (lt_of_le_of_lt hmany (by decide))
    obtain ⟨hlength, hmap⟩ := (map_asChunks_drop (by decide) DamageRectangle.length_encode
      fun _ _ => DamageRectangle.decode_eq).mpr ⟨hshort, hread.symm, htail⟩
    rw [hmap]
    exact ⟨hshort, hbuffer, hframe, hread ▸ hmany, hlength, hdamage, rfl⟩

/-- Keys in front, zeros behind them, and no key twice. -/
lemma decodeSlots_ok {count : ℕ} {slots : List UInt16} {decoded : List KeyCode}
    (hcount : count ≤ slots.length) (hkeys : keys.Nodup) :
    decodeSlots count slots keys = .ok decoded ↔
      ∃ more, decoded = keys ++ more ∧ more.length = count ∧ decoded.Nodup ∧
        slots = more.map KeyCode.wireValue ++ List.replicate (slots.length - count) 0 := by
  induction slots generalizing count keys with
  | nil =>
    obtain rfl : count = 0 := Nat.le_zero.mp hcount
    simp [decodeSlots]
    grind
  | cons value slots ih =>
    cases count with
    | zero =>
      rw [decodeSlots, ite_error_eq_ok, ih (Nat.zero_le _) hkeys]
      simp [List.replicate_succ]
      tauto
    | succ count =>
      have ih {key : KeyCode} (hnew : (keys ++ [key]).Nodup) := ih (Nat.le_of_succ_le_succ hcount) hnew
      unfold decodeSlots
      constructor
      · intro h
        split at h
        · cases h
        next key hwire =>
        rw [ite_error_eq_ok] at h
        obtain ⟨more, rfl, hmore, hnodup, hslots⟩ := (ih (List.nodup_append_comm.mp
          (List.nodup_cons.mpr ⟨h.1, hkeys⟩))).mp h.2
        refine ⟨key :: more, by simp, congrArg (· + 1) hmore, hnodup, ?_⟩
        rw [KeyCode.fromWire_eq_some.mp hwire, List.length_cons, Nat.add_sub_add_right]
        exact congrArg (key.wireValue :: ·) hslots
      · rintro ⟨more, rfl, hmore, hnodup, hslots⟩
        obtain ⟨key, more, rfl⟩ := List.exists_cons_of_length_eq_add_one hmore
        rw [List.length_cons, Nat.add_sub_add_right] at hslots
        obtain ⟨hhead, htail⟩ := List.cons.inj hslots
        have happend := List.append_cons keys key more
        have hnew : (keys ++ [key]).Nodup := (happend ▸ hnodup).of_append_left
        rw [KeyCode.fromWire_eq_some.mpr hhead]
        refine ite_error_eq_ok.mpr ⟨fun hmem => ?_, (ih hnew).mpr
          ⟨more, happend, Nat.succ.inj hmore, hnodup, htail⟩⟩
        exact List.disjoint_of_nodup_append hnew hmem List.mem_cons_self

/-- The slots the encoder writes: the keys, then zeros. -/
lemma slots_eq (h : keys.length ≤ maxKeys) :
    ((List.range maxKeys).map fun slot => (keys[slot]?).elim (0 : UInt16) KeyCode.wireValue) =
      keys.map KeyCode.wireValue ++ List.replicate (maxKeys - keys.length) 0 := by
  match keys, h with
  | [], _ | [_], _ | [_, _], _ | [_, _, _], _ | [_, _, _, _], _ => rfl

lemma laid_slots {values : List UInt16} (h : values.length = maxKeys) :
    Laid bs [] 4 (values.map .of) ↔ bs.length = 12 ∧
      ((List.range maxKeys).map fun slot => read UInt16 (4 + slot * 2) bs) = values := by
  match values, h with
  | [a, b, c, d], _ =>
    simp [maxKeys, List.range_succ]
    tauto

lemma encodeKeys_ok :
    encodeKeys keys = .ok payload ↔ (1 ≤ keys.length ∧ keys.length ≤ maxKeys) ∧ keys.Nodup ∧
      read UInt8 0 payload = UInt8.ofNat keys.length ∧ wordAt 3 1 payload = 0 ∧
      payload.length = 12 ∧
      ((List.range maxKeys).map fun slot => read UInt16 (4 + slot * 2) payload) =
        keys.map KeyCode.wireValue ++ List.replicate (maxKeys - keys.length) 0 := by
  have hrepeats : (keys.zipIdx.any fun entry => (keys.take entry.2).contains entry.1) = false ↔
      keys.Nodup := by
    have h := Codec.repeats_eq_false_iff id keys
    rw [List.map_id] at h
    rw [← h]
    simp
  unfold encodeKeys
  rw [ite_error_eq_ok, ite_error_eq_ok, not_not, Bool.not_eq_true, Except.ok.injEq]
  refine and_congr_right fun hcount => and_congr hrepeats ?_
  have hfields : ((List.range maxKeys).map fun slot =>
      WordField.of ((keys[slot]?).elim (0 : UInt16) KeyCode.wireValue)) =
        (keys.map KeyCode.wireValue ++ List.replicate (maxKeys - keys.length) 0).map WordField.of := by
    rw [← slots_eq hcount.2]
    rfl
  have hlength : (keys.map KeyCode.wireValue ++
      List.replicate (maxKeys - keys.length) 0).length = maxKeys := by
    rw [List.length_append, List.length_map, List.length_replicate]
    omega
  rw [record_eq_iff, hfields, List.cons_append, List.cons_append, List.nil_append, laid_of,
    laid_zeros, width_uint8, laid_slots hlength]

lemma decodeTapKeys_ok : decodeTapKeys payload = .ok keys ↔ encodeKeys keys = .ok payload := by
  rw [encodeKeys_ok]
  unfold decodeTapKeys
  simp only [unit_bind_eq_ok, ite_error_eq_ok, requireLength_ok, requireReserved_ok, not_not]
  constructor
  · rintro ⟨hlength, hcount, hreserved, hslots⟩
    obtain ⟨more, rfl, hmore, hnodup, hslots⟩ :=
      (decodeSlots_ok (by simpa using hcount.2) List.nodup_nil).mp hslots
    rw [hmore]
    exact ⟨hcount, hnodup, UInt8.ofNat_toNat.symm, hreserved, hlength, hslots⟩
  · rintro ⟨hcount, hnodup, hread, hreserved, hlength, hslots⟩
    have hkeys : (read UInt8 0 payload).toNat = keys.length := by
      rw [hread]
      exact UInt8.toNat_ofNat_of_lt' (lt_of_le_of_lt hcount.2 (by decide))
    rw [hkeys]
    refine ⟨hlength, hcount, hreserved, (decodeSlots_ok (by simpa using hcount.2) List.nodup_nil).mpr
      ⟨keys, rfl, rfl, hnodup, ?_⟩⟩
    exact hslots

lemma decodePercentage_ok (dimensions : Option DisplayDimensions) {percentage : Percentage} :
    decodePercentage payload = .ok percentage ↔
      (ClientMessage.setDisplayBrightness percentage).encodePayload dimensions = .ok payload := by
  have hnew {value : UInt8} : Percentage.new value = .ok percentage ↔ value = percentage.value := by
    unfold Percentage.new
    constructor
    · intro h
      split at h <;> cases h
      rfl
    · rintro rfl
      rw [dif_pos percentage.le_hundred]
  rw [ClientMessage.encodePayload, Except.ok.injEq, record_eq_iff]
  unfold decodePercentage
  simp only [unit_bind_eq_ok, requireLength_ok, hnew, laid_of, laid_end]
  exact and_comm

lemma decodeStepDirection_ok (dimensions : Option DisplayDimensions) {direction : StepDirection} :
    decodeStepDirection payload = .ok direction ↔
      (ClientMessage.stepDisplayBrightness direction).encodePayload dimensions = .ok payload := by
  rw [ClientMessage.encodePayload, Except.ok.injEq, record_eq_iff]
  unfold decodeStepDirection
  simp only [unit_bind_eq_ok, requireLength_ok, laid_of, laid_end]
  refine and_comm.trans (and_congr_left fun _ => ?_)
  constructor
  · intro h
    refine UInt8.toNat_inj.mp ?_
    split at h <;> cases h <;> assumption
  · intro h
    rw [h]
    cases direction <;> rfl

lemma decodeClientPayload_ok : decodeClientPayload messageType payload dimensions = .ok message ↔
      message.messageType = some messageType ∧ message.encodePayload dimensions = .ok payload := by
  cases messageType
  case helloAck | ack | error | frameReleased | inputFrame =>
    cases message <;> simp [decodeClientPayload, ClientMessage.messageType]
  case submitFrame =>
    cases dimensions with
    | none =>
      cases message <;>
        simp [decodeClientPayload, ClientMessage.encodePayload, ClientMessage.messageType]
    | some display =>
      refine wrapped_ok (fun _ => decodeSubmitFrame_ok) ?_
      cases message <;> simp [ClientMessage.messageType]
  all_goals
    refine wrapped_ok (fun _ => ?_) (by cases message <;> simp [ClientMessage.messageType])
  exacts [decodeHello_ok, decodeRegisterBuffer_ok, decodeTapKeys_ok, decodePercentage_ok dimensions,
    decodePercentage_ok dimensions, requireLength_zero_ok, decodeStepDirection_ok dimensions,
    decodeStepDirection_ok dimensions]

/-! ### Client packets -/

/-- What must come with a message: one descriptor with a buffer registration, and none else. -/
def ClientMessage.ancillary (message : ClientMessage) : AncillaryMetadata :=
  ⟨(message.messageType.map fun t => t.ancillaryExpectation.descriptors).getD 0, false, false⟩

lemma ClientMessage.wireType_eq
    (h : message.messageType = some messageType) : message.wireType = messageType.wireValue := by
  cases message <;> cases h <;> rfl

lemma ClientMessage.direction_eq
    (h : message.messageType = some messageType) : messageType.direction = .clientToService := by
  cases message <;> cases h <;> rfl

lemma encodeClient_ok :
    encodeClient envelope dimensions = .ok bs ↔ requireRequestId envelope.requestId = .ok () ∧
      envelope.message.validateType dimensions.isSome = .ok () ∧
      ∃ payload, envelope.message.encodePayload dimensions = .ok payload ∧
        Packet.decode bs = .ok ⟨envelope.message.wireType, envelope.requestId, payload⟩ := by
  unfold encodeClient
  rw [unit_bind_eq_ok, unit_bind_eq_ok, bind_eq_ok]
  simp only [mapError_eq_ok, Packet.decode_ok]

lemma decodeClient_ok {ancillary : AncillaryMetadata} :
    decodeClient bs ancillary dimensions = .ok envelope ↔
      encodeClient envelope dimensions = .ok bs ∧ ancillary = envelope.message.ancillary := by
  simp only [encodeClient_ok, ClientMessage.validateType, decodeClient, bind_eq_ok, mapError_eq_ok]
  constructor
  · rintro ⟨packet, hpacket, ⟨⟩, hrequest, h⟩
    split at h
    next hwire =>
      simp only [ite_error_eq_ok, unit_bind_eq_ok, pure_eq_ok, validateAncillary_ok] at h
      obtain ⟨hphase, rfl, rfl⟩ := h
      refine ⟨⟨hrequest, ?_, packet.payload, rfl, hpacket⟩, rfl⟩
      simpa [ClientMessage.messageType, ClientMessage.wireType, hwire] using hphase
    next hwire =>
      simp only [ite_error_eq_ok, unit_bind_eq_ok, map_eq_ok, validateAncillary_ok,
        decodeClientPayload_ok] at h
      obtain ⟨-, hphase, rfl, message, ⟨htype, hpayload⟩, rfl⟩ := h
      simp only [ClientMessage.ancillary, ClientMessage.wireType_eq htype, htype,
        ← MessageType.fromWire_eq_some.mp hwire]
      exact ⟨⟨hrequest, hphase, packet.payload, hpayload, hpacket⟩, rfl⟩
  · rintro ⟨⟨hrequest, hvalid, payload, hpayload, hpacket⟩, rfl⟩
    obtain ⟨requestId, message⟩ := envelope
    refine ⟨_, hpacket, (), hrequest, ?_⟩
    cases htype : message.messageType with
    | none =>
      cases message with
      | unknown request =>
        obtain ⟨hphase, hunknown⟩ := of_ite_error_ok hvalid
        cases hpayload
        have hnone : MessageType.fromWire request.messageType = none :=
          Option.not_isSome_iff_eq_none.mp (of_ite_error_ok hunknown).1
        simp only [ClientMessage.wireType, hnone]
        exact ite_error_eq_ok.mpr ⟨by simpa using hphase, rfl⟩
      | _ => cases htype
    | some messageType =>
      simp only [htype] at hvalid
      simp only [ClientMessage.wireType_eq htype, MessageType.fromWire_eq_some.mpr rfl,
        ite_error_eq_ok, unit_bind_eq_ok, map_eq_ok, validateAncillary_ok, decodeClientPayload_ok,
        ClientMessage.direction_eq htype, ClientMessage.ancillary, htype]
      exact ⟨by simp, hvalid, rfl, message, ⟨htype, hpayload⟩, rfl⟩

/-! ### Service payloads -/

lemma decodeHelloAck_ok {ack : HelloAck} : decodeHelloAck payload = .ok ack ↔
      (ServiceMessage.helloAck ack).encodePayload dimensions = .ok payload := by
  rw [ServiceMessage.encodePayload, unit_bind_eq_ok, pure_eq_ok, record_eq_iff]
  unfold decodeHelloAck
  simp only [unit_bind_eq_ok, ite_error_eq_ok, pure_eq_ok, requireLength_ok, requireReserved_ok,
    not_not, laid_of, laid_zeros, laid_end]
  obtain ⟨minor, width, height, ⟨⟩, maxBuffers⟩ := ack
  grind [PixelFormat.wireValue]

lemma decodeError_ok : decodeError payload = .ok code ↔
      (ServiceMessage.error code).encodePayload dimensions = .ok payload := by
  rw [ServiceMessage.encodePayload, Except.ok.injEq, record_eq_iff]
  unfold decodeError
  simp only [unit_bind_eq_ok, requireLength_ok, laid_of, laid_end]
  refine and_comm.trans (and_congr_left fun _ => ?_)
  rw [← ErrorCode.fromWire_eq_some]
  cases ErrorCode.fromWire (read UInt32 0 payload) with
  | none => exact iff_of_false (by rintro ⟨⟩) (by rintro ⟨⟩)
  | some code' => exact pure_eq_ok.trans (Option.some.injEq _ _ ▸ Iff.rfl)

lemma decodeFrameReleased_ok {frame : FrameReleased} : decodeFrameReleased payload = .ok frame ↔
      (ServiceMessage.frameReleased frame).encodePayload dimensions = .ok payload := by
  simp only [ServiceMessage.encodePayload, unit_bind_eq_ok, pure_eq_ok, record_eq_iff]
  unfold decodeFrameReleased
  simp only [unit_bind_eq_ok, pure_eq_ok, requireLength_ok, laid_of, laid_end]
  obtain ⟨bufferId, frameId⟩ := frame
  grind

lemma InputContact.length_encode (contact : InputContact) : contact.encode.length = 12 := by
  simp [encode, record, WordField.bytes, WordField.of, WordField.zeros]

lemma InputContact.decode_ok {contact : InputContact} (h : chunk.length = 12) :
    decode chunk = .ok contact ↔ chunk = contact.encode := by
  unfold encode decode
  rw [eq_comm (a := chunk), record_eq_iff, unit_bind_eq_ok, bind_eq_ok]
  simp only [map_eq_ok, requireReserved_ok, decodeBool_ok, laid_of, laid_zeros, laid_end,
    width_uint8, width_uint32]
  obtain ⟨id, tip, inRange, x, y⟩ := contact
  grind

lemma decodeInputFrame_ok : decodeInputFrame payload display = .ok frame ↔
      (ServiceMessage.inputFrame frame).encodePayload (some display) = .ok payload := by
  simp only [ServiceMessage.encodePayload, unit_bind_eq_ok, pure_eq_ok, record_append_eq_iff]
  unfold decodeInputFrame
  rw [ite_error_eq_ok, bind_eq_ok]
  simp only [ite_error_eq_ok, unit_bind_eq_ok, Nat.not_lt, requireLength_ok, requireReserved_ok,
    decodeBool_ok, laid_of, laid_zeros, laid_nil, width_uint8, width_uint64]
  constructor
  · rintro ⟨hshort, fnPressed, hpressed, hcount, hreserved, hlength, h⟩
    obtain ⟨contacts, hcontacts, h⟩ := of_bind_ok h
    obtain ⟨hvalid, ⟨⟩⟩ := unit_bind_eq_ok.mp h
    obtain ⟨-, hnumber, htail⟩ := (mapM_asChunks_drop (by decide) InputContact.length_encode
      fun _ _ => InputContact.decode_ok).mp ⟨hlength, hcontacts⟩
    refine ⟨hvalid, rfl, hpressed, ?_, hreserved, hshort, htail⟩
    rw [hnumber, UInt8.ofNat_toNat]
  · obtain ⟨monotonicNs, fnPressed, contacts⟩ := frame
    rintro ⟨hvalid, rfl, hpressed, hcount, hreserved, hshort, htail⟩
    have hmany : contacts.length ≤ maxContacts := Nat.not_lt.mp (of_ite_error_ok hvalid).1
    have hread : (read UInt8 9 payload).toNat = contacts.length := by
      rw [hcount]
      exact UInt8.toNat_ofNat_of_lt' (lt_of_le_of_lt hmany (by decide))
    obtain ⟨hlength, hcontacts⟩ := (mapM_asChunks_drop (by decide) InputContact.length_encode
      fun _ _ => InputContact.decode_ok).mpr ⟨hshort, hread.symm, htail⟩
    exact ⟨hshort, fnPressed, hpressed, hread ▸ hmany, hreserved, hlength,
      bind_eq_ok.mpr ⟨contacts, hcontacts, ok_bind hvalid _⟩⟩

lemma decodeServicePayload_ok {message : ServiceMessage} :
    decodeServicePayload messageType payload dimensions = .ok message ↔
      message.messageType = messageType ∧ message.encodePayload dimensions = .ok payload := by
  cases messageType
  case inputFrame =>
    cases dimensions with
    | none =>
      cases message <;>
        simp [decodeServicePayload, ServiceMessage.encodePayload, ServiceMessage.messageType]
    | some display =>
      refine wrapped_ok (fun _ => decodeInputFrame_ok) ?_
      cases message <;> simp [ServiceMessage.messageType]
  case hello | registerBuffer | submitFrame | tapKeys | setDisplayBrightness | setKeyboardBacklight
      | cancelTouchId | stepDisplayBrightness | stepKeyboardBacklight =>
    cases message <;> simp [decodeServicePayload, ServiceMessage.messageType]
  all_goals
    refine wrapped_ok (fun _ => ?_) (by cases message <;> simp [ServiceMessage.messageType])
  exacts [decodeHelloAck_ok, requireLength_zero_ok, decodeError_ok, decodeFrameReleased_ok]

/-! ### Service packets -/

lemma ServiceMessage.direction_eq (message : ServiceMessage) :
    message.messageType.direction = .serviceToClient ∧
      message.messageType.ancillaryExpectation = .none := by
  cases message <;> exact ⟨rfl, rfl⟩

lemma encodeService_ok {envelope : Envelope ServiceMessage} :
    encodeService envelope dimensions = .ok bs ↔
      validatePhase envelope.message.messageType dimensions.isSome = .ok () ∧
      validateIdentifier envelope.message.messageType.messageClass envelope.requestId = .ok () ∧
      ∃ payload, envelope.message.encodePayload dimensions = .ok payload ∧ Packet.decode bs =
        .ok ⟨envelope.message.messageType.wireValue, envelope.requestId, payload⟩ := by
  unfold encodeService
  rw [unit_bind_eq_ok, unit_bind_eq_ok, bind_eq_ok]
  simp only [mapError_eq_ok, Packet.decode_ok]

lemma decodeService_ok {ancillary : AncillaryMetadata} {envelope : Envelope ServiceMessage} :
    decodeService bs ancillary dimensions = .ok envelope ↔
      encodeService envelope dimensions = .ok bs ∧ ancillary = ⟨0, false, false⟩ := by
  simp only [encodeService_ok, decodeService, bind_eq_ok, mapError_eq_ok]
  constructor
  · rintro ⟨packet, hpacket, h⟩
    split at h
    · cases h
    next hwire =>
    simp only [ite_error_eq_ok, unit_bind_eq_ok, map_eq_ok, validateAncillary_ok,
      decodeServicePayload_ok] at h
    obtain ⟨-, hphase, hidentifier, rfl, message, ⟨rfl, hpayload⟩, rfl⟩ := h
    rw [message.direction_eq.2, ← MessageType.fromWire_eq_some.mp hwire]
    exact ⟨⟨hphase, hidentifier, packet.payload, hpayload, hpacket⟩, rfl⟩
  · rintro ⟨⟨hphase, hidentifier, payload, hpayload, hpacket⟩, rfl⟩
    refine ⟨_, hpacket, ?_⟩
    simp only [MessageType.fromWire_eq_some.mpr rfl, ite_error_eq_ok, unit_bind_eq_ok, map_eq_ok,
      validateAncillary_ok, decodeServicePayload_ok, envelope.message.direction_eq]
    exact ⟨by simp, hphase, hidentifier, rfl, envelope.message, ⟨rfl, hpayload⟩, rfl⟩

/-! ### Both directions -/

/-- The message type a packet carries in its header. -/
def packetType (bs : Bytes) : UInt16 := read UInt16 6 bs

lemma packetType_of_decode (h : Packet.decode bs = .ok packet) :
    packetType bs = packet.messageType :=
  (Packet.encode_ok.mp (Packet.decode_ok.mp h)).2.2.2.1

/-- In every phase and for every display, a packet decodes to a message exactly when it is that
message's encoding and comes with the descriptors of the message's type: one for a buffer
registration, none for any other.  The type in the packet is the type of the message. -/
theorem touchBar_packets_are_messages (dimensions : Option DisplayDimensions) :
    (∀ (bs : Bytes) (ancillary : AncillaryMetadata) (envelope : Envelope ClientMessage),
      decodeClient bs ancillary dimensions = .ok envelope ↔
        encodeClient envelope dimensions = .ok bs ∧ ancillary = envelope.message.ancillary) ∧
    (∀ (bs : Bytes) (ancillary : AncillaryMetadata) (envelope : Envelope ClientMessage),
      decodeClient bs ancillary dimensions = .ok envelope →
        MessageType.fromWire (packetType bs) = envelope.message.messageType ∧
        (ancillary.rightsDescriptorCount = 1 ↔
          ∃ buffer, envelope.message = .registerBuffer buffer) ∧
        (ancillary.rightsDescriptorCount ≠ 1 → ancillary.rightsDescriptorCount = 0)) ∧
    (∀ (bs : Bytes) (ancillary : AncillaryMetadata) (envelope : Envelope ServiceMessage),
      decodeService bs ancillary dimensions = .ok envelope ↔
        encodeService envelope dimensions = .ok bs ∧ ancillary = ⟨0, false, false⟩) ∧
    (∀ (bs : Bytes) (ancillary : AncillaryMetadata) (envelope : Envelope ServiceMessage),
      decodeService bs ancillary dimensions = .ok envelope →
        MessageType.fromWire (packetType bs) = some envelope.message.messageType) := by
  refine ⟨fun bs ancillary envelope => decodeClient_ok,
    fun bs ancillary envelope h => ?_, fun bs ancillary envelope => decodeService_ok,
    fun bs ancillary envelope h => ?_⟩
  · obtain ⟨hencode, rfl⟩ := decodeClient_ok.mp h
    obtain ⟨-, hvalid, payload, -, hpacket⟩ := encodeClient_ok.mp hencode
    obtain ⟨requestId, message⟩ := envelope
    rw [packetType_of_decode hpacket]
    refine ⟨?_, ?_⟩
    · cases message with
      | unknown request =>
        exact Option.not_isSome_iff_eq_none.mp (of_ite_error_ok (of_ite_error_ok hvalid).2).1
      | _ => rfl
    · cases message <;> simp [ClientMessage.ancillary, ClientMessage.messageType,
        MessageType.ancillaryExpectation, AncillaryExpectation.descriptors]
  · obtain ⟨-, -, payload, -, hpacket⟩ := encodeService_ok.mp (decodeService_ok.mp h).1
    rw [packetType_of_decode hpacket]
    exact MessageType.fromWire_eq_some.mpr rfl

end T1Bridge.TouchBar
