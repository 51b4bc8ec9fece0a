import T1Bridge.Auth.Protocol
import T1Bridge.Lib.Word

/-! # Frames

A frame of the bridge is a header of sixteen bytes, with the type of the message and the length of
the body, and the body.  `decodePrefix` reads the first frame of a byte string, `decodeAll` all of
them. -/

namespace T1Bridge.Wire

def bridgexpcMagic : ℕ := 0xb892
def bridgexpcVersion : ℕ := 1
def frameHello : UInt32 := 1
def frameBinaryPlist : UInt32 := 2
def frameHeaderLen : ℕ := 16
def maxFrameBodyLen : ℕ := 16 * 1024 * 1024

inductive FrameError where
  | incompleteHeader (available : ℕ)
  | invalidMagic (actual : ℕ)
  | unsupportedVersion (actual : ℕ)
  | bodyTooLarge (declared maximum : ℕ)
  | incompleteBody (declared available : ℕ)
  | trailingBytes (count : ℕ)

def validateBodyLen (bodyLen : ℕ) : Except FrameError Unit :=
  if bodyLen > maxFrameBodyLen then .error (.bodyTooLarge bodyLen maxFrameBodyLen) else .ok ()

structure FrameHeader where
  messageType : UInt32
  bodyLen : ℕ

open Except (bind_eq_ok ite_error_eq_ok)

variable {header : FrameHeader}

namespace FrameHeader

def new (messageType : UInt32) (bodyLen : ℕ) : Except FrameError FrameHeader := do
  validateBodyLen bodyLen
  .ok ⟨messageType, bodyLen⟩

def decodeExact (bytes : Packet) : Except FrameError FrameHeader :=
  if bytes.length < frameHeaderLen then .error (.incompleteHeader bytes.length)
  else if bytes.length > frameHeaderLen then .error (.trailingBytes (bytes.length - frameHeaderLen))
  else if wordAt 2 0 bytes ≠ bridgexpcMagic then .error (.invalidMagic (wordAt 2 0 bytes))
  else if wordAt 2 2 bytes ≠ bridgexpcVersion then .error (.unsupportedVersion (wordAt 2 2 bytes))
  else do
    validateBodyLen (wordAt 8 8 bytes)
    .ok ⟨UInt32.ofNat (wordAt 4 4 bytes), wordAt 8 8 bytes⟩

def encode (header : FrameHeader) : Packet :=
  leBytes 2 bridgexpcMagic ++ leBytes 2 bridgexpcVersion ++ leBytes 4 header.messageType.toNat ++
    leBytes 8 header.bodyLen

lemma length_encode (header : FrameHeader) : header.encode.length = frameHeaderLen := by
  simp [encode, frameHeaderLen]

variable {bytes : Packet}

lemma encode_eq_iff (h : header.bodyLen ≤ maxFrameBodyLen) : header.encode = bytes ↔
    wordAt 2 0 bytes = bridgexpcMagic ∧ wordAt 2 2 bytes = bridgexpcVersion ∧
      wordAt 4 4 bytes = header.messageType.toNat ∧ wordAt 8 8 bytes = header.bodyLen ∧
      bytes.length = frameHeaderLen := by
  have hmax : maxFrameBodyLen < 256 ^ 8 := by decide
  have hrecord : header.encode = record [⟨2, bridgexpcMagic, by decide⟩,
      ⟨2, bridgexpcVersion, by decide⟩, ⟨4, header.messageType.toNat, header.messageType.toNat_lt⟩,
        ⟨8, header.bodyLen, by omega⟩] := by
    simp [encode, record, WordField.bytes]
  rw [hrecord, record_eq_iff]
  simp [Laid, frameHeaderLen]
  intros
  omega

/-- A header that is accepted says what it is written as. -/
lemma decodeExact_ok : decodeExact bytes = .ok header ↔
    header.bodyLen ≤ maxFrameBodyLen ∧ header.encode = bytes := by
  have htype := UInt32.toNat_ofNat_of_lt' (wordAt_lt 4 4 bytes)
  simp only [decodeExact, ite_error_eq_ok, bind_eq_ok, validateBodyLen, not_lt, not_not]
  constructor
  · rintro ⟨hshort, hlong, hmagic, hversion, -, ⟨hbody, -⟩, ⟨⟩⟩
    exact ⟨hbody, (encode_eq_iff hbody).mpr ⟨hmagic, hversion, htype.symm, rfl, by omega⟩⟩
  · rintro ⟨hbody, h⟩
    obtain ⟨hmagic, hversion, htype, hlength, hlen⟩ := (encode_eq_iff hbody).mp h
    refine ⟨hlen.ge, hlen.le, hmagic, hversion, (), ⟨hlength ▸ hbody, trivial⟩, ?_⟩
    rw [htype, hlength, UInt32.ofNat_toNat]

end FrameHeader

structure Frame where
  messageType : UInt32
  body : Packet

namespace Frame

def new (messageType : UInt32) (body : Packet) : Except FrameError Frame := do
  let _ ← FrameHeader.new messageType body.length
  .ok ⟨messageType, body⟩

/-- The first frame and what stands behind it. -/
def decodePrefix (bytes : Packet) : Except FrameError (Frame × Packet) :=
  if bytes.length < frameHeaderLen then .error (.incompleteHeader bytes.length)
  else do
    let header ← FrameHeader.decodeExact (bytes.take frameHeaderLen)
    if bytes.length - frameHeaderLen < header.bodyLen then
      .error (.incompleteBody header.bodyLen (bytes.length - frameHeaderLen))
    else
      .ok (⟨header.messageType, (bytes.drop frameHeaderLen).take header.bodyLen⟩,
        bytes.drop (frameHeaderLen + header.bodyLen))

def encode (frame : Frame) : Except FrameError Packet := do
  let header ← FrameHeader.new frame.messageType frame.body.length
  .ok (header.encode ++ frame.body)

/-- The frame as it is written. -/
def bytes (frame : Frame) : Packet :=
  FrameHeader.encode ⟨frame.messageType, frame.body.length⟩ ++ frame.body

lemma length_bytes (frame : Frame) : frame.bytes.length = frameHeaderLen + frame.body.length := by
  rw [bytes, List.length_append, FrameHeader.length_encode]

lemma new_eq {messageType : UInt32} {body : Packet} (h : body.length ≤ maxFrameBodyLen) :
    new messageType body = .ok ⟨messageType, body⟩ := by
  rw [new, FrameHeader.new, validateBodyLen, if_neg (by omega)]
  rfl

variable {frame : Frame}

lemma encode_eq (h : frame.body.length ≤ maxFrameBodyLen) : frame.encode = .ok frame.bytes := by
  rw [encode, FrameHeader.new, validateBodyLen, if_neg (by omega)]
  rfl

section

variable {bytes : Packet} (hlen : frameHeaderLen ≤ bytes.length)
include hlen

lemma decodePrefix_of_header
    (h : FrameHeader.decodeExact (bytes.take frameHeaderLen) = .ok header) :
    decodePrefix bytes = if bytes.length - frameHeaderLen < header.bodyLen then
        .error (.incompleteBody header.bodyLen (bytes.length - frameHeaderLen)) else
        .ok (⟨header.messageType, (bytes.drop frameHeaderLen).take header.bodyLen⟩,
          bytes.drop (frameHeaderLen + header.bodyLen)) := by
  rw [decodePrefix, if_neg (by omega), Except.ok_bind h]

lemma decodePrefix_of_refused {error : FrameError}
    (h : FrameHeader.decodeExact (bytes.take frameHeaderLen) = .error error) :
    decodePrefix bytes = .error error := by
  rw [decodePrefix, if_neg (by omega), h]
  rfl

end

lemma decodePrefix_ok {bytes rest : Packet} : decodePrefix bytes = .ok (frame, rest) ↔
    frame.body.length ≤ maxFrameBodyLen ∧ bytes = frame.bytes ++ rest := by
  simp only [decodePrefix, ite_error_eq_ok, bind_eq_ok, FrameHeader.decodeExact_ok, not_lt]
  constructor
  · rintro ⟨hlen, header, ⟨hmax, htake⟩, hbody, ⟨⟩⟩
    have hlength : ((bytes.drop frameHeaderLen).take header.bodyLen).length = header.bodyLen := by
      rw [List.length_take, List.length_drop]
      omega
    rw [Frame.bytes, hlength, htake, List.append_assoc, ← List.drop_drop, List.take_append_drop,
      List.take_append_drop]
    exact ⟨hmax, rfl⟩
  · rintro ⟨hmax, rfl⟩
    have hheader := FrameHeader.length_encode ⟨frame.messageType, frame.body.length⟩
    have hlen : (frame.bytes ++ rest).length = frameHeaderLen + frame.body.length + rest.length := by
      rw [List.length_append, length_bytes]
    refine ⟨by omega, ⟨frame.messageType, frame.body.length⟩, ⟨hmax, ?_⟩, by dsimp only; omega, ?_⟩
    · rw [Frame.bytes, List.append_assoc, List.take_left' hheader]
    · rw [← List.drop_drop, Frame.bytes, List.append_assoc, List.drop_left' hheader, List.take_left,
        List.drop_left]

end Frame

/-- The frames of a byte string, and why there are no more of them unless nothing was left. -/
def decodeAll (bytes : Packet) : List Frame × Option FrameError :=
  if bytes = [] then ([], none)
  else
    match h : Frame.decodePrefix bytes with
    | .error error => ([], some error)
    | .ok (frame, rest) =>
      have : rest.length < bytes.length := by
        rw [(Frame.decodePrefix_ok.mp h).2, List.length_append, Frame.length_bytes]
        exact Nat.lt_add_of_pos_left (Nat.add_pos_left (by decide) _)
      let (frames, stop) := decodeAll rest
      (frame :: frames, stop)
termination_by bytes.length

/-- What was decoded stands there. -/
lemma decodeAll_inv (bytes : Packet) :
    (∀ frame ∈ (decodeAll bytes).1, frame.body.length ≤ maxFrameBodyLen) ∧
      match (decodeAll bytes).2 with
      | none => bytes = (decodeAll bytes).1.flatMap Frame.bytes
      | some error => ∃ rest, rest ≠ [] ∧ Frame.decodePrefix rest = .error error ∧
          bytes = (decodeAll bytes).1.flatMap Frame.bytes ++ rest := by
  fun_induction decodeAll bytes with
  | case1 => exact ⟨nofun, rfl⟩
  | case2 bytes hne error herror => exact ⟨nofun, bytes, hne, herror, rfl⟩
  | case3 bytes hne frame rest hok hlt frames stop heq ih =>
    obtain ⟨hmax, rfl⟩ := Frame.decodePrefix_ok.mp hok
    rw [heq] at ih
    obtain ⟨hframes, hstop⟩ := ih
    refine ⟨fun f hf => ?_, ?_⟩
    · rcases List.mem_cons.mp hf with rfl | hf
      · exact hmax
      · exact hframes f hf
    · cases stop with
      | none =>
        rw [List.flatMap_cons, ← hstop]
      | some error =>
        obtain ⟨left, hleft, herror, hrest⟩ := hstop
        refine ⟨left, hleft, herror, ?_⟩
        rw [List.flatMap_cons, List.append_assoc, ← hrest]

end T1Bridge.Wire
