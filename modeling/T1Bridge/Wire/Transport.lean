import T1Bridge.Wire.Frame

/-! # Frames over a stream

The transport reads a frame in two parts, each with a loop of reads that may return early or be
interrupted.  A stream is what is still to come and how the system answers the next reads, so that
every way to split the bytes is a list of answers.  `readExact_eq` says that only the bytes count. -/

namespace T1Bridge.Wire

open List (append_assoc append_nil length_append length_nil length_take suffix_cons
  take_append_drop)
open T1Bridge.Wire.Frame (decodePrefix)
open FrameHeader (decodeExact)

variable {error : FrameError} {bytes : Packet}

inductive FramePart where
  | header | body
deriving DecidableEq

inductive TransportError where
  | frame (error : FrameError)
  | unexpectedEof (part : FramePart)
  | connectionClosed
  | writeZero (part : FramePart)
  | allocationFailed (bodyLen : ℕ)
  | io (part : FramePart) (code : ℕ)

/-- How the system answers a read: it is interrupted, fails, or returns at most `count + 1` bytes. -/
inductive ReadAnswer where
  | interrupted
  | failed (code : ℕ)
  | atMost (count : ℕ)

/-- Once the answers are used up, a read returns all it has room for. -/
structure Stream where
  incoming : Packet
  answers : List ReadAnswer

inductive ReadResult where
  | bytes (read : Packet)
  | interrupted
  | failed (code : ℕ)

/-- No bytes are read only when none are left. -/
def Stream.read (capacity : ℕ) (stream : Stream) : ReadResult × Stream :=
  match stream.answers with
  | [] => (.bytes (stream.incoming.take capacity), ⟨stream.incoming.drop capacity, []⟩)
  | .interrupted :: answers => (.interrupted, ⟨stream.incoming, answers⟩)
  | .failed code :: answers => (.failed code, ⟨stream.incoming, answers⟩)
  | .atMost count :: answers =>
    (.bytes (stream.incoming.take (min capacity (count + 1))),
      ⟨stream.incoming.drop (min capacity (count + 1)), answers⟩)

namespace Stream

variable {capacity : ℕ} {stream stream' : Stream}

lemma read_inv {result : ReadResult} (h : stream.read capacity = (result, stream')) :
    match result with
    | .bytes bytes => ∃ count, count ≤ capacity ∧ (0 < capacity → 0 < count) ∧
        bytes = stream.incoming.take count ∧ stream'.incoming = stream.incoming.drop count ∧
        stream'.answers <:+ stream.answers
    | .interrupted => stream'.incoming = stream.incoming ∧
        ∃ answer, stream.answers = answer :: stream'.answers
    | .failed code => .failed code ∈ stream.answers := by
  unfold read at h
  split at h <;> cases h
  · exact ⟨capacity, le_rfl, id, rfl, rfl, List.nil_suffix⟩
  next heq => exact ⟨rfl, _, heq⟩
  next heq =>
    rw [heq]
    exact List.mem_cons_self
  next count answers heq =>
    refine ⟨min capacity (count + 1), min_le_left _ _, by omega, rfl, rfl, ?_⟩
    rw [heq]
    exact suffix_cons _ _

lemma read_end (hcapacity : 0 < capacity) (h : stream.read capacity = (.bytes [], stream')) :
    stream.incoming = [] ∧ stream'.incoming = [] ∧ stream'.answers <:+ stream.answers := by
  obtain ⟨count, -, hpos, hread, hrest, hanswers⟩ := read_inv h
  have hempty : stream.incoming = [] := by
    rcases List.take_eq_nil_iff.mp hread.symm with hzero | hempty
    · exact absurd (hpos hcapacity) (by omega)
    · exact hempty
  exact ⟨hempty, by rw [hrest, hempty, List.drop_nil], hanswers⟩

end Stream

/-- Fills a part of a frame, of which `filled` has been read. -/
def readExact (part : FramePart) (length : ℕ) (filled : Packet) (stream : Stream) :
    Except TransportError Packet × Stream :=
  if length ≤ filled.length then (.ok filled, stream)
  else
    match _h : stream.read (length - filled.length) with
    | (.bytes [], stream') =>
      if filled = [] ∧ part = .header then (.error .connectionClosed, stream')
      else (.error (.unexpectedEof part), stream')
    | (.bytes (byte :: read), stream') => readExact part length (filled ++ byte :: read) stream'
    | (.interrupted, stream') => readExact part length filled stream'
    | (.failed code, stream') => (.error (.io part code), stream')
termination_by stream.answers.length + stream.incoming.length
decreasing_by
  · obtain ⟨count, -, -, hread, hrest, hanswers⟩ := Stream.read_inv _h
    have hsuffix := hanswers.length_le
    have hsplit := congrArg List.length (take_append_drop count stream.incoming)
    rw [← hread, ← hrest, length_append, List.length_cons] at hsplit
    omega
  · obtain ⟨hincoming, answer, hanswers⟩ := Stream.read_inv _h
    rw [hincoming, hanswers, List.length_cons]
    omega

/-- The body of a frame is given room before it is read. -/
def receiveFrame (allocates : ℕ → Bool) (stream : Stream) : Except TransportError Frame × Stream :=
  match readExact .header frameHeaderLen [] stream with
  | (.error error, stream) => (.error error, stream)
  | (.ok headerBytes, stream) =>
    match decodeExact headerBytes with
    | .error error => (.error (.frame error), stream)
    | .ok header =>
      if allocates header.bodyLen = false then
        (.error (.allocationFailed header.bodyLen), stream)
      else
        match readExact .body header.bodyLen [] stream with
        | (.error error, stream) => (.error error, stream)
        | (.ok body, stream) => (.ok ⟨header.messageType, body⟩, stream)

/-! ### Only the bytes count -/

/-- No read fails. -/
def Stream.Quiet (stream : Stream) : Prop := ∀ code, .failed code ∉ stream.answers

variable {stream stream' : Stream} {part : FramePart} {length : ℕ} {rest : Packet} {frame : Frame}
  {filled : Packet} {allocates : ℕ → Bool}

lemma Stream.Quiet.suffix (h : stream.Quiet)
    (hanswers : stream'.answers <:+ stream.answers) : stream'.Quiet :=
  fun code hcode => h code (hanswers.subset hcode)

/-- Why a part that has `filled` bytes could not be completed. -/
def cutShort (part : FramePart) (read : Packet) : TransportError :=
  if read = [] ∧ part = .header then .connectionClosed else .unexpectedEof part

/-- A part is filled from the bytes that come in, however they are split; where they end inside the
part, that is noticed there. -/
lemma readExact_eq (hquiet : stream.Quiet) (hfilled : filled.length ≤ length) :
    ∃ answers, answers <:+ stream.answers ∧ readExact part length filled stream =
      (if length - filled.length ≤ stream.incoming.length then
          .ok (filled ++ stream.incoming.take (length - filled.length))
        else .error (cutShort part (filled ++ stream.incoming)),
        ⟨stream.incoming.drop (length - filled.length), answers⟩) := by
  fun_induction readExact part length filled stream with
  | case1 filled stream hdone =>
    refine ⟨stream.answers, List.suffix_refl _, ?_⟩
    rw [Nat.sub_eq_zero_of_le hdone, if_pos (Nat.zero_le _), List.take_zero, append_nil,
      List.drop_zero]
  | case2 filled stream hneeds stream' hread hempty =>
    obtain ⟨hnone, hrest, hanswers⟩ := Stream.read_end (by omega) hread
    refine ⟨stream'.answers, hanswers, ?_⟩
    rw [hnone, append_nil, List.drop_nil, if_neg (by rw [length_nil]; omega), cutShort,
      if_pos hempty, ← hrest]
  | case3 filled stream hneeds stream' hread hpartial =>
    obtain ⟨hnone, hrest, hanswers⟩ := Stream.read_end (by omega) hread
    refine ⟨stream'.answers, hanswers, ?_⟩
    rw [hnone, append_nil, List.drop_nil, if_neg (by rw [length_nil]; omega), cutShort,
      if_neg hpartial, ← hrest]
  | case4 filled stream hneeds byte read stream' hread ih =>
    obtain ⟨count, hcount, -, hbytes, hrest, hanswers⟩ := Stream.read_inv hread
    have hall : stream.incoming = byte :: read ++ stream'.incoming := by
      rw [hbytes, hrest, take_append_drop]
    have hfew : (byte :: read).length ≤ length - filled.length := by
      rw [hbytes, length_take]
      omega
    generalize byte :: read = read at hall hfew ih ⊢
    obtain ⟨answers, hsuffix, heq⟩ := ih (hquiet.suffix hanswers) (by rw [length_append]; omega)
    have henough : length - filled.length ≤ read.length + stream'.incoming.length ↔
        length - (filled.length + read.length) ≤ stream'.incoming.length := by omega
    refine ⟨answers, hsuffix.trans hanswers, ?_⟩
    simp only [heq, hall, henough, List.take_append, List.drop_append, List.take_of_length_le hfew,
      List.drop_of_length_le hfew, length_append, Nat.sub_sub, append_assoc, List.nil_append]
  | case5 filled stream hneeds stream' hread ih =>
    obtain ⟨hsame, answer, hanswers⟩ := Stream.read_inv hread
    have hsuffix : stream'.answers <:+ stream.answers := by
      rw [hanswers]
      exact suffix_cons _ _
    obtain ⟨answers, hsuffix', heq⟩ := ih (hquiet.suffix hsuffix) hfilled
    exact ⟨answers, hsuffix'.trans hsuffix, hsame ▸ heq⟩
  | case6 filled stream hneeds code stream' hread =>
    exact absurd (Stream.read_inv hread) (hquiet code)

/-! From the start of a part: -/

lemma readPart_all (part : FramePart) (hquiet : stream.Quiet)
    (hincoming : stream.incoming = bytes ++ rest) : ∃ answers, answers <:+ stream.answers ∧
      readExact part bytes.length [] stream = (.ok bytes, ⟨rest, answers⟩) := by
  obtain ⟨answers, hsuffix, heq⟩ := @readExact_eq stream part bytes.length [] hquiet (Nat.zero_le _)
  refine ⟨answers, hsuffix, ?_⟩
  rw [heq, hincoming, length_nil, Nat.sub_zero, length_append, if_pos (Nat.le_add_right _ _),
    List.take_left, List.drop_left, List.nil_append]

lemma readPart_short (part : FramePart) (hquiet : stream.Quiet)
    (hlength : stream.incoming.length < length) : ∃ answers, answers <:+ stream.answers ∧
      readExact part length [] stream = (.error (cutShort part stream.incoming), ⟨[], answers⟩) := by
  obtain ⟨answers, hsuffix, heq⟩ := @readExact_eq stream part length [] hquiet (Nat.zero_le _)
  refine ⟨answers, hsuffix, ?_⟩
  rw [heq, length_nil, Nat.sub_zero, if_neg (Nat.not_le.mpr hlength), List.nil_append,
    List.drop_of_length_le hlength.le]

/-- What a receiver reports when the bytes stop being frames. -/
def endOf : FrameError → TransportError
  | .incompleteHeader available =>
    if available = 0 then .connectionClosed else .unexpectedEof .header
  | .incompleteBody _ _ => .unexpectedEof .body
  | error => .frame error

/-- What is left when a receiver has failed: a header that is refused is all it has read. -/
def leftAfter (bytes : Packet) : FrameError → Packet
  | .incompleteHeader _ | .incompleteBody _ _ => []
  | _ => bytes.drop frameHeaderLen

section Receive

variable (hmemory : ∀ bodyLen ≤ maxFrameBodyLen, allocates bodyLen = true)

/-- A header of the right length is refused only for what it says. -/
lemma FrameHeader.decodeExact_error (hlen : bytes.length = frameHeaderLen)
    (h : decodeExact bytes = .error error) :
    endOf error = .frame error ∧
      ∀ input : Packet, leftAfter input error = input.drop frameHeaderLen := by
  unfold decodeExact at h
  rw [if_neg (by omega), if_neg (by omega)] at h
  split at h
  · cases h
    exact ⟨rfl, fun _ => rfl⟩
  split at h
  · cases h
    exact ⟨rfl, fun _ => rfl⟩
  unfold validateBodyLen at h
  split at h
  · cases h
    exact ⟨rfl, fun _ => rfl⟩
  · cases h

include hmemory

variable (hquiet : stream.Quiet)

include hquiet

/-- The next frame depends on the bytes alone. -/
lemma receiveFrame_eq : ∃ answers, answers <:+ stream.answers ∧ receiveFrame allocates stream =
        match decodePrefix stream.incoming with
        | .ok (frame, rest) => (.ok frame, ⟨rest, answers⟩)
        | .error error => (.error (endOf error), ⟨leftAfter stream.incoming error, answers⟩) := by
  rcases lt_or_ge stream.incoming.length frameHeaderLen with hshort | hlong
  · obtain ⟨answers, hanswers, hread⟩ := readPart_short .header hquiet hshort
    refine ⟨answers, hanswers, ?_⟩
    rw [receiveFrame, decodePrefix, hread, if_pos hshort]
    dsimp only [endOf, leftAfter]
    rw [cutShort]
    simp only [List.length_eq_zero_iff, and_true]
  -- the header is there; what comes next depends on what it says
  have hheader : (stream.incoming.take frameHeaderLen).length = frameHeaderLen := by
    rw [length_take]
    omega
  obtain ⟨answers, hanswers, hread⟩ := readPart_all .header hquiet
    (take_append_drop frameHeaderLen stream.incoming).symm
  rw [hheader] at hread
  rw [receiveFrame, hread]
  dsimp only
  cases hdecode : decodeExact (stream.incoming.take frameHeaderLen) with
  | error error =>
    obtain ⟨hend, hleft⟩ := FrameHeader.decodeExact_error hheader hdecode
    refine ⟨answers, hanswers, ?_⟩
    rw [Frame.decodePrefix_of_refused hlong hdecode]
    dsimp only
    rw [hend, hleft]
  | ok header =>
    have hallocated := hmemory _ (FrameHeader.decodeExact_ok.mp hdecode).1
    have hquiet' : Stream.Quiet ⟨stream.incoming.drop frameHeaderLen, answers⟩ :=
      hquiet.suffix hanswers
    have hbody : (stream.incoming.drop frameHeaderLen).length =
        stream.incoming.length - frameHeaderLen := List.length_drop
    rw [Frame.decodePrefix_of_header hlong hdecode]
    dsimp only
    rw [if_neg (by rw [hallocated]; decide)]
    rcases lt_or_ge (stream.incoming.length - frameHeaderLen) header.bodyLen with hcut | hfull
    · obtain ⟨answers', hanswers', hread'⟩ := readPart_short .body hquiet' (by rwa [← hbody] at hcut)
      refine ⟨answers', hanswers'.trans hanswers, ?_⟩
      rw [hread', cutShort, if_neg (fun h => by cases h.2), if_pos hcut]
      rfl
    have htaken : ((stream.incoming.drop frameHeaderLen).take header.bodyLen).length =
        header.bodyLen := by
      rw [length_take]
      omega
    obtain ⟨answers', hanswers', hread'⟩ := readPart_all .body hquiet'
      (take_append_drop header.bodyLen (stream.incoming.drop frameHeaderLen)).symm
    rw [htaken] at hread'
    refine ⟨answers', hanswers'.trans hanswers, ?_⟩
    rw [hread', if_neg (not_lt.mpr hfull), List.drop_drop]

end Receive

/-! ### Whole streams -/

lemma readExact_left (h : readExact part length filled stream = (.ok bytes, stream')) :
    stream'.incoming.length + bytes.length = stream.incoming.length + filled.length ∧
      length ≤ bytes.length := by
  fun_induction readExact part length filled stream with
  | case1 filled stream hdone =>
    cases h
    exact ⟨rfl, hdone⟩
  | case2 | case3 | case6 => cases h
  | case4 filled stream hneeds byte read stream1 hread ih =>
    obtain ⟨count, -, -, hbytes, hrest, -⟩ := Stream.read_inv hread
    have hall := congrArg List.length (take_append_drop count stream.incoming)
    rw [← hbytes, ← hrest, length_append] at hall
    obtain ⟨hlen, hfull⟩ := ih h
    rw [length_append] at hlen
    exact ⟨by omega, hfull⟩
  | case5 filled stream hneeds stream1 hread ih =>
    rw [← (Stream.read_inv hread).1]
    exact ih h

lemma receiveFrame_left (h : receiveFrame allocates stream = (.ok frame, stream')) :
    stream'.incoming.length < stream.incoming.length := by
  have hlen : frameHeaderLen = 16 := rfl
  unfold receiveFrame at h
  split at h
  · cases h
  next headerBytes stream1 hheader =>
  obtain ⟨hfirst, hfull⟩ := readExact_left hheader
  rw [length_nil] at hfirst
  split at h
  · cases h
  split at h
  · cases h
  split at h
  · cases h
  next body stream2 hbody =>
  obtain ⟨hsecond, -⟩ := readExact_left hbody
  rw [length_nil] at hsecond
  cases h
  omega

/-- Frames are received until one is not. -/
def receiveAll (allocates : ℕ → Bool) (stream : Stream) : List Frame × TransportError × Stream :=
  match h : receiveFrame allocates stream with
  | (.error error, stream') => ([], error, stream')
  | (.ok frame, stream') =>
    have : stream'.incoming.length < stream.incoming.length := receiveFrame_left h
    let (frames, error, stream'') := receiveAll allocates stream'
    (frame :: frames, error, stream'')
termination_by stream.incoming.length

lemma receiveAll_eq (allocates : ℕ → Bool) (stream : Stream) : receiveAll allocates stream =
    match receiveFrame allocates stream with
    | (.error error, stream') => ([], error, stream')
    | (.ok frame, stream') =>
      (frame :: (receiveAll allocates stream').1, (receiveAll allocates stream').2) := by
  rw [receiveAll]
  split
  next h => rw [h]
  next h => simp only [h]

/-- The frames are received one by one, and then the first thing that is not a frame. -/
lemma receiveAll_stops (hmemory : ∀ bodyLen ≤ maxFrameBodyLen, allocates bodyLen = true)
    (hquiet : stream.Quiet) {whole : List Frame}
    (hwhole : ∀ frame ∈ whole, frame.body.length ≤ maxFrameBodyLen)
    (hincoming : stream.incoming = whole.flatMap Frame.bytes ++ rest)
    (hrest : decodePrefix rest = .error error) :
    ∃ answers, receiveAll allocates stream = (whole, endOf error, ⟨leftAfter rest error, answers⟩) := by
  induction whole generalizing stream with
  | nil =>
    have hincoming : stream.incoming = rest := hincoming
    obtain ⟨answers, -, hnext⟩ := receiveFrame_eq hmemory hquiet
    rw [hincoming, hrest] at hnext
    exact ⟨answers, by rw [receiveAll_eq, hnext]⟩
  | cons frame whole ih =>
    rw [List.flatMap_cons, append_assoc] at hincoming
    have hfirst : decodePrefix stream.incoming =
        .ok (frame, whole.flatMap Frame.bytes ++ rest) :=
      Frame.decodePrefix_ok.mpr ⟨hwhole frame List.mem_cons_self, hincoming⟩
    obtain ⟨answers, hanswers, hnext⟩ := receiveFrame_eq hmemory hquiet
    rw [hfirst] at hnext
    have hquiet' : Stream.Quiet ⟨whole.flatMap Frame.bytes ++ rest, answers⟩ :=
      hquiet.suffix hanswers
    obtain ⟨answers', hothers⟩ := ih hquiet' (fun f hf => hwhole f (List.mem_cons_of_mem _ hf)) rfl
    refine ⟨answers', ?_⟩
    rw [receiveAll_eq, hnext]
    dsimp only
    rw [hothers]

lemma decodePrefix_cut {cut : Packet}
    (hframe : frame.body.length ≤ maxFrameBodyLen) (hcut : cut ++ rest = frame.bytes)
    (hstart : cut ≠ []) (hrest : rest ≠ []) : ∃ error, decodePrefix cut = .error error ∧
      endOf error = .unexpectedEof (if cut.length < frameHeaderLen then .header else .body) := by
  have hpos := List.length_pos_of_ne_nil hrest
  have hlen := congrArg List.length hcut
  rw [length_append, Frame.length_bytes] at hlen
  rcases lt_or_ge cut.length frameHeaderLen with hshort | hlong
  · refine ⟨.incompleteHeader cut.length, if_pos hshort, ?_⟩
    rw [endOf, if_neg (by rwa [List.length_eq_zero_iff]), if_pos hshort]
  have htake : cut.take frameHeaderLen = frame.bytes.take frameHeaderLen := by
    rw [← hcut, List.take_append_of_le_length hlong]
  have hheader : decodeExact (cut.take frameHeaderLen) =
      .ok ⟨frame.messageType, frame.body.length⟩ := by
    refine FrameHeader.decodeExact_ok.mpr ⟨hframe, ?_⟩
    rw [htake, Frame.bytes, List.take_left' (FrameHeader.length_encode _)]
  have hbody : cut.length - frameHeaderLen < frame.body.length := by omega
  refine ⟨.incompleteBody frame.body.length (cut.length - frameHeaderLen), ?_, ?_⟩
  · rw [Frame.decodePrefix_of_header hlong hheader, if_pos hbody]
  · rw [if_neg (not_lt.mpr hlong)]
    rfl

/-- The connection is closed only where nothing is left. -/
lemma decodePrefix_closed (hrest : decodePrefix rest = .error error)
    (hend : endOf error = .connectionClosed) : rest = [] := by
  rcases lt_or_ge rest.length frameHeaderLen with hshort | hlong
  · rw [decodePrefix, if_pos hshort] at hrest
    cases hrest
    rw [endOf] at hend
    split at hend
    · next hzero => exact List.length_eq_zero_iff.mp hzero
    · cases hend
  cases hheader : decodeExact (rest.take frameHeaderLen) with
  | error refused =>
    rw [Frame.decodePrefix_of_refused hlong hheader] at hrest
    cases hrest
    have hlen : (rest.take frameHeaderLen).length = frameHeaderLen := by
      rw [length_take]
      omega
    rw [(FrameHeader.decodeExact_error hlen hheader).1] at hend
    cases hend
  | ok header =>
    rw [Frame.decodePrefix_of_header hlong hheader] at hrest
    split at hrest
    · cases hrest
      cases hend
    · cases hrest

/-- A byte string is its frames and something that is not a frame. -/
lemma decodeAll_split (bytes : Packet) :
    ∃ rest error, bytes = (decodeAll bytes).1.flatMap Frame.bytes ++ rest ∧
      decodePrefix rest = .error error := by
  obtain ⟨-, hstop⟩ := decodeAll_inv bytes
  cases hnone : (decodeAll bytes).2 with
  | none =>
    rw [hnone] at hstop
    exact ⟨[], .incompleteHeader 0, hstop.trans (append_nil _).symm, rfl⟩
  | some error =>
    rw [hnone] at hstop
    obtain ⟨rest, -, hrest, hbytes⟩ := hstop
    exact ⟨rest, error, hbytes, hrest⟩

/-- Whatever reads the system makes of a stream, the transport returns the frames of its bytes; it
reports a closed connection exactly when the bytes are whole frames, a truncation when they end
inside a frame, and a body that is too large before any byte of it is read. -/
theorem stream_is_received {allocates : ℕ → Bool}
    (hmemory : ∀ bodyLen ≤ maxFrameBodyLen, allocates bodyLen = true) {stream : Stream}
    (hquiet : stream.Quiet) :
    ∃ frames error left, receiveAll allocates stream = (frames, error, left) ∧
      frames = (decodeAll stream.incoming).1 ∧ (error = .connectionClosed ↔ ∃ whole : List Frame,
        (∀ frame ∈ whole, frame.body.length ≤ maxFrameBodyLen) ∧
          stream.incoming = whole.flatMap Frame.bytes) ∧
      (∀ (whole : List Frame) (frame : Frame) (cut rest : Packet),
        (∀ frame ∈ whole, frame.body.length ≤ maxFrameBodyLen) →
        frame.body.length ≤ maxFrameBodyLen → cut ++ rest = frame.bytes → cut ≠ [] → rest ≠ [] →
        stream.incoming = whole.flatMap Frame.bytes ++ cut → frames = whole ∧
            error = .unexpectedEof (if cut.length < frameHeaderLen then .header else .body)) ∧
      ∀ (whole : List Frame) (header rest : Packet) (declared : ℕ),
        (∀ frame ∈ whole, frame.body.length ≤ maxFrameBodyLen) → header.length = frameHeaderLen →
        FrameHeader.decodeExact header = .error (.bodyTooLarge declared maxFrameBodyLen) →
        stream.incoming = whole.flatMap Frame.bytes ++ (header ++ rest) →
          frames = whole ∧ error = .frame (.bodyTooLarge declared maxFrameBodyLen) ∧
            left.incoming = rest := by
  obtain ⟨hframes, -⟩ := decodeAll_inv stream.incoming
  obtain ⟨rest, error, hincoming, herror⟩ := decodeAll_split stream.incoming
  obtain ⟨answers, hall⟩ := receiveAll_stops hmemory hquiet hframes hincoming herror
  refine ⟨_, _, _, hall, rfl, ⟨fun hend => ⟨_, hframes, ?_⟩, ?_⟩, ?_, ?_⟩
  · rw [decodePrefix_closed herror hend, append_nil] at hincoming
    exact hincoming
  · rintro ⟨whole, hwhole, hbytes⟩
    obtain ⟨answers', hall'⟩ := receiveAll_stops hmemory hquiet hwhole
      (hbytes.trans (append_nil _).symm)
      (rfl : decodePrefix [] = .error (.incompleteHeader 0))
    exact congrArg (fun r => r.2.1) (hall.symm.trans hall')
  · intro whole frame cut rest' hwhole hframe hcut hstart hrest' hbytes
    obtain ⟨error', herror', hend⟩ := decodePrefix_cut hframe hcut hstart hrest'
    obtain ⟨answers', hall'⟩ := receiveAll_stops hmemory hquiet hwhole hbytes herror'
    have hsame := hall.symm.trans hall'
    exact ⟨congrArg Prod.fst hsame, (congrArg (fun r => r.2.1) hsame).trans hend⟩
  intro whole header rest' declared hwhole hheader hlarge hbytes
  have hlong : frameHeaderLen ≤ (header ++ rest').length := by
    rw [length_append]
    omega
  have herror' : decodePrefix (header ++ rest') =
      .error (.bodyTooLarge declared maxFrameBodyLen) := by
    refine Frame.decodePrefix_of_refused hlong ?_
    rwa [List.take_left' hheader]
  obtain ⟨answers', hall'⟩ := receiveAll_stops hmemory hquiet hwhole hbytes herror'
  have hsame := hall.symm.trans hall'
  refine ⟨congrArg Prod.fst hsame, congrArg (fun r => r.2.1) hsame, ?_⟩
  have hleft := congrArg (fun r => r.2.2.incoming) hsame
  exact hleft.trans (List.drop_left' hheader)

/-- Two frames that arrive byte by byte with interruptions. -/
def choppedStream : Stream where
  incoming := Frame.bytes ⟨frameHello, [1, 2]⟩ ++ Frame.bytes ⟨frameBinaryPlist, []⟩
  answers := [.interrupted, .atMost 0, .atMost 3, .interrupted, .atMost 0]

theorem choppedStream_is_received :
    ∃ frames error left, receiveAll (fun _ => true) choppedStream = (frames, error, left) ∧
      frames = (decodeAll choppedStream.incoming).1 := by
  have hquiet : choppedStream.Quiet := by
    intro code hcode
    simp [choppedStream] at hcode
  obtain ⟨frames, error, left, hall, hframes, -⟩ :=
    stream_is_received (fun _ _ => rfl : ∀ bodyLen ≤ maxFrameBodyLen, (fun _ => true) bodyLen = true)
      hquiet
  exact ⟨frames, error, left, hall, hframes⟩

end T1Bridge.Wire
