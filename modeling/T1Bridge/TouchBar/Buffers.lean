import T1Bridge.TouchBar.ServiceRun

/-! # The buffers of a connection

A connection keeps two tables of its buffers: the frame state knows which identifiers are
registered, the connection which of them are mapped.  `Mapped` says that the two agree and
that nothing has been presented while the first, full presentation is still due; every part
of the loop keeps it.  The damage of a frame is checked twice, by the decoder and by the
frame state; `FrameLayout.new` makes the pixels it covers lie in the buffer. -/

namespace T1Bridge.TouchBar

variable {fresh : Prop} {c : Connection} {dimensions : DisplayDimensions}

/-- The answer that is queued says that the request succeeded. -/
def Connection.Acks (c : Connection) (dimensions : DisplayDimensions) (requestId : UInt32) : Prop :=
  ∃ bytes afterSend, encodeService ⟨requestId, .ack⟩ (some dimensions) = .ok bytes ∧
    c.control = some ⟨bytes, afterSend⟩

/-- What a connection that lasts says of its buffers, with `fresh` for one that has not presented
a frame: the mapped ones are those registered, only a registration or submission that succeeds
changes a table, a release is not refused, and the display is first asked to present the whole. -/
structure Buffered (dimensions : DisplayDimensions) (fresh : Prop) (c : Connection) : Prop where
  ids : c.buffers = c.frames.buffers.map RegisteredBuffer.id
  nodup : c.buffers.Nodup
  few : c.buffers.length ≤ 3
  handled : ∀ actions request descriptor answers c',
    (c.handleRequest dimensions actions request descriptor answers).1 = some c' →
    c'.frames = c.frames ∧ c'.buffers = c.buffers ∨ c'.Acks dimensions request.requestId ∧
    ((∃ buffer, request.message = .registerBuffer buffer ∧ answers.accept = true ∧
      c.frames.registerBuffer buffer.bufferId ⟨buffer.stride, buffer.byteLength⟩ = .ok c'.frames ∧
      c'.buffers = c.buffers ++ [buffer.bufferId]) ∨
    ∃ frame submission, request.message = .submitFrame frame ∧ c.frames.submitFrame frame.bufferId
      frame.frameId frame.damage = .ok (submission, c'.frames) ∧ c'.buffers = c.buffers)
  released : ∀ bytes bufferId frameId closeAfter,
    c.control = some ⟨bytes, .release bufferId frameId closeAfter⟩ →
    ∃ frames, c.frames.releaseFrame bufferId frameId = .ok frames
  whole : fresh → ∀ (control input : Sending) (present present' : UInt32 → List DamageRectangle → Bool),
    (∀ bufferId, present bufferId [⟨0, 0, dimensions.width, dimensions.height⟩] =
      present' bufferId [⟨0, 0, dimensions.width, dimensions.height⟩]) →
    c.flushConnection dimensions ⟨control, present, input⟩ =
      c.flushConnection dimensions ⟨control, present', input⟩

lemma Mapped.buffered (h : Mapped fresh c.buffers c.frames c.needsFullPresent) {owed : List Bytes}
    (htied : Tied dimensions c.frames c.control owed) : Buffered dimensions fresh c where
  ids := h.ids
  nodup := h.ids ▸ c.frames.nodup
  few := h.few
  handled := by
    intro actions request descriptor answers c' hc'
    obtain ⟨c1, response, phase, afterSend, hhandled, hqueued⟩ := Connection.handleRequest_queued hc'
    obtain ⟨requestId, request⟩ := request
    obtain ⟨bytes, hbytes, rfl⟩ := Connection.queueControl_eq_some hqueued
    cases hhandled with
    | answered | refused => exact .inl ⟨rfl, rfl⟩
    | registered buffer frames hregister =>
      cases haccept : answers.accept with
      | true => exact .inr ⟨⟨bytes, _, hbytes, rfl⟩, .inl ⟨buffer, rfl, rfl, hregister, rfl⟩⟩
      | false =>
        -- a descriptor that cannot be mapped is refused before the tables are touched
        simp only [Connection.handleRequest, Connection.queueBufferRegistration, haccept,
          Bool.not_false, if_true] at hc'
        split_ifs at hc'
        obtain ⟨_, -, hrefused⟩ := Connection.queueControl_eq_some hc'
        exact .inl ⟨(congrArg Connection.frames hrefused).symm,
          (congrArg Connection.buffers hrefused).symm⟩
    | submitted frame submission frames hsubmit =>
      exact .inr ⟨⟨bytes, _, hbytes, rfl⟩, .inr ⟨frame, submission, rfl, hsubmit, rfl⟩⟩
  released := htied.orderly.release
  whole := by
    intro hf control input present present' hsame
    have hexpand : ∀ damage, { c with control := none }.expandFirstPresentDamage dimensions damage =
        [⟨0, 0, dimensions.width, dimensions.height⟩] := fun damage => if_pos (h.full hf)
    have happly : ∀ afterSend, { c with control := none }.applyAfterSend dimensions present afterSend =
        { c with control := none }.applyAfterSend dimensions present' afterSend := by
      intro afterSend
      cases afterSend <;> simp only [Connection.applyAfterSend, hexpand, hsame]
    simp only [Connection.flushConnection, happly]

/-- Over every run the connection's two tables of buffers agree, and until a frame has been
presented only the whole display can be. -/
theorem mapped_buffers_are_the_registered_ones (dimensions : DisplayDimensions)
    (layout : FrameLayout) {s t : Service}
    {tr : List (Machine.Event Service Service.Event (List Traffic))} {c : Connection}
    (hs : (Service.machine dimensions layout).init s)
    (hrun : (Service.machine dimensions layout).Run s tr t) (hc : t.connection = some c) :
    Buffered dimensions (∀ e ∈ tr, e.before.presents e.input = false) c := by
  have hsettled := Service.run_settled hs hrun
  rw [hc] at hsettled
  obtain ⟨owed, -, htied, hmapped⟩ := hsettled
  exact hmapped.buffered htied

/-- After the registration the one buffer is mapped. -/
theorem registered_buffer_is_mapped : ∃ c : Connection,
    c.buffers = [7] ∧ Buffered panel True c := by
  let M := Service.machine panel panelLayout
  have hmapped : (M.final acceptedClient registering).connection.map Connection.buffers =
      some [7] := by
    decide +kernel
  obtain ⟨c, hc, hbuffers⟩ := Option.map_eq_some_iff.mp hmapped
  have hfresh : ∀ e ∈ M.trace acceptedClient registering, e.before.presents e.input = false := by
    decide +kernel
  have h := mapped_buffers_are_the_registered_ones panel panelLayout (s := acceptedClient) rfl
    (Service.allowed _ registering).run hc
  exact ⟨c, hbuffers, { h with whole := fun _ => h.whole hfresh }⟩

/-! ### Damage and the buffer -/

lemma FrameLayout.new_ok {width height : UInt32} {layout : FrameLayout}
    (h : FrameLayout.new width height = .ok layout) :
    layout.width = width ∧ layout.height = height ∧ layout.stride.toNat = 4 * width.toNat ∧
      layout.byteLength.toNat = 4 * width.toNat * height.toNat := by
  unfold FrameLayout.new at h
  split_ifs at h with hzero hstride hlength
  cases h
  have hwide : (width * 4).toNat = 4 * width.toNat := by
    rw [UInt32.toNat_mul, Nat.mul_comm, Nat.mod_eq_of_lt (by simpa [Nat.mul_comm] using hstride)]
    rfl
  rw [hwide] at hlength
  refine ⟨rfl, rfl, hwide, ?_⟩
  rw [UInt64.toNat_mul, UInt32.toNat_toUInt64, UInt32.toNat_toUInt64, hwide]
  exact Nat.mod_eq_of_lt (by omega)

/-- The pixel lies in the rectangle. -/
def DamageRectangle.Covers (rectangle : DamageRectangle) (x y : ℕ) : Prop :=
  (rectangle.x.toNat ≤ x ∧ x < rectangle.x.toNat + rectangle.width.toNat) ∧
    rectangle.y.toNat ≤ y ∧ y < rectangle.y.toNat + rectangle.height.toNat

lemma validateDamage_of_wire {s : FrameState UInt32 UInt64} {damage : List DamageRectangle}
    (hwidth : s.layout.width = dimensions.width) (hheight : s.layout.height = dimensions.height)
    (h : validateDamage damage dimensions = .ok ()) :
    ∃ normalized, s.validateDamage damage = .ok normalized ∧ ∀ rectangle ∈ normalized,
      rectangle.x.toNat + rectangle.width.toNat ≤ dimensions.width.toNat ∧
        rectangle.y.toNat + rectangle.height.toNat ≤ dimensions.height.toNat := by
  obtain ⟨hlength, h⟩ := Except.of_ite_error_ok h
  obtain ⟨hinside, -⟩ := Except.of_ite_error_ok h
  have hall : ∀ rectangle ∈ damage,
      rectangle.x.toNat + rectangle.width.toNat ≤ dimensions.width.toNat ∧
        rectangle.y.toNat + rectangle.height.toNat ≤ dimensions.height.toNat := by
    intro rectangle hmem
    have hrectangle := List.any_eq_false.mp (Bool.eq_false_iff.mpr hinside) rectangle hmem
    simp only [DamageRectangle.outside, decide_eq_true_eq] at hrectangle
    omega
  unfold FrameState.validateDamage
  rw [if_neg hlength, hwidth, hheight]
  cases damage with
  | nil => exact ⟨_, rfl, by simp⟩
  | cons rectangle rest =>
    refine ⟨rectangle :: rest, ?_, hall⟩
    rw [if_neg (by simp), if_neg]
    intro hany
    obtain ⟨outside, hmem, hout⟩ := List.any_eq_true.mp hany
    have hin := hall outside hmem
    simp only [decide_eq_true_eq] at hout
    omega

/-- What the decoder accepts, the frame state accepts for a free buffer, and each pixel of the
damage has its bytes in the buffer.  The sums and products are those of natural numbers: none
of them passes the type the source computes it in. -/
theorem accepted_damage_lies_in_the_buffer {dimensions : DisplayDimensions} {layout : FrameLayout}
    {bytes : Bytes} {ancillary : AncillaryMetadata} {requestId : UInt32} {frame : SubmitFrame}
    {earlier registered s : FrameState UInt32 UInt64} {metadata : VerifiedBufferMetadata}
    (hlayout : FrameLayout.new dimensions.width dimensions.height = .ok layout)
    (hdecode : decodeClient bytes ancillary (some dimensions) = .ok ⟨requestId, .submitFrame frame⟩)
    (hearlier : earlier.layout = layout)
    (hregister : earlier.registerBuffer frame.bufferId metadata = .ok registered)
    (hs : s.layout = layout) : ∃ damage, s.validateDamage frame.damage = .ok damage ∧
      (∀ buffer, s.buffers.find? (·.id = frame.bufferId) = some buffer → buffer.inFlight = none →
        s.submitFrame frame.bufferId frame.frameId frame.damage =
          .ok (⟨buffer.id, frame.frameId, damage⟩,
            s.setInFlight frame.bufferId (some frame.frameId))) ∧
      metadata.stride.toNat = 4 * dimensions.width.toNat ∧
      metadata.byteLength.toNat = metadata.stride.toNat * dimensions.height.toNat ∧
      ∀ rectangle ∈ damage, rectangle.x.toNat + rectangle.width.toNat < 2 ^ 32 ∧
        rectangle.y.toNat + rectangle.height.toNat < 2 ^ 32 ∧ ∀ x y, rectangle.Covers x y →
          y * metadata.stride.toNat + 4 * x + 4 ≤ metadata.byteLength.toNat := by
  obtain ⟨hwidth, hheight, hstride, hlength⟩ := FrameLayout.new_ok hlayout
  obtain ⟨-, -, hwire⟩ := checks_of_decodeClient hdecode
  obtain ⟨damage, hdamage, hinside⟩ := validateDamage_of_wire (s := s) (by rw [hs, hwidth])
    (by rw [hs, hheight]) (hwire dimensions rfl)
  obtain ⟨rfl, -⟩ := FrameState.registerBuffer_ok hregister
  rw [hearlier, hlength, hstride]
  refine ⟨damage, hdamage, ?_, rfl, rfl, ?_⟩
  · intro buffer hfind hfree
    unfold FrameState.submitFrame
    rw [hfind]
    simp [hfree, hdamage]
  intro rectangle hmem
  obtain ⟨hright, hbottom⟩ := hinside rectangle hmem
  refine ⟨hright.trans_lt dimensions.width.toNat_lt, hbottom.trans_lt dimensions.height.toNat_lt, ?_⟩
  rintro x y ⟨⟨-, hx⟩, -, hy⟩
  calc y * (4 * dimensions.width.toNat) + 4 * x + 4
      ≤ y * (4 * dimensions.width.toNat) + 4 * dimensions.width.toNat := by omega
    _ = (y + 1) * (4 * dimensions.width.toNat) := (Nat.succ_mul _ _).symm
    _ ≤ dimensions.height.toNat * (4 * dimensions.width.toNat) :=
      Nat.mul_le_mul_right _ (by omega)
    _ = 4 * dimensions.width.toNat * dimensions.height.toNat := Nat.mul_comm _ _

/-- The last pixel of the panel, in a registered buffer. -/
theorem corner_damage_lies_in_the_buffer : ∃ registered damage, (FrameState.new panelLayout :
    FrameState UInt32 UInt64).registerBuffer 7 ⟨8, 24⟩ = .ok registered ∧
    registered.submitFrame 7 1 [⟨1, 2, 1, 1⟩] =
      .ok (⟨7, 1, damage⟩, registered.setInFlight 7 (some 1)) ∧
    ∀ rectangle ∈ damage, ∀ x y, rectangle.Covers x y → y * 8 + 4 * x + 4 ≤ 24 := by
  let frame : SubmitFrame := ⟨7, 1, [⟨1, 2, 1, 1⟩]⟩
  have hpacket : ∃ packet, encodeClient ⟨1, .submitFrame frame⟩ (some panel) = .ok packet :=
    ⟨_, rfl⟩
  obtain ⟨packet, hpacket⟩ := hpacket
  let registered : FrameState UInt32 UInt64 :=
    ⟨panelLayout, [⟨7, none⟩], by decide⟩
  have hregister : (FrameState.new panelLayout).registerBuffer frame.bufferId ⟨8, 24⟩ =
      .ok registered := rfl
  obtain ⟨damage, -, hsubmit, -, -, hcovered⟩ := accepted_damage_lies_in_the_buffer rfl
    (decodeClient_ok.mpr ⟨hpacket, rfl⟩) rfl hregister (rfl : registered.layout = panelLayout)
  exact ⟨registered, damage, rfl, hsubmit _ rfl rfl,
    fun rectangle hmem => (hcovered rectangle hmem).2.2⟩

end T1Bridge.TouchBar
