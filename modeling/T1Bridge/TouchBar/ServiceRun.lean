import T1Bridge.TouchBar.Service

/-! # Every request is answered once, and before the next one is read

`Tied frames control owed` reads off the two fields of a connection that matter, the registry
of frames and the control slot, which packets it still owes.  Each part of the loop turns a connection
that is `Settled` with the traffic so far into one that is settled with the traffic
afterwards; the rest follows over the run. -/

namespace T1Bridge.TouchBar

variable {message : ServiceMessage} {afterSend : AfterSend} {requestId : UInt32}
  {ancillary : AncillaryMetadata} {frame : SubmitFrame}

/-! ### The account of a connection -/

/-- A message that ends a request, other than the refusal of a buffer in flight. -/
def ServiceMessage.Terminal (message : ServiceMessage) : Prop :=
  message.messageType.messageClass = .response ∧ message ≠ .error .bufferBusy

/-- The packets a request calls for: one response, and after the acknowledgement of a frame
its release. -/
inductive Exchange (dimensions : DisplayDimensions) :
    Envelope ClientMessage → List Bytes → Prop
  | answered (request : Envelope ClientMessage) (response : ServiceMessage)
      (phase : Option DisplayDimensions) (bytes : Bytes) (hterminal : response.Terminal)
      (hack : response = .ack → ∀ frame, request.message ≠ .submitFrame frame)
      (hbytes : encodeService ⟨request.requestId, response⟩ phase = .ok bytes) :
      Exchange dimensions request [bytes]
  | presented (requestId : UInt32) (frame : SubmitFrame) (ack released : Bytes)
      (hack : encodeService ⟨requestId, .ack⟩ (some dimensions) = .ok ack)
      (hreleased : encodeService ⟨0, .frameReleased ⟨frame.bufferId, frame.frameId⟩⟩
        (some dimensions) = .ok released) :
      Exchange dimensions ⟨requestId, .submitFrame frame⟩ [ack, released]

section

variable (dimensions : DisplayDimensions)

/-- The traffic of a connection with the packets it still owes; `none` once it is revoked. -/
inductive Account : List Traffic → Option (List Bytes) → Prop
  | start : Account [] (some [])
  | request (log : List Traffic) (request : Envelope ClientMessage) (owed : List Bytes)
      (h : Account log (some [])) (hexchange : Exchange dimensions request owed) :
      Account (log ++ [.request request]) (some owed)
  | control (log : List Traffic) (bytes : Bytes) (owed : List Bytes)
      (h : Account log (some (bytes :: owed))) :
      Account (log ++ [.control bytes]) (some owed)
  | input (log : List Traffic) (bytes : Bytes) (h : Account log (some [])) :
      Account (log ++ [.input bytes]) (some [])
  | refused (log : List Traffic) (packet : Bytes) (h : Account log (some [])) :
      Account (log ++ [.refused packet]) none
  | revoked (log : List Traffic) (owed : List Bytes) (h : Account log (some owed)) :
      Account log none

end

/-! ### What a connection owes -/

/-- The follow-up does not concern a frame. -/
def AfterSend.plain : AfterSend → Bool
  | .present .. | .release .. => false
  | _ => true

section

variable (dimensions : DisplayDimensions) (frames : FrameState UInt32 UInt64)

/-- The control slot and the frames agree with the packets owed. -/
inductive Tied : Option PendingPacket → List Bytes → Prop
  | clear (hidle : frames.Idle) : Tied none []
  | answering (bytes : Bytes) (afterSend : AfterSend) (hplain : afterSend.plain = true)
      (hidle : frames.Idle) : Tied (some ⟨bytes, afterSend⟩) [bytes]
  | presenting (bytes released : Bytes) (bufferId : UInt32) (frameId : UInt64)
      (damage : List DamageRectangle) (hcarries : frames.Carries bufferId frameId)
      (hreleased : encodeService ⟨0, .frameReleased ⟨bufferId, frameId⟩⟩ (some dimensions) =
        .ok released) :
      Tied (some ⟨bytes, .present bufferId frameId damage⟩) [bytes, released]
  | releasing (bytes : Bytes) (bufferId : UInt32) (frameId : UInt64) (closeAfter : Bool)
      (hcarries : frames.Carries bufferId frameId) :
      Tied (some ⟨bytes, .release bufferId frameId closeAfter⟩) [bytes]

end

/-- The flush sends the acknowledgement of a frame, and so presents it. -/
def Service.presents (s : Service) : Service.Event → Bool
  | .flush ⟨.sent, _, _⟩ =>
    match s.connection >>= Connection.control with
    | some ⟨_, .present ..⟩ => true
    | _ => false
  | _ => false

/-- `fresh` stands for a connection that has not presented a frame. -/
structure Mapped (fresh : Prop) (buffers : List UInt32) (frames : FrameState UInt32 UInt64)
    (needsFullPresent : Bool) : Prop where
  ids : buffers = frames.ids
  few : buffers.length ≤ maxRegisteredBuffers
  full : fresh → needsFullPresent = true

variable {dimensions : DisplayDimensions} {c c' : Connection} {log : List Traffic} {fresh : Prop}
  {owed : List Bytes} {actions : HardwareActions} {answers : Answers} {bytes : Bytes}
  {phase : Option DisplayDimensions}

/-- The traffic so far is an account of what the connection owes, and its buffers are mapped. -/
def Settled (dimensions : DisplayDimensions) (fresh : Prop) (log : List Traffic) :
    Option Connection → Prop
  | none => Account dimensions log none
  | some c => ∃ owed, Account dimensions log (some owed) ∧
      Tied dimensions c.frames c.control owed ∧
      Mapped fresh c.buffers c.frames c.needsFullPresent

lemma Settled.revoke (h : Settled dimensions fresh log (some c)) :
    Settled dimensions fresh (log ++ []) none := by
  obtain ⟨owed, haccount, -⟩ := h
  rw [List.append_nil]
  exact .revoked log owed haccount

lemma Settled.mono {fresh' : Prop} {connection : Option Connection}
    (h : Settled dimensions fresh log connection) (himp : fresh' → fresh) :
    Settled dimensions fresh' log connection := by
  cases connection with
  | none => exact h
  | some c =>
    obtain ⟨owed, haccount, htied, hmapped⟩ := h
    exact ⟨owed, haccount, htied, hmapped.ids, hmapped.few, fun hf => hmapped.full (himp hf)⟩

/-! ### Requests -/

lemma encodeService_frameReleased (dimensions : DisplayDimensions) {bufferId : UInt32}
    {frameId : UInt64} (hbuffer : validateNonzero bufferId = .ok ())
    (hframe : validateNonzero frameId = .ok ()) :
    ∃ bytes, encodeService ⟨0, .frameReleased ⟨bufferId, frameId⟩⟩ (some dimensions) =
      .ok bytes := by
  have hpayload : (ServiceMessage.frameReleased ⟨bufferId, frameId⟩).encodePayload
      (some dimensions) = .ok (record [.of bufferId, .of frameId]) := by
    dsimp only [ServiceMessage.encodePayload]
    rw [Except.ok_bind hbuffer, Except.ok_bind hframe]
    rfl
  have hpacket : ∃ bytes, Packet.encode ⟨MessageType.frameReleased.wireValue, 0,
      record [.of bufferId, .of frameId]⟩ = .ok bytes := by
    exact ⟨_, rfl⟩
  obtain ⟨bytes, hbytes⟩ := hpacket
  exact ⟨bytes, encodeService_ok.mpr ⟨rfl, rfl, _, hpayload, Packet.decode_ok.mpr hbytes⟩⟩

/-- The identifiers of a frame that was read are not zero, and its damage lies on the display. -/
lemma checks_of_decodeClient
    (h : decodeClient bytes ancillary phase = .ok ⟨requestId, .submitFrame frame⟩) :
    validateNonzero frame.bufferId = .ok () ∧ validateNonzero frame.frameId = .ok () ∧
      ∀ display ∈ phase, validateDamage frame.damage display = .ok () := by
  obtain ⟨-, -, payload, hpayload, -⟩ := encodeClient_ok.mp (decodeClient_ok.mp h).1
  cases phase with
  | none => cases hpayload
  | some display =>
    obtain ⟨hbuffer, hrest⟩ := Except.unit_bind_eq_ok.mp hpayload
    obtain ⟨hframe, hrest⟩ := Except.unit_bind_eq_ok.mp hrest
    obtain ⟨hdamage, -⟩ := Except.unit_bind_eq_ok.mp hrest
    exact ⟨hbuffer, hframe, by simpa using hdamage⟩

lemma HardwareActions.apply_terminal (kind : BrightnessKind) (found : Bool) :
    (actions.apply kind found answers).1.Terminal := by
  unfold HardwareActions.apply
  split_ifs <;> exact ⟨rfl, by simp⟩

lemma cancellationResponse_terminal (outcome : Option CancelTouchIdOutcome) :
    (cancellationResponse outcome).Terminal := by
  rcases outcome with _ | _ | _ <;> exact ⟨rfl, by simp [cancellationResponse]⟩

lemma frameErrorCode_ne {error : FrameStateError} (h : error ≠ .bufferInFlight) :
    frameErrorCode error ≠ .bufferBusy := by
  cases error <;> first | exact absurd rfl h | simp [frameErrorCode]

/-- The request has been read, and the connection owes what it calls for. -/
def Answered (dimensions : DisplayDimensions) (request : Envelope ClientMessage)
    (c' : Connection) : Prop :=
  ∃ owed, Exchange dimensions request owed ∧ Tied dimensions c'.frames c'.control owed

/-- What a request makes of a connection, with the answer that is queued after it. -/
inductive Handled (dimensions : DisplayDimensions) (c : Connection) :
    ClientMessage → Connection → ServiceMessage → Option DisplayDimensions → AfterSend → Prop
  | answered (request : ClientMessage) (response : ServiceMessage)
      (phase : Option DisplayDimensions) (afterSend : AfterSend) (hterminal : response.Terminal)
      (hack : response = .ack → ∀ frame, request ≠ .submitFrame frame)
      (hplain : afterSend.plain = true) : Handled dimensions c request c response phase afterSend
  | registered (buffer : RegisterBuffer) (frames : FrameState UInt32 UInt64)
      (hregister : c.frames.registerBuffer buffer.bufferId ⟨buffer.stride, buffer.byteLength⟩ =
        .ok frames) :
      Handled dimensions c (.registerBuffer buffer)
        { c with frames, buffers := c.buffers ++ [buffer.bufferId] } .ack (some dimensions) .none
  | submitted (frame : SubmitFrame) (submission : ValidatedSubmission UInt32 UInt64)
      (frames : FrameState UInt32 UInt64)
      (hsubmit : c.frames.submitFrame frame.bufferId frame.frameId frame.damage =
        .ok (submission, frames)) :
      Handled dimensions c (.submitFrame frame) { c with frames } .ack (some dimensions)
        (.present submission.bufferId submission.frameId submission.damage)
  | refused (frame : SubmitFrame) (error : FrameStateError)
      (hsubmit : c.frames.submitFrame frame.bufferId frame.frameId frame.damage = .error error) :
      Handled dimensions c (.submitFrame frame) c (.error (frameErrorCode error))
        (c.phaseDimensions dimensions) .none

/-- The request has been handled and its answer is queued. -/
def Queued (dimensions : DisplayDimensions) (c : Connection) (request : Envelope ClientMessage)
    (c' : Connection) : Prop :=
  ∃ c1 response phase afterSend, Handled dimensions c request.message c1 response phase afterSend ∧
    c1.queueControl request.requestId response phase afterSend = some c'

variable {request : Envelope ClientMessage}

namespace Connection

lemma queueControl_eq_some (h : c.queueControl requestId message phase afterSend = some c') :
    ∃ bytes, encodeService ⟨requestId, message⟩ phase = .ok bytes ∧
      { c with control := some ⟨bytes, afterSend⟩ } = c' := by
  unfold queueControl at h
  split at h
  · next bytes hbytes => exact ⟨bytes, hbytes, Option.some.inj h⟩
  · cases h

lemma queueControl_queued (hterminal : message.Terminal)
    (hack : message = .ack → ∀ frame, request.message ≠ .submitFrame frame)
    (hplain : afterSend.plain = true)
    (h : c.queueControl request.requestId message phase afterSend = some c') :
    Queued dimensions c request c' :=
  ⟨c, message, phase, afterSend, .answered _ _ _ _ hterminal hack hplain, h⟩

lemma queueBufferRegistration_queued {buffer : RegisterBuffer} {accept : Bool}
    (h : c.queueBufferRegistration dimensions requestId buffer accept = some c') :
    Queued dimensions c ⟨requestId, .registerBuffer buffer⟩ c' := by
  unfold queueBufferRegistration at h
  split_ifs at h
  · exact queueControl_queued ⟨rfl, by simp⟩ (by simp) rfl h
  split at h
  · next frames hregister => exact ⟨_, _, _, _, .registered buffer frames hregister, h⟩
  next error hregister =>
  have hcode : frameErrorCode error ≠ .bufferBusy := by
    refine frameErrorCode_ne ?_
    rintro rfl
    unfold FrameState.registerBuffer at hregister
    split_ifs at hregister <;> cases hregister
  exact queueControl_queued ⟨rfl, by simpa using hcode⟩ (by simp) rfl h

lemma queueFrameSubmission_queued
    (h : c.queueFrameSubmission dimensions requestId frame = some c') :
    Queued dimensions c ⟨requestId, .submitFrame frame⟩ c' := by
  unfold queueFrameSubmission at h
  split at h
  · next submission frames hsubmit =>
    exact ⟨_, _, _, _, .submitted frame submission frames hsubmit, h⟩
  · next error hsubmit => exact ⟨_, _, _, _, .refused frame error hsubmit, h⟩

lemma handleRequest_queued {descriptor : Bool}
    (h : (c.handleRequest dimensions actions request descriptor answers).1 = some c') :
    Queued dimensions c request c' := by
  obtain ⟨requestId, message⟩ := request
  unfold handleRequest at h
  cases message with
  | hello hello =>
    dsimp only [queueHello] at h
    split_ifs at h <;> exact queueControl_queued ⟨rfl, by simp⟩ (by simp) rfl h
  | registerBuffer buffer =>
    split_ifs at h
    exact queueBufferRegistration_queued h
  | submitFrame frame => exact queueFrameSubmission_queued h
  | tapKeys keys =>
    dsimp only [queueKeys] at h
    split_ifs at h <;> exact queueControl_queued ⟨rfl, by simp⟩ (by simp) rfl h
  | cancelTouchId => exact queueControl_queued (cancellationResponse_terminal _) (by simp) rfl h
  | setDisplayBrightness | setKeyboardBacklight =>
    exact queueControl_queued (HardwareActions.apply_terminal _ _) (by simp) rfl h
  | stepDisplayBrightness | stepKeyboardBacklight =>
    dsimp only [queueBrightnessStep] at h
    split_ifs at h
    · exact queueControl_queued ⟨rfl, by simp⟩ (by simp) rfl h
    · exact queueControl_queued (HardwareActions.apply_terminal _ _) (by simp) rfl h
  | unknown => exact queueControl_queued ⟨rfl, by simp⟩ (by simp) rfl h

end Connection

lemma Queued.answered (h : Queued dimensions c request c') (hidle : c.frames.Idle)
    (hdecode : decodeClient bytes ancillary phase = .ok request) :
    Answered dimensions request c' := by
  obtain ⟨c1, response, phase, afterSend, hhandled, h⟩ := h
  obtain ⟨requestId, message⟩ := request
  obtain ⟨bytes, hbytes, rfl⟩ := Connection.queueControl_eq_some h
  cases hhandled with
  | answered _ _ _ _ hterminal hack hplain =>
    exact ⟨[bytes], .answered _ response phase bytes hterminal hack hbytes,
      .answering bytes afterSend hplain hidle⟩
  | registered buffer frames hregister =>
    exact ⟨[bytes], .answered _ .ack _ bytes ⟨rfl, by simp⟩ (by simp) hbytes,
      .answering bytes .none rfl (hidle.registerBuffer hregister)⟩
  | submitted frame submission frames hsubmit =>
    obtain ⟨hbuffer, hframe, -⟩ := checks_of_decodeClient hdecode
    obtain ⟨hbufferId, hframeId, hcarries⟩ := hidle.submitFrame hsubmit
    obtain ⟨released, hreleased⟩ := encodeService_frameReleased dimensions hbuffer hframe
    refine ⟨[bytes, released], .presented requestId frame bytes released hbytes hreleased, ?_⟩
    rw [hbufferId, hframeId]
    exact .presenting bytes released _ _ _ hcarries hreleased
  | refused frame error hsubmit =>
    have hcode : frameErrorCode error ≠ .bufferBusy := by
      refine frameErrorCode_ne ?_
      rintro rfl
      exact hidle.submitFrame_ne frame.damage hsubmit
    exact ⟨[bytes], .answered _ _ _ bytes ⟨rfl, by simpa using hcode⟩ (by simp) hbytes,
      .answering bytes .none rfl hidle⟩

lemma Queued.mapped (h : Queued dimensions c request c')
    (hmapped : Mapped fresh c.buffers c.frames c.needsFullPresent) :
    Mapped fresh c'.buffers c'.frames c'.needsFullPresent := by
  obtain ⟨c1, response, phase, afterSend, hhandled, h⟩ := h
  obtain ⟨requestId, message⟩ := request
  obtain ⟨bytes, -, rfl⟩ := Connection.queueControl_eq_some h
  obtain ⟨hids, hfew, hfull⟩ := hmapped
  cases hhandled with
  | answered | refused => exact ⟨hids, hfew, hfull⟩
  | registered buffer frames hregister =>
    obtain ⟨-, hregistered, hroom⟩ := FrameState.registerBuffer_ok hregister
    rw [← hids] at hregistered hroom
    exact ⟨hregistered.symm, by simpa using Nat.succ_le_of_lt (hfew.lt_of_ne hroom), hfull⟩
  | submitted frame submission frames hsubmit =>
    exact ⟨hids.trans (FrameState.submitFrame_ids hsubmit).symm, hfew, hfull⟩

namespace Connection

section

variable (h : Settled dimensions fresh log (some c))

include h

lemma receiveRequest_settled (hcontrol : c.control = none) (reception : Reception) :
    Settled dimensions fresh (log ++ (c.receiveRequest dimensions actions reception answers).1)
      (c.receiveRequest dimensions actions reception answers).2.1 := by
  have hkept := h
  obtain ⟨owed, haccount, htied, hmapped⟩ := h
  rw [hcontrol] at htied
  obtain ⟨hidle⟩ := htied
  unfold receiveRequest
  split
  · simpa using hkept
  · exact hkept.revoke
  next bytes descriptor =>
  split
  · exact .refused log bytes haccount
  next request hdecode =>
  cases hhandle : c.handleRequest dimensions actions request descriptor answers with
  | mk connection actions' =>
    cases connection with
    | none => exact .refused log bytes haccount
    | some c' =>
      have hqueued := handleRequest_queued (congrArg Prod.fst hhandle)
      obtain ⟨owed, hexchange, htied⟩ := hqueued.answered hidle hdecode
      exact ⟨owed, .request log request owed haccount hexchange, htied, hqueued.mapped hmapped⟩

/-! ### Flushing -/

lemma flushInput_settled (send : Sending) :
    Settled dimensions fresh (log ++ (c.flushInput send).1) (c.flushInput send).2 := by
  unfold flushInput
  split
  · next input hcontrol hinput =>
    have hkept := h
    obtain ⟨owed, haccount, htied, hmapped⟩ := h
    rw [hcontrol] at htied
    obtain ⟨hidle⟩ := htied
    cases send with
    | sent => exact ⟨[], .input log input haccount, hcontrol ▸ .clear hidle, hmapped⟩
    | wouldBlock => simpa using hkept
    | failed => exact hkept.revoke
  · simpa using h

/-- The pending packet has gone out: what it stands for is done, or the connection ends. -/
lemma applyAfterSend_settled {pending : PendingPacket} (hcontrol : c.control = some pending)
    (present : UInt32 → List DamageRectangle → Bool)
    (hfresh : fresh → ∀ bufferId frameId damage,
      pending.afterSend ≠ .present bufferId frameId damage) :
    Settled dimensions fresh (log ++ [.control pending.bytes])
      ({ c with control := none }.applyAfterSend dimensions present pending.afterSend) := by
  obtain ⟨owed, haccount, htied, hmapped⟩ := h
  rw [hcontrol] at htied
  cases htied with
  | answering bytes afterSend hplain hidle =>
    have hsent := Account.control log bytes [] haccount
    cases afterSend with
    | none | establish minor => exact ⟨[], hsent, .clear hidle, hmapped⟩
    | close => exact .revoked _ _ hsent
    | present => cases hplain
    | release => cases hplain
  | presenting bytes released bufferId frameId damage hcarries hreleased =>
    dsimp only [applyAfterSend, queueControl]
    rw [hreleased]
    exact ⟨[released], .control log bytes [released] haccount,
      .releasing released bufferId frameId _ hcarries, hmapped.ids, hmapped.few,
      fun hf => absurd rfl (hfresh hf bufferId frameId damage)⟩
  | releasing bytes bufferId frameId closeAfter hcarries =>
    obtain ⟨frames, hrelease, hidle⟩ := hcarries.releaseFrame
    have hsent := Account.control log bytes [] haccount
    dsimp only [applyAfterSend]
    rw [hrelease]
    cases closeAfter with
    | true => exact .revoked _ _ hsent
    | false =>
      exact ⟨[], hsent, .clear hidle,
        hmapped.ids.trans (FrameState.releaseFrame_ids hrelease).symm, hmapped.few, hmapped.full⟩

lemma flushConnection_settled (answers : Flushing)
    (hfresh : fresh → answers.control = .sent → ∀ pending ∈ c.control,
      ∀ bufferId frameId damage, pending.afterSend ≠ .present bufferId frameId damage) :
    Settled dimensions fresh (log ++ (c.flushConnection dimensions answers).1)
      (c.flushConnection dimensions answers).2 := by
  unfold flushConnection
  split
  · exact flushInput_settled h answers.input
  next pending hcontrol =>
  split
  · simpa using h
  · exact h.revoke
  next hsent =>
  have happlied := applyAfterSend_settled h hcontrol answers.present
    fun hf => hfresh hf hsent pending hcontrol
  split
  · next hnone =>
    rw [hnone] at happlied
    exact happlied
  · next c' hsome =>
    rw [hsome] at happlied
    simpa using flushInput_settled happlied answers.input

end

lemma queueInput_eq (c : Connection) (dimensions : DisplayDimensions) (frame : WireInputFrame) :
    ∃ input, c.queueInput dimensions frame = { c with input } := by
  unfold queueInput
  split_ifs
  · exact ⟨c.input, rfl⟩
  split
  · exact ⟨_, rfl⟩
  · exact ⟨c.input, rfl⟩

end Connection

/-! ### Runs -/

lemma Service.step_settled {s : Service} (h : Settled dimensions fresh log s.connection)
    (event : Service.Event) (hfresh : fresh → s.presents event = false) :
    Settled dimensions fresh (log ++ (s.step dimensions event).1)
      (s.step dimensions event).2.connection := by
  obtain ⟨connection, actions⟩ := s
  cases connection with
  | none => simpa [Service.step] using h
  | some c =>
    cases event with
    | revalidate retained =>
      cases retained with
      | true => simpa [Service.step] using h
      | false => exact h.revoke
    | flush answers =>
      refine c.flushConnection_settled h answers ?_
      intro hf hsent pending hcontrol bufferId frameId damage heq
      obtain ⟨bytes, afterSend⟩ := pending
      obtain ⟨control, present, input⟩ := answers
      subst hsent heq
      have hnone := hfresh hf
      simp [Service.presents, Option.mem_def.mp hcontrol] at hnone
    | receive reception answers =>
      dsimp only [Service.step]
      split_ifs with hpending
      · simpa using h
      · exact c.receiveRequest_settled h (by simpa using hpending) reception
    | input frame =>
      obtain ⟨input, hinput⟩ := c.queueInput_eq dimensions frame
      simp only [Service.step, hinput, List.append_nil]
      exact h

lemma Service.run_settled {layout : FrameLayout} {s t : Service}
    {tr : List (Machine.Event Service Service.Event (List Traffic))}
    (hs : (Service.machine dimensions layout).init s)
    (hrun : (Service.machine dimensions layout).Run s tr t) :
    Settled dimensions (∀ e ∈ tr, e.before.presents e.input = false) (tr.flatMap (·.output))
      t.connection := by
  refine hrun.history (P := fun tr t => Settled dimensions
    (∀ e ∈ tr, e.before.presents e.input = false) (tr.flatMap (·.output)) t.connection) ?_ ?_
  · rw [hs]
    exact ⟨[], .start, .clear (by simp [Connection.new, FrameState.new, FrameState.Idle]), rfl,
      Nat.zero_le _, fun _ => rfl⟩
  · intro tr e _ hfires h
    rw [List.flatMap_append, List.flatMap_singleton, hfires.output_eq, hfires.after_eq]
    exact Service.step_settled (h.mono fun hf f hmem => hf f (List.mem_append_left _ hmem))
      e.input fun hf => hf e List.mem_concat_self

/-- What holds of a connection that owes the packets `owed`. -/
structure Orderly (dimensions : DisplayDimensions) (c : Connection) (owed : List Bytes) : Prop where
  /-- the control slot holds the first of them -/
  pending : c.control.map PendingPacket.bytes = owed.head?
  single : c.frames.inFlightCount ≤ 1
  /-- a frame whose release is being sent can be released -/
  release : ∀ bytes bufferId frameId closeAfter,
    c.control = some ⟨bytes, .release bufferId frameId closeAfter⟩ →
      ∃ frames, c.frames.releaseFrame bufferId frameId = .ok frames
  /-- when a request is read, no buffer is in flight -/
  submit : c.control = none → ∀ bufferId frameId damage,
    c.frames.submitFrame bufferId frameId damage ≠ .error .bufferInFlight
  input : ∀ frame, (c.queueInput dimensions frame).control = c.control

lemma Tied.orderly (h : Tied dimensions c.frames c.control owed) : Orderly dimensions c owed := by
  have hinput : ∀ frame, (c.queueInput dimensions frame).control = c.control :=
    fun frame => by
      obtain ⟨input, hinput⟩ := c.queueInput_eq dimensions frame
      rw [hinput]
  generalize hcontrol : c.control = control at h
  cases h with
  | clear hidle =>
    refine ⟨by simp [hcontrol], by simp [hidle.inFlightCount], by simp [hcontrol], ?_, hinput⟩
    exact fun _ _ _ damage => hidle.submitFrame_ne damage
  | answering bytes afterSend hplain hidle =>
    refine ⟨by simp [hcontrol], by simp [hidle.inFlightCount], ?_, by simp [hcontrol], hinput⟩
    intro _ _ _ _ hrelease
    cases hcontrol.symm.trans hrelease
    cases hplain
  | presenting bytes released bufferId frameId damage hcarries =>
    exact ⟨by simp [hcontrol], hcarries.inFlightCount_le, by simp [hcontrol],
      by simp [hcontrol], hinput⟩
  | releasing bytes bufferId frameId closeAfter hcarries =>
    refine ⟨by simp [hcontrol], hcarries.inFlightCount_le, ?_, by simp [hcontrol], hinput⟩
    intro _ _ _ _ hrelease
    cases hcontrol.symm.trans hrelease
    obtain ⟨frames, hok, -⟩ := hcarries.releaseFrame
    exact ⟨frames, hok⟩

/-- Over every run the traffic is an account: each request is answered once and each
acknowledged frame released once before the next request is read, no answer refuses a buffer
in flight, and input goes out only in between.  While the connection lasts, its control slot
holds the packet that is owed next. -/
theorem touchBar_service_answers_in_order (dimensions : DisplayDimensions) (layout : FrameLayout)
    {s t : Service} {tr : List (Machine.Event Service Service.Event (List Traffic))}
    (hs : (Service.machine dimensions layout).init s)
    (hrun : (Service.machine dimensions layout).Run s tr t) :
    match t.connection with
    | none => Account dimensions (tr.flatMap (·.output)) none
    | some c => ∃ owed, Account dimensions (tr.flatMap (·.output)) (some owed) ∧
        Orderly dimensions c owed := by
  have hsettled := Service.run_settled hs hrun
  generalize t.connection = connection at hsettled
  cases connection with
  | none => exact hsettled
  | some c =>
    obtain ⟨owed, haccount, htied, -⟩ := hsettled
    exact ⟨owed, haccount, htied.orderly⟩

/-! ### A client that shows a frame -/

/-- A display of two by three pixels. -/
def panel : DisplayDimensions := ⟨2, 3, by decide, by decide⟩

/-- What the buffers of the panel look like. -/
def panelLayout : FrameLayout := ⟨2, 3, 8, 24⟩

/-- The service of the panel has accepted a client. -/
def acceptedClient : Service := ⟨some (.new panelLayout), ⟨fun _ => false, fun _ => none⟩⟩

/-- The client's packet arrives. -/
def sentBy (requestId : UInt32) (message : ClientMessage) (phase : Option DisplayDimensions)
    (descriptor : Bool) : Service.Event :=
  .receive (.packet ((encodeClient ⟨requestId, message⟩ phase).toOption.getD []) descriptor)
    ⟨true, fun _ => false, false, none, 0, fun _ _ => false, fun _ _ => false, false⟩

def flushing (control : Sending) : Service.Event := .flush ⟨control, fun _ _ => true, .sent⟩

/-- The client says hello and registers a buffer. -/
def registering : List Service.Event :=
  [sentBy 1 (.hello ⟨0, ⟨0⟩⟩) none false, flushing .sent,
    sentBy 2 (.registerBuffer ⟨7, 8, 24⟩) (some panel) true]

/-- Then it submits a frame; the acknowledgement has to wait, and a touch comes in meanwhile. -/
def showing : List Service.Event := registering ++
  [flushing .sent, sentBy 3 (.submitFrame ⟨7, 1, []⟩) (some panel) false, flushing .wouldBlock,
    .input ⟨5, false, [⟨0, true, true, 1, 2⟩]⟩, flushing .sent, flushing .sent]

/-- The identifier of a request, or whether it is input that was sent. -/
def Traffic.summary : Traffic → UInt32 ⊕ Bool
  | .request envelope => .inl envelope.requestId
  | .input _ => .inr true
  | _ => .inr false

lemma Service.allowed {layout : FrameLayout} (s : Service) (events : List Service.Event) :
    (Service.machine dimensions layout).Allowed s events := by
  induction events generalizing s with
  | nil => trivial
  | cons event events ih => exact ⟨trivial, ih _⟩

/-- The frame is acknowledged and released, then the touch goes out, and nothing is owed. -/
theorem touchBar_service_answers_in_order_frame : ∃ (c : Connection) (log : List Traffic),
    c.buffers = [7] ∧ log.map Traffic.summary = [.inl 1, .inr false, .inl 2, .inr false, .inl 3,
      .inr false, .inr false, .inr true] ∧ Account panel log (some []) ∧ Orderly panel c [] := by
  let M := Service.machine panel panelLayout
  have hend : (M.final acceptedClient showing).connection.map (fun c =>
      (c.buffers, c.control.isSome)) = some ([7], false) := by
    decide +kernel
  have hlog : ((M.trace acceptedClient showing).flatMap (·.output)).map Traffic.summary =
      [.inl 1, .inr false, .inl 2, .inr false, .inl 3, .inr false, .inr false, .inr true] := by
    decide +kernel
  obtain ⟨c, hc, hbuffers, hcontrol⟩ := by simpa using hend
  have h := touchBar_service_answers_in_order panel panelLayout (s := acceptedClient) rfl
    (Service.allowed _ showing).run
  rw [hc] at h
  obtain ⟨owed, haccount, horderly⟩ := h
  have howed : owed = [] := by
    have hpending := horderly.pending
    rw [hcontrol] at hpending
    exact List.head?_eq_none_iff.mp hpending.symm
  subst howed
  exact ⟨c, _, hbuffers, hlog, haccount, horderly⟩

end T1Bridge.TouchBar
