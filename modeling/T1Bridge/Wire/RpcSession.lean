import T1Bridge.Wire.Rpc
import T1Bridge.Wire.Transport

/-! # Calls

A call sends its request and then reads frames until the reply is there.  The requests of the peer
that arrive meanwhile are answered, and what they report is kept for later.  `Account` is the
account of a call: the frames it passed over, what it wrote and what it kept. -/

namespace T1Bridge.Wire

variable {inboundId requestId : RequestId} {payload : List Value}

/-! ### Writing -/

/-- How the system answers a write: it takes everything, or stops after some bytes. -/
inductive WriteAnswer where
  | complete
  | stopped (count : ℕ)
  | failed (count code : ℕ)

def WriteAnswer.error (part : FramePart) : WriteAnswer → Option TransportError
  | .complete => none
  | .stopped _ => some (.writeZero part)
  | .failed _ code => some (.io part code)

inductive SessionError where
  | transport (error : TransportError)
  | rpc (error : RpcError)

/-- The connection, both ways, and the callbacks that were not yet taken. -/
structure Session where
  stream : Stream
  outgoing : Packet
  writes : List WriteAnswer
  serviceEvents : List ServiceStatusEvent

namespace Session

/-- A write that is cut off has not written its last byte; nothing is asked for no bytes. -/
def writeAll (part : FramePart) (bytes : Packet) (session : Session) :
    Except TransportError Unit × Session :=
  if bytes = [] then (.ok (), session)
  else
    match session.writes with
    | [] => (.ok (), { session with outgoing := session.outgoing ++ bytes })
    | .complete :: writes =>
      (.ok (), { session with outgoing := session.outgoing ++ bytes, writes := writes })
    | .stopped count :: writes =>
      (.error (.writeZero part),
        { session with outgoing := session.outgoing ++ bytes.dropLast.take count, writes := writes })
    | .failed count code :: writes =>
      (.error (.io part code),
        { session with outgoing := session.outgoing ++ bytes.dropLast.take count, writes := writes })

def sendFrame (frame : Frame) (session : Session) : Except TransportError Unit × Session :=
  match FrameHeader.new frame.messageType frame.body.length with
  | .error error => (.error (.frame error), session)
  | .ok header =>
    match session.writeAll .header header.encode with
    | (.error error, session) => (.error error, session)
    | (.ok (), session) => session.writeAll .body frame.body

def sendPlist (body : Packet) (session : Session) : Except SessionError Unit × Session :=
  match Frame.new frameBinaryPlist body with
  | .error error => (.error (.transport (.frame error)), session)
  | .ok frame =>
    match session.sendFrame frame with
    | (.error error, session) => (.error (.transport error), session)
    | (.ok (), session) => (.ok (), session)

/-- The event is kept once the answer has been written. -/
def acknowledgeRequest (requestId : RequestId) (payload : List Value) (session : Session) :
    Except SessionError Unit × Session :=
  match handleInboundRequest payload with
  | .error error => (.error (.rpc error), session)
  | .ok handled =>
    match encodeReply requestId handled.reply with
    | .error error => (.error (.rpc error), session)
    | .ok body =>
      match session.sendPlist body with
      | (.error error, session) => (.error error, session)
      | (.ok (), session) =>
        (.ok (), { session with
          serviceEvents := session.serviceEvents ++ handled.serviceEvent.toList })

/-! What a write changes: -/

/-- Only what was written, and how later writes go. -/
structure Wrote (session session' : Session) (bytes : Packet) : Prop where
  stream : session'.stream = session.stream
  outgoing : session'.outgoing = session.outgoing ++ bytes
  serviceEvents : session'.serviceEvents = session.serviceEvents

lemma wrote_nothing (session : Session) : Wrote session session [] :=
  ⟨rfl, (List.append_nil _).symm, rfl⟩

lemma Wrote.trans {s s1 s2 : Session} {bytes bytes' : Packet} (h : Wrote s s1 bytes)
    (h' : Wrote s1 s2 bytes') : Wrote s s2 (bytes ++ bytes') :=
  ⟨h'.stream.trans h.stream, by rw [h'.outgoing, h.outgoing, List.append_assoc],
    h'.serviceEvents.trans h.serviceEvents⟩

/-- All writes in between succeeded. -/
def Took (writes writes' : List WriteAnswer) : Prop :=
  ∃ n, writes = List.replicate n .complete ++ writes'

/-- The last of the writes in between failed. -/
def Broke (error : TransportError) (writes writes' : List WriteAnswer) : Prop :=
  ∃ part answer, answer.error part = some error ∧ Took writes (answer :: writes')

section

variable {writes writes1 writes' : List WriteAnswer}

lemma Took.refl (writes : List WriteAnswer) : Took writes writes := ⟨0, rfl⟩

lemma Took.trans (h : Took writes writes1) (h' : Took writes1 writes') : Took writes writes' := by
  obtain ⟨n, rfl⟩ := h
  obtain ⟨m, rfl⟩ := h'
  exact ⟨n + m, by rw [← List.append_assoc, List.replicate_append_replicate]⟩

lemma Took.broke {error : TransportError} (h : Took writes writes1)
    (h' : Broke error writes1 writes') : Broke error writes writes' := by
  obtain ⟨part, answer, herror, htook⟩ := h'
  exact ⟨part, answer, herror, h.trans htook⟩

end

/-- The bytes that were written when a write of these was cut off. -/
def CutOff (cut bytes : Packet) : Prop := cut <+: bytes ∧ cut ≠ bytes

lemma cutOff_dropLast {bytes : Packet} (hne : bytes ≠ []) (count : ℕ) :
    CutOff (bytes.dropLast.take count) bytes := by
  refine ⟨(List.take_prefix _ _).trans (List.dropLast_prefix _), fun heq => ?_⟩
  have hlen := congrArg List.length heq
  have hpos := List.length_pos_of_ne_nil hne
  rw [List.length_take, List.length_dropLast] at hlen
  omega

/-- A write of these bytes failed and was cut off. -/
structure Stopped (error : TransportError) (session session' : Session) (bytes cut : Packet) :
    Prop where
  cutOff : CutOff cut bytes
  wrote : Wrote session session' cut
  broke : Broke error session.writes session'.writes

/-- The bytes were written if the write succeeded, and cut off if it did not. -/
def Writing {ε : Type} (report : TransportError → ε) (session session' : Session)
    (bytes : Packet) : Except ε Unit → Prop
  | .ok () => Wrote session session' bytes ∧ Took session.writes session'.writes
  | .error e => ∃ error cut, e = report error ∧ Stopped error session session' bytes cut

lemma writeAll_writing (part : FramePart) (bytes : Packet) (session : Session) :
    Writing id session (session.writeAll part bytes).2 bytes (session.writeAll part bytes).1 := by
  unfold writeAll
  by_cases hne : bytes = []
  · rw [hne]
    exact ⟨wrote_nothing session, .refl _⟩
  rw [if_neg hne]
  split
  · exact ⟨⟨rfl, rfl, rfl⟩, .refl _⟩
  · next hwrites => exact ⟨⟨rfl, rfl, rfl⟩, 1, hwrites⟩
  · next hwrites =>
    exact ⟨_, _, rfl, cutOff_dropLast hne _, ⟨rfl, rfl, rfl⟩, part, _, rfl, 0, hwrites⟩
  · next hwrites =>
    exact ⟨_, _, rfl, cutOff_dropLast hne _, ⟨rfl, rfl, rfl⟩, part, _, rfl, 0, hwrites⟩

lemma CutOff.left {cut bytes : Packet} (h : CutOff cut bytes) (rest : Packet) :
    CutOff cut (bytes ++ rest) := by
  refine ⟨h.1.trans (List.prefix_append _ _), fun heq => h.2 ?_⟩
  have hlen := h.1.length_le
  have hsame := congrArg List.length heq
  rw [List.length_append] at hsame
  exact h.1.eq_of_length (by omega)

lemma CutOff.right {cut bytes : Packet} (h : CutOff cut bytes) (before : Packet) :
    CutOff (before ++ cut) (before ++ bytes) :=
  ⟨(List.prefix_append_right_inj before).mpr h.1, fun heq => h.2 (List.append_cancel_left heq)⟩

lemma sendFrame_writing {frame : Frame} (hlen : frame.body.length ≤ maxFrameBodyLen)
    (session : Session) :
    Writing id session (session.sendFrame frame).2 frame.bytes (session.sendFrame frame).1 := by
  have hheader : FrameHeader.new frame.messageType frame.body.length =
      .ok ⟨frame.messageType, frame.body.length⟩ := by
    rw [FrameHeader.new, validateBodyLen, if_neg (by omega)]
    rfl
  rw [sendFrame, hheader]
  have hfirst := writeAll_writing .header
    (FrameHeader.encode ⟨frame.messageType, frame.body.length⟩) session
  dsimp only
  split
  · next error session1 hfailed =>
    rw [hfailed] at hfirst
    obtain ⟨_, cut, he, hstopped⟩ := hfirst
    exact ⟨_, cut, he, hstopped.cutOff.left _, hstopped.wrote, hstopped.broke⟩
  next session1 hok =>
  rw [hok] at hfirst
  obtain ⟨hwrote, htook⟩ := hfirst
  have hsecond := writeAll_writing .body frame.body session1
  generalize session1.writeAll .body frame.body = outcome at hsecond ⊢
  obtain ⟨result, session2⟩ := outcome
  cases result with
  | ok _ => exact ⟨hwrote.trans hsecond.1, htook.trans hsecond.2⟩
  | error error =>
    obtain ⟨_, cut, he, hstopped⟩ := hsecond
    exact ⟨_, _, he, hstopped.cutOff.right _, hwrote.trans hstopped.wrote,
      htook.broke hstopped.broke⟩

lemma sendPlist_writing {body : Packet} (hlen : body.length ≤ maxFrameBodyLen)
    (session : Session) : Writing .transport session (session.sendPlist body).2
      (Frame.bytes ⟨frameBinaryPlist, body⟩) (session.sendPlist body).1 := by
  rw [sendPlist, Frame.new_eq hlen]
  have hsend := @sendFrame_writing ⟨frameBinaryPlist, body⟩ hlen session
  dsimp only
  split
  · next error session1 hfailed =>
    rw [hfailed] at hsend
    obtain ⟨_, cut, rfl, hstopped⟩ := hsend
    exact ⟨_, cut, rfl, hstopped⟩
  · next session1 hok =>
    rw [hok] at hsend
    exact hsend

/-- The encoder's limit is that of a frame's body. -/
lemma length_of_encodeEnvelope {isReply : Bool} {body : Packet}
    (h : encodeEnvelope isReply requestId payload = .ok body) : body.length ≤ maxFrameBodyLen := by
  obtain ⟨-, hlength, rfl⟩ := encode_ok_iff.mp (Except.mapError_eq_ok.mp h)
  exact hlength

/-! ### The requests of the peer -/

/-- The answer to a request: the frame that is written and the event that is kept. -/
structure Answer where
  body : Packet
  serviceEvent : Option ServiceStatusEvent

def Answer.bytes (answer : Answer) : Packet := Frame.bytes ⟨frameBinaryPlist, answer.body⟩

def answerTo (requestId : RequestId) (payload : List Value) : Except RpcError Answer := do
  let handled ← handleInboundRequest payload
  let body ← encodeReply requestId handled.reply
  .ok ⟨body, handled.serviceEvent⟩

/-- The answer was written and its event is kept. -/
structure Answered (session session' : Session) (answer : Answer) : Prop where
  stream : session'.stream = session.stream
  outgoing : session'.outgoing = session.outgoing ++ answer.bytes
  serviceEvents : session'.serviceEvents = session.serviceEvents ++ answer.serviceEvent.toList
  writes : Took session.writes session'.writes

section

variable {session session' : Session}

lemma acknowledgeRequest_ok
    (h : session.acknowledgeRequest requestId payload = (.ok (), session')) :
    ∃ answer, answerTo requestId payload = .ok answer ∧ Answered session session' answer := by
  unfold acknowledgeRequest at h
  split at h
  · cases h
  next handled hhandled =>
  split at h
  · cases h
  next body hbody =>
  have hsend := sendPlist_writing (length_of_encodeEnvelope hbody) session
  split at h
  · cases h
  next session1 hok =>
  cases h
  rw [hok] at hsend
  obtain ⟨hwrote, htook⟩ := hsend
  refine ⟨⟨body, handled.serviceEvent⟩, ?_, hwrote.stream, hwrote.outgoing, ?_, htook⟩
  · rw [answerTo, Except.ok_bind hhandled, Except.ok_bind hbody]
  · exact congrArg (· ++ _) hwrote.serviceEvents

end

/-! ### The call -/

/-- Reads frames until the reply is there. -/
def awaitReply (allocates : ℕ → Bool) (requestId : RequestId) (session : Session) :
    Except SessionError (List Value) × Session :=
  match _h : receiveFrame allocates session.stream with
  | (.error error, stream) => (.error (.transport error), { session with stream := stream })
  | (.ok frame, stream) =>
    if frame.messageType ≠ frameBinaryPlist then
      awaitReply allocates requestId { session with stream := stream }
    else
      match decodeEnvelope frame.body with
      | .error error => (.error (.rpc error), { session with stream := stream })
      | .ok (.reply responseId result) =>
        if responseId = requestId then (.ok result, { session with stream := stream })
        else awaitReply allocates requestId { session with stream := stream }
      | .ok (.request inboundId payload) =>
        match _hack : acknowledgeRequest inboundId payload { session with stream := stream } with
        | (.error error, session) => (.error error, session)
        | (.ok (), session) => awaitReply allocates requestId session
termination_by session.stream.incoming.length
decreasing_by
  · exact receiveFrame_left _h
  · exact receiveFrame_left _h
  obtain ⟨answer, -, hanswered⟩ := acknowledgeRequest_ok _hack
  rw [hanswered.stream]
  exact receiveFrame_left _h

def call (allocates : ℕ → Bool) (requestId : RequestId) (payload : List Value) (session : Session) :
    Except SessionError (List Value) × Session :=
  match encodeRequest requestId payload with
  | .error error => (.error (.rpc error), session)
  | .ok body =>
    match session.sendPlist body with
    | (.error error, session) => (.error error, session)
    | (.ok (), session) => awaitReply allocates requestId session

/-! ### What a call does with the frames it reads -/

/-- The frames that were received one after the other. -/
inductive Received (allocates : ℕ → Bool) : Stream → List Frame → Stream → Prop
  | none (stream : Stream) : Received allocates stream [] stream
  | next {stream stream1 stream2 : Stream} {frame : Frame} {frames : List Frame} :
      receiveFrame allocates stream = (.ok frame, stream1) → Received allocates stream1 frames stream2 →
        Received allocates stream (frame :: frames) stream2

/-- The answer a frame gets, if it is a request that can be answered. -/
def answerOf (frame : Frame) : Option Answer :=
  if frame.messageType ≠ frameBinaryPlist then none
  else
    match decodeEnvelope frame.body with
    | .ok (.request requestId payload) => (answerTo requestId payload).toOption
    | _ => none

/-- A frame that does not end the call: it is of another type, the reply to another request, or a
request, and then its answer is a reply with the same identifier. -/
def Passed (requestId : RequestId) (frame : Frame) : Prop :=
  frame.messageType ≠ frameBinaryPlist ∨ frame.messageType = frameBinaryPlist ∧
      ((∃ other result, decodeEnvelope frame.body = .ok (.reply other result) ∧ other ≠ requestId) ∨
        ∃ inboundId payload answer reply,
          decodeEnvelope frame.body = .ok (.request inboundId payload) ∧
            answerOf frame = some answer ∧ decodeEnvelope answer.body = .ok (.reply inboundId reply))

section

variable (requestId) (allocates : ℕ → Bool) (session : Session) (frames : List Frame)
  (session' : Session) (cut : Packet)

/-- How a call ends after the frames it passed over: the connection is lost, the reply is there, or
a frame cannot be read, has no answer, or its answer was cut off by a write that failed. -/
inductive Ending : Except SessionError (List Value) → Prop
  | lost {middle : Stream} {error : TransportError} :
      Received allocates session.stream frames middle →
      receiveFrame allocates middle = (.error error, session'.stream) → cut = [] →
        Ending (.error (.transport error))
  | replied {last : Frame} {result : List Value} :
      Received allocates session.stream (frames ++ [last]) session'.stream →
      last.messageType = frameBinaryPlist →
      decodeEnvelope last.body = .ok (.reply requestId result) → cut = [] → Ending (.ok result)
  | unreadable {last : Frame} {error : RpcError} :
      Received allocates session.stream (frames ++ [last]) session'.stream →
      last.messageType = frameBinaryPlist → decodeEnvelope last.body = .error error → cut = [] →
        Ending (.error (.rpc error))
  | unanswerable {last : Frame} {inboundId : RequestId} {payload : List Value}
      {error : RpcError} : Received allocates session.stream (frames ++ [last]) session'.stream →
      last.messageType = frameBinaryPlist →
      decodeEnvelope last.body = .ok (.request inboundId payload) →
      answerTo inboundId payload = .error error → cut = [] → Ending (.error (.rpc error))
  | cutOff {last : Frame} {answer : Answer} {error : TransportError} :
      Received allocates session.stream (frames ++ [last]) session'.stream →
      answerOf last = some answer → CutOff cut answer.bytes →
      Broke error session.writes session'.writes → Ending (.error (.transport error))

end

/-- The account of the frames a call has read. -/
structure Account (allocates : ℕ → Bool) (requestId : RequestId) (session session' : Session)
    (result : Except SessionError (List Value)) (frames : List Frame) (cut : Packet) : Prop where
  outgoing : session'.outgoing =
    session.outgoing ++ (frames.filterMap answerOf).flatMap Answer.bytes ++ cut
  serviceEvents : session'.serviceEvents =
    session.serviceEvents ++ (frames.filterMap answerOf).filterMap Answer.serviceEvent
  passed : ∀ frame ∈ frames, Passed requestId frame
  ending : Ending requestId allocates session frames session' cut result

variable {allocates : ℕ → Bool} {frame : Frame}

variable {session session1 session' : Session} {result : Except SessionError (List Value)}
  {frames : List Frame} {cut : Packet} {stream : Stream}

lemma Ending.after (h : Ending requestId allocates session1 frames session' cut result)
    (before : List Frame) (hwrites : Took session.writes session1.writes)
    (hbefore : ∀ {more stream}, Received allocates session1.stream more stream →
      Received allocates session.stream (before ++ more) stream) :
    Ending requestId allocates session (before ++ frames) session' cut result := by
  have hlast : ∀ {last stream}, Received allocates session1.stream (frames ++ [last]) stream →
      Received allocates session.stream (before ++ frames ++ [last]) stream := by
    intro last stream hreceived
    rw [List.append_assoc]
    exact hbefore hreceived
  cases h with
  | lost hreceived hlost hcut => exact .lost (hbefore hreceived) hlost hcut
  | replied hreceived htype hreply hcut => exact .replied (hlast hreceived) htype hreply hcut
  | unreadable hreceived htype herror hcut => exact .unreadable (hlast hreceived) htype herror hcut
  | unanswerable hreceived htype hrequest herror hcut =>
    exact .unanswerable (hlast hreceived) htype hrequest herror hcut
  | cutOff hreceived hanswer hcut hbroke =>
    exact .cutOff (hlast hreceived) hanswer hcut (hwrites.broke hbroke)

lemma Account.skip (hframe : receiveFrame allocates session.stream = (.ok frame, stream))
    (hnone : answerOf frame = none) (hpassed : Passed requestId frame)
    (h : Account allocates requestId { session with stream := stream } session' result frames cut) :
    Account allocates requestId session session' result (frame :: frames) cut := by
  have hanswers : (frame :: frames).filterMap answerOf = frames.filterMap answerOf := by
    rw [List.filterMap_cons, hnone]
  refine ⟨?_, ?_, List.forall_mem_cons.mpr ⟨hpassed, h.passed⟩,
    h.ending.after [frame] (.refl _) (.next hframe)⟩
  · rw [hanswers]
    exact h.outgoing
  · rw [hanswers]
    exact h.serviceEvents

lemma Account.answer {answer : Answer}
    (hframe : receiveFrame allocates session.stream = (.ok frame, stream))
    (hanswer : answerOf frame = some answer) (hpassed : Passed requestId frame)
    (hanswered : Answered { session with stream := stream } session1 answer)
    (h : Account allocates requestId session1 session' result frames cut) :
    Account allocates requestId session session' result (frame :: frames) cut := by
  have hanswers : (frame :: frames).filterMap answerOf = answer :: frames.filterMap answerOf := by
    rw [List.filterMap_cons, hanswer]
  have hevents : (answer :: frames.filterMap answerOf).filterMap Answer.serviceEvent =
      answer.serviceEvent.toList ++ (frames.filterMap answerOf).filterMap Answer.serviceEvent := by
    rw [List.filterMap_cons]
    cases answer.serviceEvent <;> rfl
  have hstream : session1.stream = stream := hanswered.stream
  refine ⟨?_, ?_, List.forall_mem_cons.mpr ⟨hpassed, h.passed⟩,
    h.ending.after [frame] hanswered.writes fun hmore => .next hframe (hstream ▸ hmore)⟩
  · rw [h.outgoing, hanswered.outgoing, hanswers, List.flatMap_cons]
    simp only [List.append_assoc]
  · rw [h.serviceEvents, hanswered.serviceEvents, hanswers, hevents, List.append_assoc]

lemma Account.stop (hwrote : Wrote { session with stream := stream } session' cut)
    (h : Ending requestId allocates session [] session' cut result) :
    Account allocates requestId session session' result [] cut := by
  refine ⟨?_, ?_, nofun, h⟩
  · rw [hwrote.outgoing, List.filterMap_nil, List.flatMap_nil, List.append_nil]
  · rw [hwrote.serviceEvents, List.filterMap_nil, List.filterMap_nil, List.append_nil]

/-- A sent call or reply is received as it was, however the reads split its bytes, and the bytes
behind it stay. -/
theorem sent_message_is_received (isReply : Bool) {body : Packet}
    (hencode : encodeEnvelope isReply requestId payload = .ok body) (hordered : OrderedAll payload)
    {session session' : Session} (hsend : session.sendPlist body = (.ok (), session'))
    {allocates : ℕ → Bool} (hmemory : ∀ bodyLen ≤ maxFrameBodyLen, allocates bodyLen = true)
    {stream : Stream} (hquiet : stream.Quiet) {rest : Packet}
    (hbytes : session.outgoing ++ stream.incoming = session'.outgoing ++ rest) :
    (∃ answers, receiveFrame allocates stream =
      (.ok ⟨frameBinaryPlist, body⟩, ⟨rest, answers⟩)) ∧ decodeEnvelope body =
        .ok (if isReply then .reply requestId payload else .request requestId payload) := by
  have hlength := length_of_encodeEnvelope hencode
  have hencode := Except.mapError_eq_ok.mp hencode
  constructor
  · have hwrote := sendPlist_writing hlength session
    rw [hsend] at hwrote
    rw [hwrote.1.outgoing, List.append_assoc] at hbytes
    obtain ⟨answers, -, hframe⟩ := receiveFrame_eq hmemory hquiet
    rw [Frame.decodePrefix_ok.mpr ⟨hlength, List.append_cancel_left hbytes⟩] at hframe
    exact ⟨answers, hframe⟩
  · have hvalue : (envelope isReply requestId payload).Ordered :=
      ⟨trivial, trivial, trivial, hordered, trivial⟩
    rw [decodeEnvelope, decode_of_encode hvalue hencode]
    cases isReply <;> rfl

/-- A reply that carries a number and a text. -/
def answered : List Value := [.integer 5, .string "ok"]

theorem reply_is_received : (∃ answers, receiveFrame (fun _ => true)
      ⟨Frame.bytes ⟨frameBinaryPlist, (envelope true ⟨"A"⟩ answered).document⟩ ++ [7], [.atMost 3]⟩ =
        (.ok ⟨frameBinaryPlist, (envelope true ⟨"A"⟩ answered).document⟩, ⟨[7], answers⟩)) ∧
    decodeEnvelope (envelope true ⟨"A"⟩ answered).document = .ok (.reply ⟨"A"⟩ answered) := by
  have hencode : encodeEnvelope true ⟨"A"⟩ answered = .ok _ :=
    Except.mapError_eq_ok.mpr (encode_ok (by decide +kernel) (by decide +kernel)).1
  exact sent_message_is_received true hencode ⟨trivial, trivial, trivial⟩
    (rfl : sendPlist _ ⟨⟨[], []⟩, [], [], []⟩ = (_, _)) (fun _ _ => rfl) (by simp [Stream.Quiet]) rfl

end Session

end T1Bridge.Wire
