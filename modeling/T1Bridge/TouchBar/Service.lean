import Mathlib.Logic.Function.Basic
import T1Bridge.Lib.Machine
import T1Bridge.TouchBar.FrameState
import T1Bridge.TouchBar.WireExact

/-! # One connection of the Touch Bar service

The service keeps two outbound slots for its client: `control` for the answer to a request
and for the release of a frame, `input` for the newest input frame.  A packet that the socket
does not take stays in its slot; what follows from a packet (establishing the connection,
presenting a frame, returning its buffer) is done once it has been sent.  A request is read
only while `control` is empty.

The loop of the service revalidates the session, flushes, receives and queues input, in this
order; here the four come in any order.  What the socket, the display, the keyboard and the
session say is an argument of each step.  `none` stands for `Err(())`, on which the loop
revokes the connection.

`Account` is the traffic such a connection is meant to have: nothing is read and no input is
sent while an answer or a release is owed. -/

namespace T1Bridge.TouchBar

/-! ### Hardware actions -/

inductive BrightnessKind where
  | display | keyboard
deriving DecidableEq

inductive CancelTouchIdOutcome where
  | delivered | denied

/-- The brightness controls that work, and when each was last used, in nanoseconds. -/
structure HardwareActions where
  available : BrightnessKind → Bool
  last : BrightnessKind → Option ℕ

/-- What the platform says while one request is handled. -/
structure Answers where
  accept : Bool
  tap : KeyCode → Bool
  releaseAll : Bool
  cancelTouchId : Option CancelTouchIdOutcome
  now : ℕ
  setting : BrightnessKind → UInt8 → Bool
  stepSetting : BrightnessKind → StepDirection → Bool
  sessionSets : Bool

def brightnessActionInterval : ℕ := 20000000

def baseServiceFeatures : UInt64 := 0x07 ||| 0x20

namespace HardwareActions

variable (actions : HardwareActions)

def features : FeatureBits :=
  ⟨baseServiceFeatures ||| (if actions.available .display then 0x08 else 0) |||
    (if actions.available .keyboard then 0x10 else 0)⟩

variable (kind : BrightnessKind)

/-- What the two brightness actions share; `found` says that the control has a value to set. -/
def apply (found : Bool) (answers : Answers) : ServiceMessage × HardwareActions :=
  if !actions.available kind then (.error .unsupportedFeature, actions)
  else if (actions.last kind).any (answers.now - · < brightnessActionInterval) then
    (.error .resourceLimit, actions)
  else
    let used := { actions with last := Function.update actions.last kind (some answers.now) }
    if !found then (.error .ioFailure, used)
    else if answers.sessionSets then (.ack, used)
    else (.error .ioFailure, { used with available := Function.update used.available kind false })

def setBrightness (percentage : UInt8) (answers : Answers) : ServiceMessage × HardwareActions :=
  actions.apply kind (answers.setting kind percentage) answers

def stepBrightness (direction : StepDirection)
    (answers : Answers) : ServiceMessage × HardwareActions :=
  actions.apply kind (answers.stepSetting kind direction) answers

end HardwareActions

def cancellationResponse : Option CancelTouchIdOutcome → ServiceMessage
  | some .delivered => .ack
  | some .denied => .error .actionDenied
  | none => .error .ioFailure

def frameErrorCode : FrameStateError → ErrorCode
  | .tooManyBuffers => .resourceLimit
  | .unknownBuffer => .unknownBuffer
  | .bufferInFlight => .bufferBusy
  | _ => .invalidBuffer

/-! ### The connection -/

/-- What is done once a packet has gone out. -/
inductive AfterSend where
  | none
  | establish (minor : UInt16)
  | present (bufferId : UInt32) (frameId : UInt64) (damage : List DamageRectangle)
  | release (bufferId : UInt32) (frameId : UInt64) (closeAfter : Bool)
  | close

structure PendingPacket where
  bytes : Bytes
  afterSend : AfterSend

/-- The client's connection, with one slot for replies and one for input. -/
structure Connection where
  established : Bool
  negotiatedMinor : Option UInt16
  frames : FrameState UInt32 UInt64
  buffers : List UInt32
  control : Option PendingPacket
  input : Option Bytes
  needsFullPresent : Bool

/-- What a connection reads and sends. -/
inductive Traffic where
  | request (envelope : Envelope ClientMessage)
  /-- a packet on which the connection is revoked -/
  | refused (packet : Bytes)
  | control (bytes : Bytes)
  | input (bytes : Bytes)

inductive Sending where
  | sent | wouldBlock | failed

inductive Reception where
  | packet (bytes : Bytes) (descriptor : Bool)
  | wouldBlock | failed

/-- What the socket and the display say during one flush. -/
structure Flushing where
  control : Sending
  present : UInt32 → List DamageRectangle → Bool
  input : Sending

namespace Connection

def new (layout : FrameLayout) : Connection where
  established := false
  negotiatedMinor := none
  frames := .new layout
  buffers := []
  control := none
  input := none
  needsFullPresent := true

variable (c : Connection) (dimensions : DisplayDimensions)

def phaseDimensions : Option DisplayDimensions := if c.established then some dimensions else none

variable (requestId : UInt32)

def queueControl (message : ServiceMessage) (phase : Option DisplayDimensions)
    (afterSend : AfterSend) : Option Connection :=
  match encodeService ⟨requestId, message⟩ phase with
  | .ok bytes => some { c with control := some ⟨bytes, afterSend⟩ }
  | .error _ => none

def queueError (code : ErrorCode) : Option Connection :=
  c.queueControl requestId (.error code) (c.phaseDimensions dimensions) .none

/-- The frame is already normalised to the display. -/
def queueInput (frame : WireInputFrame) : Connection :=
  if !c.established then c
  else match encodeService ⟨0, .inputFrame frame⟩ (some dimensions) with
    | .ok bytes => { c with input := some bytes }
    | .error _ => c

def queueHello (hello : Hello) (actions : HardwareActions) : Option Connection :=
  if !actions.features.contains hello.requiredFeatures then
    c.queueControl requestId (.error .unsupportedFeature) none .close
  else
    let negotiatedMinor := min hello.minor protocolMinor
    c.queueControl requestId
      (.helloAck ⟨negotiatedMinor, dimensions.width, dimensions.height, .xrgb8888, 3⟩) none
      (.establish negotiatedMinor)

def queueBufferRegistration (buffer : RegisterBuffer) (accept : Bool) : Option Connection :=
  if !accept then c.queueError dimensions requestId .invalidBuffer
  else match c.frames.registerBuffer buffer.bufferId ⟨buffer.stride, buffer.byteLength⟩ with
    | .ok frames =>
      { c with frames, buffers := c.buffers ++ [buffer.bufferId] }.queueControl requestId .ack
        (some dimensions) .none
    | .error error => c.queueError dimensions requestId (frameErrorCode error)

def queueFrameSubmission (frame : SubmitFrame) : Option Connection :=
  match c.frames.submitFrame frame.bufferId frame.frameId frame.damage with
  | .ok (submission, frames) =>
    { c with frames }.queueControl requestId .ack (some dimensions)
      (.present submission.bufferId submission.frameId submission.damage)
  | .error error => c.queueError dimensions requestId (frameErrorCode error)

/-- Keys are tapped in order; the first that fails releases all of them. -/
def queueKeys (keys : List KeyCode) (answers : Answers) : Option Connection :=
  if keys.all answers.tap then c.queueControl requestId .ack (some dimensions) .none
  else if !answers.releaseAll then none
  else c.queueError dimensions requestId .ioFailure

/-- The answer of a brightness action is queued, and the controls it used are kept. -/
def queueBrightness (answer : ServiceMessage × HardwareActions) :
    Option Connection × HardwareActions :=
  (c.queueControl requestId answer.1 (some dimensions) .none, answer.2)

variable (actions : HardwareActions)

/-- A client of minor version 0 does not know the steps. -/
def queueBrightnessStep (kind : BrightnessKind)
    (direction : StepDirection) (answers : Answers) : Option Connection × HardwareActions :=
  if c.negotiatedMinor.getD 0 < 1 then (c.queueError dimensions requestId .unsupported, actions)
  else c.queueBrightness dimensions requestId (actions.stepBrightness kind direction answers)

def handleRequest (envelope : Envelope ClientMessage)
    (descriptor : Bool) (answers : Answers) : Option Connection × HardwareActions :=
  let requestId := envelope.requestId
  match envelope.message with
  | .hello hello => (c.queueHello dimensions requestId hello actions, actions)
  | .registerBuffer buffer =>
    (if descriptor then c.queueBufferRegistration dimensions requestId buffer answers.accept
      else none, actions)
  | .submitFrame frame => (c.queueFrameSubmission dimensions requestId frame, actions)
  | .tapKeys keys => (c.queueKeys dimensions requestId keys answers, actions)
  | .cancelTouchId =>
    (c.queueControl requestId (cancellationResponse answers.cancelTouchId) (some dimensions) .none,
      actions)
  | .setDisplayBrightness percentage =>
    c.queueBrightness dimensions requestId (actions.setBrightness .display percentage.value answers)
  | .setKeyboardBacklight percentage =>
    c.queueBrightness dimensions requestId
      (actions.setBrightness .keyboard percentage.value answers)
  | .stepDisplayBrightness direction =>
    c.queueBrightnessStep dimensions requestId actions .display direction answers
  | .stepKeyboardBacklight direction =>
    c.queueBrightnessStep dimensions requestId actions .keyboard direction answers
  | .unknown _ => (c.queueError dimensions requestId .unsupported, actions)

def receiveRequest (reception : Reception) (answers : Answers) :
    List Traffic × Option Connection × HardwareActions :=
  match reception with
  | .wouldBlock => ([], some c, actions)
  | .failed => ([], none, actions)
  | .packet bytes descriptor =>
    match decodeClient bytes ⟨descriptor.toNat, false, false⟩ (c.phaseDimensions dimensions) with
    | .error _ => ([.refused bytes], none, actions)
    | .ok envelope =>
      match c.handleRequest dimensions actions envelope descriptor answers with
      | (none, actions) => ([.refused bytes], none, actions)
      | (some c, actions) => ([.request envelope], some c, actions)

/-- The first frame of a connection is presented as a whole. -/
def expandFirstPresentDamage (damage : List DamageRectangle) : List DamageRectangle :=
  if c.needsFullPresent then [⟨0, 0, dimensions.width, dimensions.height⟩] else damage

def applyAfterSend (present : UInt32 → List DamageRectangle → Bool) : AfterSend → Option Connection
  | .none => some c
  | .establish minor => some { c with established := true, negotiatedMinor := some minor }
  | .close => none
  | .present bufferId frameId damage =>
    let presented := c.buffers.contains bufferId &&
      present bufferId (c.expandFirstPresentDamage dimensions damage)
    { c with needsFullPresent := false }.queueControl 0 (.frameReleased ⟨bufferId, frameId⟩)
      (some dimensions) (.release bufferId frameId (!presented))
  | .release bufferId frameId closeAfter =>
    match c.frames.releaseFrame bufferId frameId with
    | .ok frames => if closeAfter then none else some { c with frames }
    | .error _ => none

/-- The second half of a flush: input goes out only when no control packet waits. -/
def flushInput (send : Sending) : List Traffic × Option Connection :=
  match c.control, c.input with
  | none, some input =>
    match send with
    | .sent => ([.input input], some { c with input := none })
    | .wouldBlock => ([], some c)
    | .failed => ([], none)
  | _, _ => ([], some c)

def flushConnection (answers : Flushing) : List Traffic × Option Connection :=
  match c.control with
  | none => c.flushInput answers.input
  | some pending =>
    match answers.control with
    | .wouldBlock => ([], some c)
    | .failed => ([], none)
    | .sent =>
      match { c with control := none }.applyAfterSend dimensions answers.present
        pending.afterSend with
      | none => ([.control pending.bytes], none)
      | some c =>
        let (traffic, flushed) := c.flushInput answers.input
        (.control pending.bytes :: traffic, flushed)

end Connection

/-! ### The loop -/

/-- The connection, until it is revoked, and the hardware it acts on. -/
structure Service where
  connection : Option Connection
  actions : HardwareActions

/-- What can happen to the service. -/
inductive Service.Event where
  | revalidate (retained : Bool)
  | flush (answers : Flushing)
  | receive (reception : Reception) (answers : Answers)
  | input (frame : WireInputFrame)

variable (dimensions : DisplayDimensions)

def Service.step (s : Service) (event : Service.Event) : List Traffic × Service :=
  match s.connection with
  | none => ([], s)
  | some c =>
    match event with
    | .revalidate retained => ([], if retained then s else { s with connection := none })
    | .flush answers =>
      let (traffic, connection) := c.flushConnection dimensions answers
      (traffic, { s with connection })
    | .receive reception answers =>
      if c.control.isSome then ([], s)
      else
        let (traffic, connection, actions) :=
          c.receiveRequest dimensions s.actions reception answers
        (traffic, ⟨connection, actions⟩)
    | .input frame => ([], { s with connection := some (c.queueInput dimensions frame) })

/-- The service from the moment it accepts a client. -/
def Service.machine (layout : FrameLayout) : Machine Service Service.Event (List Traffic) where
  init s := s.connection = some (.new layout)
  enabled _ _ := True
  step := Service.step dimensions

end T1Bridge.TouchBar
