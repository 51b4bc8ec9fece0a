import T1Bridge.Auth.Protocol
import T1Bridge.Lib.Bytes
import T1Bridge.Lib.Program

/-! # The URB transport

One transport owns two URBs, one for each direction, and hands them to the kernel for bulk
transfers.  The functions are the transport's; each ioctl, poll and clock reading is a request
that can be answered anything, and so is each write to the memory of a slot, so that the log of
a run says when memory was touched. -/

namespace T1Bridge.Sep.Urb

def transferSize : ℕ := 0x4400
def maxTimeoutMs : ℕ := 60000
def normalReapLimit : ℕ := 8
def waitLimit : ℕ := 16
def cleanupReapLimit : ℕ := 16
def discardRetryLimit : ℕ := 4
def cleanupWaitMs : ℕ := 50

inductive Status where
  | ok | invalidArgument | allocationFailed | claimFailed | releaseFailed | submitFailed
  | timedOut | interrupted | transferFailed | shortTransfer | reapFailed | cleanupFailed
  | invalidState
deriving DecidableEq

/-- The state of the transport; only `ready` takes transfers. -/
inductive State where
  | uninitialized | ready | busy | timedOut | interrupted | transferError | poisoned
deriving DecidableEq

inductive OpResult where
  | ok | again | interrupted | notFound | failed
deriving DecidableEq

/-- Who has the URB of a slot. -/
inductive SlotState where
  | idle | submitted | reaped
deriving DecidableEq

inductive SlotName where
  | input | output
deriving DecidableEq

/-- A URB with its buffer.  The kernel writes status, length and the received bytes. -/
structure Slot where
  allocated : Bool
  status : ℤ
  actualLength : ℤ
  buffer : Packet
  state : SlotState

/-- The two slots and the interface they use. -/
structure Transport where
  input : Slot
  output : Slot
  state : State
  interfaceClaimed : Bool

/-- What a reap returns.  Without success, or with another URB than the two, there is no name. -/
structure ReapAnswer where
  result : OpResult
  urb : Option SlotName
  status : ℤ
  actualLength : ℤ
  data : Packet

/-- The calls to the kernel. -/
inductive UrbOp where
  | allocate (name : SlotName)
  | claimInterface
  | releaseInterface
  | submit (name : SlotName)
  | discard (name : SlotName)
  | reap
  | waitReady (timeoutMs : ℕ)
  | monotonicMs
  -- writes to memory, and the end of the descriptor
  | clear (name : SlotName)
  | fill (data : Packet)
  | release (name : SlotName)
  | close
deriving DecidableEq

@[reducible] def UrbOp.Answer : UrbOp → Type
  | allocate _ => Bool
  | claimInterface | releaseInterface | submit _ | discard _ | waitReady _ => OpResult
  | reap => ReapAnswer
  | monotonicMs => Option ℕ
  | clear _ | fill _ | release _ | close => Unit

abbrev UrbProg := Prog UrbOp UrbOp.Answer

abbrev Log := List (Prog.Event UrbOp UrbOp.Answer)

def ask (op : UrbOp) : UrbProg op.Answer := Prog.perform op

/-! ### Slots -/

def Slot.none : Slot := ⟨false, 0, 0, [], .idle⟩

def Slot.fresh : Slot := ⟨true, 0, 0, List.replicate transferSize 0, .idle⟩

def Transport.zeroed : Transport := ⟨.none, .none, .uninitialized, false⟩

namespace Transport

variable (t : Transport)

def slot : SlotName → Slot
  | .input => t.input
  | .output => t.output

def setSlot : SlotName → Slot → Transport
  | .input, s => { t with input := s }
  | .output, s => { t with output := s }

def slotIsActive (name : SlotName) : Bool := (t.slot name).state = .submitted

def anySlotIsActive : Bool := t.slotIsActive .input || t.slotIsActive .output

end Transport

variable (t : Transport)

/-- The memory of the URB and of its buffer is cleared and written anew. -/
def resetSlot (name : SlotName) : UrbProg Transport := do
  ask (.clear name)
  pure (t.setSlot name .fresh)

def clearSlot (name : SlotName) : UrbProg Unit :=
  if (t.slot name).allocated then ask (.clear name) else pure ()

def freeSlot (name : SlotName) : UrbProg Unit :=
  if (t.slot name).allocated then ask (.release name) else pure ()

/-- Both slots are wiped and freed, and the transport is zeroed. -/
def releaseAllocations : UrbProg Transport := do
  clearSlot t .input
  clearSlot t .output
  freeSlot t .input
  freeSlot t .output
  pure .zeroed

def allocateSlot (name : SlotName) : UrbProg (Status × Transport) := do
  match ← ask (.allocate name) with
  | true => pure (.ok, t.setSlot name { Slot.none with allocated := true })
  | false => pure (.allocationFailed, t)

/-- A reaped URB is one of the two and was submitted; the kernel has written it. -/
def recordReap (answer : ReapAnswer) : Status × Transport :=
  match answer.urb with
  | none => (.reapFailed, t)
  | some name =>
    if (t.slot name).state = .submitted then
      (.ok, t.setSlot name { t.slot name with
        status := answer.status, actualLength := answer.actualLength, state := .reaped
        buffer := if name = .input then answer.data else (t.slot name).buffer })
    else (.reapFailed, t)

def submitSlot (name : SlotName) : UrbProg (Status × Transport) := do
  if (t.slot name).state ≠ .idle then pure (.invalidState, t)
  else
    match ← ask (.submit name) with
    | .ok => pure (.ok, t.setSlot name { t.slot name with state := .submitted })
    | _ => pure (.submitFailed, t)

def makeSlotsReusable : UrbProg Transport := do
  let t ← resetSlot t .input
  resetSlot t .output

/-! ### Cancellation -/

/-- At most so many tries to discard the URB. -/
def discardAttempts (name : SlotName) : ℕ → UrbProg Status
  | 0 => pure .interrupted
  | attempts + 1 => do
    match ← ask (.discard name) with
    | .ok | .notFound => pure .ok
    | .interrupted => discardAttempts name attempts
    | _ => pure .transferFailed

def discardSlot (name : SlotName) : UrbProg Status :=
  if t.slotIsActive name then discardAttempts name discardRetryLimit else pure .ok

/-- The loop of the cleanup, with the waits and the reaps that are left to it. -/
def reapCancelled (waits reaps : ℕ) (t : Transport) : UrbProg Transport :=
  match waits, reaps with
  | 0, _ => pure t
  | _, 0 => pure t
  | waits + 1, reaps + 1 =>
    if t.anySlotIsActive then do
      let answer ← ask .reap
      if answer.result = .ok then
        match recordReap t answer with
        | (.ok, t) => reapCancelled (waits + 1) reaps t
        | (_, t) => pure t
      else
        let _ ← ask (.waitReady cleanupWaitMs)
        reapCancelled waits (reaps + 1) t
    else pure t
termination_by waits + reaps

def cleanupActiveUrbs : UrbProg (Status × Transport) := do
  let _ ← discardSlot t .input
  let _ ← discardSlot t .output
  let t ← reapCancelled cleanupReapLimit 2 t
  if t.anySlotIsActive then pure (.cleanupFailed, { t with state := .poisoned })
  else pure (.ok, t)

def finishFailure (status : Status) (state : State) : UrbProg (Status × Transport) := do
  match ← cleanupActiveUrbs t with
  | (.ok, t) =>
    let t ← makeSlotsReusable t
    pure (status, { t with state := state })
  | (_, t) => pure (.cleanupFailed, t)

/-! ### Waiting -/

def Slot.validate (slot : Slot) : Status :=
  if slot.status ≠ 0 then .transferFailed
  else if slot.actualLength ≠ transferSize then .shortTransfer
  else .ok

def validateReapedSlots : Status :=
  if t.input.status ≠ 0 ∨ t.output.status ≠ 0 then .transferFailed
  else if t.input.actualLength ≠ transferSize ∨ t.output.actualLength ≠ transferSize then
    .shortTransfer
  else .ok

/-- Reaps what is there, at most so many times. -/
def reapAvailable : ℕ → Transport → UrbProg (Status × Transport)
  | 0, t => pure (if t.anySlotIsActive then .ok else .reapFailed, t)
  | attempts + 1, t => do
    let answer ← ask .reap
    match answer.result with
    | .again => pure (.ok, t)
    | .interrupted => pure (.interrupted, t)
    | .notFound | .failed => pure (.reapFailed, t)
    | .ok =>
      match recordReap t answer with
      | (.ok, t) =>
        if answer.status ≠ 0 then pure (.transferFailed, t)
        else if answer.actualLength ≠ transferSize then pure (.shortTransfer, t)
        else reapAvailable attempts t
      | (_, t) => pure (.reapFailed, t)

def remainingTimeout (deadline now : ℕ) : ℕ :=
  if now ≥ deadline then 0 else min (deadline - now) maxTimeoutMs

/-- The end of the transfer, or the reason why it cannot begin. -/
def validateTransferReady (timeoutMs : ℕ) : UrbProg (Except Status ℕ × Transport) := do
  if timeoutMs = 0 ∨ timeoutMs > maxTimeoutMs then pure (.error .invalidArgument, t)
  else if t.interfaceClaimed = false ∨ t.input.allocated = false ∨ t.output.allocated = false ∨
      t.anySlotIsActive = true ∨ t.state = .uninitialized ∨ t.state = .busy ∨
      t.state = .poisoned then pure (.error .invalidState, t)
  else
    match ← ask .monotonicMs with
    | some start =>
      if 2 ^ 64 - 1 - start < timeoutMs then
        pure (.error .transferFailed, { t with state := .transferError })
      else pure (.ok (start + timeoutMs), t)
    | none => pure (.error .transferFailed, { t with state := .transferError })

def waitForActiveUrbs (deadline : ℕ) : ℕ → Transport → UrbProg (Status × Transport)
  | 0, t =>
    if t.anySlotIsActive then finishFailure t .reapFailed .transferError else pure (.ok, t)
  | attempts + 1, t =>
    if t.anySlotIsActive = false then pure (.ok, t)
    else do
      match ← ask .monotonicMs with
      | none => finishFailure t .transferFailed .transferError
      | some now =>
        if remainingTimeout deadline now = 0 then finishFailure t .timedOut .timedOut
        else
          match ← ask (.waitReady (remainingTimeout deadline now)) with
          | .again => finishFailure t .timedOut .timedOut
          | .interrupted => finishFailure t .interrupted .interrupted
          | .notFound | .failed => finishFailure t .transferFailed .transferError
          | .ok =>
            match ← reapAvailable normalReapLimit t with
            | (.ok, t) => waitForActiveUrbs deadline attempts t
            | (.interrupted, t) => finishFailure t .interrupted .interrupted
            | (status, t) => finishFailure t status .transferError

/-! ### Transfers -/

/-- `none` stands for a null pointer. -/
def exchange (output : Option Packet) (inputCapacity : Option ℕ)
    (timeoutMs : ℕ) : UrbProg (Status × Option Packet × Transport) := do
  match output with
  | none => pure (.invalidArgument, none, t)
  | some output =>
    if output.length ≠ transferSize ∨ inputCapacity ≠ some transferSize ∨ timeoutMs = 0 ∨
        timeoutMs > maxTimeoutMs then pure (.invalidArgument, none, t)
    else
      match ← validateTransferReady t timeoutMs with
      | (.error status, t) => pure (status, none, t)
      | (.ok deadline, t) =>
        let t ← makeSlotsReusable t
        ask (.fill output)
        -- the receive is armed before the request is visible to the device
        match ← submitSlot { t with
          output := { t.output with buffer := output }, state := .busy } .input with
        | (.ok, t) =>
          match ← submitSlot t .output with
          | (.ok, t) =>
            match ← waitForActiveUrbs deadline waitLimit t with
            | (.ok, t) =>
              match validateReapedSlots t with
              | .ok =>
                let received := t.input.buffer
                let t ← makeSlotsReusable t
                pure (.ok, some received, { t with state := .ready })
              | status =>
                let (status, t) ← finishFailure t status .transferError
                pure (status, none, t)
            | (status, t) => pure (status, none, t)
          | (status, t) =>
            let (status, t) ← finishFailure t status .transferError
            pure (status, none, t)
        | (status, t) =>
          let (status, t) ← finishFailure t status .transferError
          pure (status, none, t)

def directionalTransfer (name : SlotName) (deadline : ℕ) : UrbProg (Status × Transport) := do
  match ← submitSlot { t with state := .busy } name with
  | (.ok, t) =>
    match ← waitForActiveUrbs deadline waitLimit t with
    | (.ok, t) =>
      match (t.slot name).validate with
      | .ok => pure (.ok, t)
      | status => finishFailure t status .transferError
    | (status, t) => pure (status, t)
  | (status, t) => finishFailure t status .transferError

def sendOnly (output : Option Packet) (timeoutMs : ℕ) : UrbProg (Status × Transport) := do
  match output with
  | none => pure (.invalidArgument, t)
  | some output =>
    if output.length ≠ transferSize then pure (.invalidArgument, t)
    else
      match ← validateTransferReady t timeoutMs with
      | (.error status, t) => pure (status, t)
      | (.ok deadline, t) =>
        let t ← makeSlotsReusable t
        ask (.fill output)
        match ← directionalTransfer { t with output := { t.output with buffer := output } }
          .output deadline with
        | (.ok, t) =>
          let t ← makeSlotsReusable t
          pure (.ok, { t with state := .ready })
        | (status, t) => pure (status, t)

def receiveOnly (inputCapacity : Option ℕ) (timeoutMs : ℕ) :
    UrbProg (Status × Option Packet × Transport) := do
  if inputCapacity ≠ some transferSize then pure (.invalidArgument, none, t)
  else
    match ← validateTransferReady t timeoutMs with
    | (.error status, t) => pure (status, none, t)
    | (.ok deadline, t) =>
      let t ← makeSlotsReusable t
      match ← directionalTransfer t .input deadline with
      | (.ok, t) =>
        let received := t.input.buffer
        let t ← makeSlotsReusable t
        pure (.ok, some received, { t with state := .ready })
      | (status, t) => pure (status, none, t)

/-! ### The life of a transport -/

def initializeTransport : UrbProg (Status × Transport) := do
  match ← allocateSlot .zeroed .input with
  | (.ok, t) =>
    match ← allocateSlot t .output with
    | (.ok, t) =>
      let t ← makeSlotsReusable t
      match ← ask .claimInterface with
      | .ok => pure (.ok, { t with interfaceClaimed := true, state := .ready })
      | _ =>
        let t ← releaseAllocations t
        pure (.claimFailed, t)
    | (status, t) =>
      let t ← releaseAllocations t
      pure (status, t)
  | (status, t) => pure (status, t)

def releaseTransport (status : Status) (t : Transport) : UrbProg (Status × Transport) := do
  let t ← releaseAllocations t
  pure (status, t)

/-- The end of `destroy`, when no URB is active. -/
def destroyIdle : UrbProg (Status × Transport) := do
  if t.interfaceClaimed then
    match ← ask .releaseInterface with
    | .ok => releaseTransport .ok t
    | _ => releaseTransport .releaseFailed t
  else releaseTransport .ok t

def destroy : UrbProg (Status × Transport) := do
  if t.state = .uninitialized ∧ t.interfaceClaimed = false ∧ t.input.allocated = false ∧
      t.output.allocated = false then pure (.ok, t)
  else if t.anySlotIsActive then
    match ← cleanupActiveUrbs t with
    | (.ok, t) => destroyIdle t
    | (_, t) => pure (.cleanupFailed, t)
  else destroyIdle t

/-- Only for a descriptor that has been closed. -/
def abandonAfterClose : UrbProg Transport := releaseAllocations t

end T1Bridge.Sep.Urb
