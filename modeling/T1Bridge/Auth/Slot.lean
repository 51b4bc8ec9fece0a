import T1Bridge.Auth.Protocol
import T1Bridge.Lib.Heap

/-! # The cancellation slot

`CancellationSlot` is the one place where the broker thread (which delivers cancellations)
and the worker thread (which closes delivery at its cutoff) meet.  All four functions hold
the slot's mutex for their whole body, so an execution is a sequence of calls and the
model is a state machine on the slot's contents.

A registration names an operation token and the event cell of that operation.  The event
cells are shared between the coordinator's handles and the worker's clones, so they live
in a heap beside the registration and are compared by reference. -/

namespace T1Bridge

/-- The operation that can be cancelled and the event that tells it. -/
structure CancellationRegistration where
  token : OperationToken
  event : Ref
deriving DecidableEq

/-- The slot behind one shared pointer.  `identity` is that pointer, `poisoned` the mutex
flag a panic under the lock would leave, `events` the event cells of its registrations. -/
structure CancellationSlot where
  identity : Ref
  registration : Option CancellationRegistration := none
  poisoned : Bool := false
  events : Heap Bool := {}

inductive CancellationAlreadyActive where
  | mk

namespace CancellationSlot

variable (slot : CancellationSlot)

/-- `Arc::new(AtomicBool::new(false))`. -/
def newEvent : Ref × CancellationSlot :=
  let (event, events) := slot.events.alloc false
  (event, { slot with events := events })

def eventIsSet (event : Ref) : Bool :=
  (slot.events.load event).getD false

variable (token : OperationToken) (event : Ref)

/-- Publishes an operation's event; refuses when one is installed or the lock is poisoned. -/
def install : Except CancellationAlreadyActive Unit × CancellationSlot :=
  if slot.poisoned then (.error .mk, slot)
  else if slot.registration.isSome then (.error .mk, slot)
  else (.ok (), { slot with registration := some ⟨token, event⟩ })

/-- Clears the slot only if it still contains this operation's event. -/
def clear : CancellationSlot :=
  if !slot.poisoned && slot.registration = some ⟨token, event⟩ then
    { slot with registration := none }
  else slot

/-- Closes one exact registration and reports whether no cancellation had been delivered. -/
def close : Bool × CancellationSlot :=
  if slot.poisoned then (false, slot)
  else
    match slot.registration with
    | none => (false, slot)
    | some installed =>
      if installed.token ≠ token ∨ installed.event ≠ event then (false, slot)
      else (!slot.eventIsSet installed.event, { slot with registration := none })

/-- Sets the event of the worker registered for `token`. -/
def deliver (slot : CancellationSlot) : Bool × CancellationSlot :=
  if slot.poisoned then (false, slot)
  else
    match slot.registration with
    | none => (false, slot)
    | some registration =>
      if registration.token ≠ token then (false, slot)
      else (true, { slot with events := slot.events.store registration.event true })

/-! ### Exact calls -/

variable {slot} {token} {event}

lemma install_eq_ok (token : OperationToken) (event : Ref)
    (hp : slot.poisoned = false) (hr : slot.registration = none) :
    slot.install token event = (.ok (), { slot with registration := some ⟨token, event⟩ }) := by
  simp [install, hp, hr]

lemma clear_eq (hp : slot.poisoned = false) (hr : slot.registration = some ⟨token, event⟩) :
    slot.clear token event = { slot with registration := none } := by
  simp [clear, hp, hr]

lemma close_eq (hp : slot.poisoned = false) (hr : slot.registration = some ⟨token, event⟩) :
    slot.close token event = (!slot.eventIsSet event, { slot with registration := none }) := by
  simp [close, hp, hr]

lemma deliver_eq (hp : slot.poisoned = false) (hr : slot.registration = some ⟨token, event⟩) :
    deliver token slot = (true, { slot with events := slot.events.store event true }) := by
  simp [deliver, hp, hr]

/-! ### Calls that name another registration are refused and change nothing -/

lemma clear_of_ne
    (hr : slot.registration ≠ some ⟨token, event⟩) : slot.clear token event = slot := by
  simp [clear, hr]

lemma close_of_ne (hr : slot.registration ≠ some ⟨token, event⟩) :
    slot.close token event = (false, slot) := by
  unfold close
  split_ifs with hp
  · rfl
  split
  · rfl
  next installed hi =>
  split_ifs with hne
  · rfl
  simp only [not_or, not_not] at hne
  obtain ⟨rfl, rfl⟩ := hne
  exact absurd hi hr

lemma deliver_of_ne (hr : ∀ registration, slot.registration = some registration →
      registration.token ≠ token) : deliver token slot = (false, slot) := by
  unfold deliver
  split_ifs with hp
  · rfl
  split
  · rfl
  · next registration hi => simp [hr registration hi]

end CancellationSlot

end T1Bridge
