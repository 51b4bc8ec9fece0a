import T1Bridge.Lib.Machine
import Mathlib.Data.List.Basic

/-! # The desktop action queue

The renderer puts actions into a bounded queue and one provider thread takes them out.  Each
access holds the queue's lock, so a run is an interleaving of whole accesses: a dispatch, one
pass of the taking loop (the first, or the one after a wake-up) and the close.  Each of them
can find the lock unusable.

What was taken followed by what is pending is what was accepted, up to volume settings that a
newer one replaced (`Coalesced`). -/

namespace T1Bridge.TouchBar

inductive DesktopAction where
  | setVolume (value : UInt8)
  | toggleMute
  | mediaPrevious
  | mediaPlayPause
  | mediaNext
  | showDisplayBrightness
  | showKeyboardBacklight

def actionQueueCapacity : ℕ := 16

/-- A volume above 100 is accepted as 100. -/
def DesktopAction.limited : DesktopAction → DesktopAction
  | setVolume value => setVolume (min value 100)
  | action => action

/-- The mailbox between the service and the desktop. -/
structure ActionQueue where
  pending : List DesktopAction := []
  closed : Bool := false

namespace ActionQueue

/-- Accesses to the queue; `locked` is whether the lock was had. -/
inductive Access where
  | dispatch (locked : Bool) (action : DesktopAction)
  -- `entered`: the lock was obtained and a wait before this pass did not time out
  | take (entered expired : Bool)
  | close (locked : Bool)

inductive Outcome where
  | accepted (queued : Bool)
  | taken (action : Option DesktopAction)
  | waiting
  | closed

variable (q : ActionQueue)

def dispatch (action : DesktopAction) : Bool × ActionQueue :=
  if q.closed then (false, q)
  else match action.limited, q.pending.getLast? with
    | .setVolume v, some (.setVolume _) =>
      (true, { q with pending := q.pending.dropLast ++ [.setVolume v] })
    | action, _ =>
      if q.pending.length < actionQueueCapacity then
        (true, { q with pending := q.pending ++ [action] })
      else (false, q)

/-- One pass of the loop in `take_action`. -/
def takeAction (expired : Bool) : Outcome × ActionQueue :=
  if q.closed then (.taken none, q)
  else match q.pending with
    | action :: rest => (.taken (some action), { q with pending := rest })
    | [] => (if expired then .taken none else .waiting, q)

def step : Access → Outcome × ActionQueue
  | .dispatch locked action =>
    let (queued, q) := if locked then q.dispatch action else (false, q)
    (.accepted queued, q)
  | .take entered expired => if entered then q.takeAction expired else (.taken none, q)
  | .close locked => (.closed, if locked then { q with closed := true } else q)

abbrev Event := Machine.Event ActionQueue Access Outcome

/-- The action that an access put into the queue. -/
def accepted : Access → Outcome → Option DesktopAction
  | .dispatch _ action, .accepted true => some action.limited
  | _, _ => none

def taken : Outcome → Option DesktopAction
  | .taken action => action
  | _ => none

/-- The actions in the order of acceptance, where a volume setting may have taken the place of
one directly before it. -/
inductive Coalesced : List DesktopAction → List DesktopAction → Prop
  | nil : Coalesced [] []
  | keep {l m : List DesktopAction} (a : DesktopAction) :
      Coalesced l m → Coalesced (l ++ [a]) (m ++ [a])
  | replace {l m : List DesktopAction} (v v' : UInt8) :
      Coalesced l (m ++ [.setVolume v]) → Coalesced (l ++ [.setVolume v']) (m ++ [.setVolume v'])

/-- The queue is within its bound, and what was taken together with it is what was accepted. -/
def Kept (log seen : List DesktopAction) (q : ActionQueue) : Prop :=
  q.pending.length ≤ actionQueueCapacity ∧ Coalesced log (seen ++ q.pending)

section

variable {log seen : List DesktopAction} {q}

lemma Kept.dispatch (h : Kept log seen q) (action : DesktopAction) :
    Kept (log ++ if (q.dispatch action).1 then [action.limited] else []) seen
      (q.dispatch action).2 := by
  unfold ActionQueue.dispatch
  by_cases hclosed : q.closed = true
  · simpa [hclosed] using h
  rw [if_neg hclosed]
  split
  · next v' v hv' hv =>
    obtain ⟨front, hfront⟩ := List.getLast?_eq_some_iff.mp hv
    simp only [Kept, hfront, hv', List.length_append, List.dropLast_concat,
      ← List.append_assoc] at h ⊢
    exact ⟨h.1, h.2.replace v v'⟩
  · by_cases hroom : q.pending.length < actionQueueCapacity
    · simp only [Kept, hroom, if_true, List.length_append, ← List.append_assoc]
      exact ⟨hroom, h.2.keep _⟩
    · simpa [hroom] using h

/-- Every access keeps the queue in step with the log. -/
lemma Kept.step (h : Kept log seen q) (i : Access) :
    Kept (log ++ (accepted i (q.step i).1).toList) (seen ++ (taken (q.step i).1).toList)
      (q.step i).2 := by
  cases i with
  | close locked => cases locked <;> simpa [accepted, taken, ActionQueue.step, Kept] using h
  | dispatch locked action =>
    cases locked with
    | false => simpa [accepted, taken, ActionQueue.step] using h
    | true =>
      have hd := h.dispatch action
      cases hq : (q.dispatch action).1 <;>
        simpa [accepted, taken, ActionQueue.step, hq] using hd
  | take entered expired =>
    cases entered with
    | false => simpa [accepted, taken, ActionQueue.step] using h
    | true =>
      simp only [ActionQueue.step, takeAction, if_true]
      split
      · simpa [accepted, taken] using h
      split
      · next a rest hp =>
        simp only [Kept, hp] at h
        exact ⟨Nat.le_of_succ_le h.1, by simpa [accepted, taken] using h.2⟩
      · cases expired <;> simpa [accepted, taken] using h

end

end ActionQueue

end T1Bridge.TouchBar
