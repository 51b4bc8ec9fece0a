import T1Bridge.Device.Mesa
import T1Bridge.Lib.Crash
import T1Bridge.Lib.Program
import T1Bridge.Store.Names

/-! # The host a store program runs on

The programs of this directory ask the operations `HostOp`: file system calls, the process'
effective user, a fresh artifact token, commands to the sensor, and the callbacks of the caller.
`World` is the state they act on.  A `Choice` decides one operation: whether it fails, the
order of a listing, what the sensor replies.  In a `reliable` world no file system call fails
for a reason of its own, so that a program there returns what the file system says. -/

namespace T1Bridge.Store

open Device FileSystem

/-- A failure of the transport, with the native status when it carries one. -/
structure TransportError where
  status : Option ℤ
deriving DecidableEq

/-- A failure of the caller's event source. -/
structure EventError where
  code : ℕ
deriving DecidableEq

/-- A failure of the caller's timer. -/
structure WaitError where
  code : ℕ

/-- What the programs ask of the system and the device. -/
inductive HostOp where
  | file (o : FileOp Name)
  | effectiveUid
  | artifactToken
  | execute (packet : CommandPacket)
  | enrollmentEvent
  | matchEvent
  | wait (delay : ℕ)
  | mesaCompleted
  | beforeStart
  | progress (value : ℕ)

/-- The answer to an operation; no user is known when the process status cannot be read. -/
def HostOp.Answer : HostOp → Type
  | file o => Except FileError o.Value
  | effectiveUid => Option ℕ
  | artifactToken => ArtifactSeed
  | execute _ => Except TransportError Packet
  | enrollmentEvent => Except EventError EnrollmentEvent
  | matchEvent => Except EventError MatchEvent
  | wait _ => Except WaitError Unit
  | mesaCompleted => Bool
  | beforeStart | progress _ => Unit

/-- What the sensor and the caller answered. -/
inductive Happening where
  | exchanged (packet : CommandPacket) (reply : Except TransportError Packet)
  | enrollmentEvent (event : Except EventError EnrollmentEvent)
  | matchEvent (event : Except EventError MatchEvent)
  | mesaCompleted (accepted : Bool)

/-- The file system, who asks, and what was asked of the device. -/
structure World where
  fs : FileSystem Name
  bounded : fs.Bounded
  who : Credentials
  reliable : Bool
  log : List Happening

/-- One decision of everything the programs do not control. -/
structure Choice where
  fault : Option (List UInt8)
  order : List Name
  seed : ArtifactSeed
  reply : Except TransportError Packet
  enrollmentEvent : Except EventError EnrollmentEvent
  matchEvent : Except EventError MatchEvent
  wait : Except WaitError Unit
  mesaCompleted : Bool

namespace World

/-- The world with another file system. -/
def withFs (w : World) (fs : FileSystem Name) (h : fs.Bounded) : World :=
  { w with fs := fs, bounded := h }

def record (w : World) (h : Happening) : World := { w with log := w.log ++ [h] }

/-- What a failing call leaves behind, when calls can fail. -/
def fault (w : World) (c : Choice) : Option (List UInt8) := if w.reliable then none else c.fault

def exec (c : Choice) (w : World) : (op : HostOp) → op.Answer × World
  | .file o =>
    ((w.fs.exec w.who (w.fault c) c.order o).1, w.withFs (w.fs.exec w.who (w.fault c) c.order o).2
        (exec_bounded w.bounded w.who (w.fault c) c.order o))
  | .effectiveUid => (if (w.fault c).isSome then none else some w.who.uid, w)
  | .artifactToken => (c.seed, w)
  | .execute packet => (c.reply, w.record (.exchanged packet c.reply))
  | .enrollmentEvent => (c.enrollmentEvent, w.record (.enrollmentEvent c.enrollmentEvent))
  | .matchEvent => (c.matchEvent, w.record (.matchEvent c.matchEvent))
  | .wait _ => (c.wait, w)
  | .mesaCompleted => (c.mesaCompleted, w.record (.mesaCompleted c.mesaCompleted))
  | .beforeStart => ((), w)
  | .progress _ => ((), w)

end World

/-- No entry has a name made from the token, and none can appear in a crash. -/
def Fresh (fs : FileSystem Name) (token : Name) : Prop :=
  ∀ d (k : Artifact), fs.PinnedEntry d (k.name token) none

/-- The host.  Process, time and counter never make the same artifact token twice. -/
def Host : Environment HostOp HostOp.Answer World Choice where
  admissible c w op := op = .artifactToken → Fresh w.fs (artifactToken c.seed)
  exec := World.exec

abbrev HostProg := Prog HostOp HostOp.Answer

def call (o : FileOp Name) : HostProg (Except FileError o.Value) := Prog.perform (HostOp.file o)

/-- `Fresh` as a test. -/
def isFresh (fs : FileSystem Name) (token : Name) : Bool :=
  [Artifact.generation, .stage, .recovery, .markerTemporary].all fun k => fs.isFree (k.name token)

lemma fresh_of_isFresh {fs : FileSystem Name} (hb : fs.Bounded) {token : Name}
    (h : isFresh fs token = true) : Fresh fs token := by
  simp only [isFresh, List.all_cons, List.all_nil, Bool.and_true, Bool.and_eq_true] at h
  intro d k
  cases k with
  | generation => exact pinnedEntry_of_isFree hb h.1 d
  | stage => exact pinnedEntry_of_isFree hb h.2.1 d
  | recovery => exact pinnedEntry_of_isFree hb h.2.2.1 d
  | markerTemporary => exact pinnedEntry_of_isFree hb h.2.2.2 d

/-- The host with a test for what can be chosen. -/
def TestedHost : Environment HostOp HostOp.Answer World Choice where
  admissible c w op := (match op with
    | .artifactToken => isFresh w.fs (artifactToken c.seed)
    | _ => true) = true
  exec := World.exec

instance (c : Choice) (w : World) (op : HostOp) : Decidable (TestedHost.admissible c w op) :=
  inferInstanceAs (Decidable (_ = true))

/-- A run computed under a list of choices. -/
lemma steps_advance {α : Type} (cs : List Choice) (p : HostProg α) (w : World) :
    Prog.Steps Host p w (Prog.advance TestedHost cs p w).1 (Prog.advance TestedHost cs p w).2 := by
  have h : Prog.Steps TestedHost p w _ _ := Prog.advance_steps cs p w
  refine Prog.Steps.mono ?_ ?_ h
  · rfl
  · rintro c w op hop rfl
    exact fresh_of_isFresh w.bounded hop

/-- Requests to the sensor and the caller, not to the file system. -/
def HostOp.IsElsewhere : HostOp → Prop
  | .file _ => False
  | _ => True

/-- The file system and the process are as they were. -/
def Untouched (w w' : World) : Prop :=
  w'.fs = w.fs ∧ w'.who = w.who ∧ w'.reliable = w.reliable

lemma wp_elsewhere {α : Type} {R : α → Prop} {p : HostProg α}
    (hp : p.Only HostOp.IsElsewhere R) (w : World) :
    Prog.wp Host (fun w' op => op.IsElsewhere ∧ Untouched w w') p
      (fun a w' => R a ∧ Untouched w w') w := by
  refine hp.keeps (fun w' op c hop _ h => ?_) ⟨rfl, rfl, rfl⟩
  cases op with
  | file o => exact hop.elim
  | _ => exact h

/-! ### Rules for the operations -/

variable {safe : World → HostOp → Prop} {w : World}

@[simp] lemma World.withFs_fs (fs : FileSystem Name) (h : fs.Bounded) :
    (w.withFs fs h).fs = fs := rfl

lemma World.fault_eq_some {c : Choice} {b : List UInt8} (h : w.fault c = some b) :
    w.reliable = false := by
  unfold World.fault at h
  split at h
  · cases h
  · next hr => simpa using hr

lemma exec_keeps {I : FileSystem Name → Prop} {op : HostOp} (h : I w.fs)
    (hok : ∀ o, op = .file o → ∀ order v es, w.fs.meaning w.who order o = .ok (v, es) →
      I (w.fs.runAll es))
    (htorn : ∀ r b b', op = .file (.write r b) → I ((Effect.write r b').run w.fs)) (c : Choice) :
    I (Host.exec c w op).2.fs := by
  cases op with
  | file o =>
    refine exec_cases (P := fun r => I r.2) (fun b' _ => ?_)
      (fun _ _ hm => hok o rfl _ _ _ hm) fun _ _ => h
    cases o with
    | write r b => exact htorn r b b' rfl
    | _ => exact h
  | _ => exact h

/-- A call: it fails for a reason of its own, or it does what the file system says. -/
lemma wp_call {o : FileOp Name} {Q : Except FileError o.Value → World → Prop}
    (hsafe : safe w (.file o))
    (hfault : w.reliable = false → ∀ b h, Q (.error .failed) (w.withFs (w.fs.runAll (torn b o)) h))
    (hok : ∀ order v es, w.fs.meaning w.who order o = .ok (v, es) →
      ∀ h, Q (.ok v) (w.withFs (w.fs.runAll es) h))
    (herr : ∀ order e, w.fs.meaning w.who order o = .error e → Q (.error e) w) :
    Prog.wp Host safe (call o) Q w := by
  refine Prog.wp_perform hsafe fun c _ => ?_
  have key : ∀ h, Q (w.fs.exec w.who (w.fault c) c.order o).1
      (w.withFs (w.fs.exec w.who (w.fault c) c.order o).2 h) := by
    refine exec_cases (P := fun r => ∀ h, Q r.1 (w.withFs r.2 h)) ?_ ?_ ?_
    · exact fun b hb => hfault (w.fault_eq_some hb) b
    · exact fun v es hm => hok c.order v es hm
    · exact fun e hm _ => herr c.order e hm
  exact key _

end T1Bridge.Store
