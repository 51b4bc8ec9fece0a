import T1Bridge.Auth.History

/-! # Polling a worker thread

A worker thread reports over a channel of capacity one and then exits.  The daemon polls it
with two separate observations, a receive attempt and the question whether the thread has
finished, and the thread may move between them.  Both protocols poll in the same way: the
direct worker never sends progress.

`poll` is the daemon's decision on its observations.  The machine `polling` interleaves the
steps of one thread with the observations of its poller.  A completion is either still to
be sent, in the channel, taken, or delivered (`Stage`); a poll that finds the channel empty
and then a finished thread takes the thread for lost, which is right exactly when the
channel has stayed empty in between (`Undisturbed`).  The result is
**`completion_delivered_once`**. -/

namespace T1Bridge

/-- What a worker thread sends. -/
inductive WorkerEvent (π χ : Type) where
  | progress (progress : π)
  | completed (completion : χ)

inductive TryRecvError where
  | empty | disconnected

/-- What a poll of the thread reports. -/
inductive WorkerPoll (π χ : Type) where
  | pending
  | progress (progress : π)
  | completed (completion : χ)
  | lost

/-- The poll of a worker thread: what was received, whether the thread has finished when it
is asked after that, and whether joining it succeeds. -/
def poll {π χ : Type} (received : Except TryRecvError (WorkerEvent π χ))
    (isFinished joined : Bool) : WorkerPoll π χ :=
  match received with
  | .ok (.progress progress) => .progress progress
  | .ok (.completed completion) => if joined then .completed completion else .lost
  | .error .empty => if !isFinished then .pending else .lost
  | .error .disconnected => .lost

namespace Worker

open List (forall_mem_append forall_mem_singleton)

variable {π χ : Type} {completion : χ}

/-! ### One thread and its poller -/

/-- A thread with the events it has yet to send, of which the completion is the last. -/
structure Thread (π χ : Type) where
  toSend : List (WorkerEvent π χ)
  channel : Option (WorkerEvent π χ)
  senderDropped : Bool
  exited : Bool
  panicked : Bool

def Thread.spawn (progress : List π) (completion : χ) : Thread π χ :=
  ⟨progress.map .progress ++ [.completed completion], none, false, false, false⟩

def Thread.tryRecv (t : Thread π χ) : Except TryRecvError (WorkerEvent π χ) × Thread π χ :=
  match t.channel with
  | some event => (.ok event, { t with channel := none })
  | none => (.error (if t.senderDropped then .disconnected else .empty), t)

/-- The thread, the receive attempt of a poll under way, and whether the poller has done
with the thread. -/
structure State (π χ : Type) where
  thread : Thread π χ
  received : Option (Except TryRecvError (WorkerEvent π χ))
  ended : Bool

def State.spawn (progress : List π) (completion : χ) : State π χ :=
  ⟨Thread.spawn progress completion, none, false⟩

/-- Steps of the thread and of its poller. -/
inductive Action where
  | send | dropSender | exit | panic
  | tryRecv | observe
deriving DecidableEq

variable (s : State π χ)

/-- Sending waits for room in the channel; joining waits for the exit. -/
def State.enabled : Action → Prop
  | .send => s.thread.toSend ≠ [] ∧ s.thread.channel.isNone ∧ s.thread.panicked = false
  | .panic => s.thread.toSend ≠ [] ∧ s.thread.panicked = false
  | .dropSender => (s.thread.toSend = [] ∨ s.thread.panicked = true) ∧
      s.thread.senderDropped = false
  | .exit => s.thread.senderDropped = true ∧ s.thread.exited = false
  | .tryRecv => s.received.isNone ∧ s.ended = false
  | .observe =>
    match s.received with
    | none => False
    | some (.ok (.progress _)) => True
    | some (.error .empty) => True
    | some (.ok (.completed _)) => s.thread.exited = true
    | some (.error .disconnected) => s.thread.exited = true

def WorkerPoll.isFinal : WorkerPoll π χ → Bool
  | .completed _ => true
  | .lost => true
  | _ => false

def State.step : Action → Option (WorkerPoll π χ) × State π χ
  | .send => (none, { s with thread := { s.thread with
      toSend := s.thread.toSend.tail, channel := s.thread.toSend.head? } })
  | .panic => (none, { s with thread := { s.thread with panicked := true } })
  | .dropSender => (none, { s with thread := { s.thread with senderDropped := true } })
  | .exit => (none, { s with thread := { s.thread with exited := true } })
  | .tryRecv =>
    let (received, thread) := s.thread.tryRecv
    (none, { s with thread := thread, received := some received })
  | .observe =>
    match s.received with
    | none => (none, s)
    | some received =>
      let result := poll received s.thread.exited !s.thread.panicked
      (some result, { s with received := none, ended := WorkerPoll.isFinal result })

def polling (π χ : Type) : Machine (State π χ) Action (Option (WorkerPoll π χ)) where
  init s := ∃ progress completion, s = State.spawn progress completion
  enabled := State.enabled
  step := State.step

abbrev Event (π χ : Type) := Machine.Event (State π χ) Action (Option (WorkerPoll π χ))

/-- The completions that the poller hands on. -/
def completions (tr : List (Event π χ)) : List χ :=
  tr.filterMap fun e =>
    match e.output with
    | some (.completed completion) => some completion
    | _ => none

/-- The thread that a poll finds finished after an empty receive has left nothing in its
channel. -/
def Undisturbed (a : Action) : Prop :=
  a = .observe → s.received = some (.error .empty) → s.thread.exited = true →
    s.thread.channel = none

/-! ### Where the completion is -/

/-- The poll under way, if any, has not taken the completion. -/
def NotTaken : Prop := ∀ completion, s.received ≠ some (.ok (.completed completion))

/-- Where the completion of the thread is. -/
inductive Stage (completion : χ) (s : State π χ) : Prop
  /-- Progress may be in the channel; only a panic ends the thread or the polling. -/
  | unsent (rest : List π) (hsend : s.thread.toSend = rest.map .progress ++ [.completed completion])
      (hchannel : ∀ event ∈ s.thread.channel, ∃ progress, event = .progress progress)
      (htaken : NotTaken s) (hended : s.ended = true → s.thread.panicked = true)
      (hdropped : s.thread.senderDropped = true → s.thread.panicked = true)
      (hreceived : s.received = some (.error .disconnected) → s.thread.panicked = true)
  | sent (hsend : s.thread.toSend = []) (hok : s.thread.panicked = false)
      (hchannel : s.thread.channel = some (.completed completion)) (htaken : NotTaken s)
      (hended : s.ended = false) (hreceived : s.received ≠ some (.error .disconnected))
  | taken (hsend : s.thread.toSend = []) (hok : s.thread.panicked = false)
      (hchannel : s.thread.channel = none)
      (htaken : s.received = some (.ok (.completed completion))) (hended : s.ended = false)
  | delivered (hsend : s.thread.toSend = []) (hok : s.thread.panicked = false)
      (hchannel : s.thread.channel = none) (hreceived : s.received = none) (hended : s.ended = true)

/-- An exited thread has dropped its sender. -/
structure Tracked (completion : χ) (s : State π χ) : Prop where
  stage : Stage completion s
  exited : s.thread.exited = true → s.thread.senderDropped = true

lemma tracked_spawn (progress : List π) (completion : χ) :
    Tracked completion (State.spawn progress completion) where
  stage := .unsent progress rfl (by rintro _ ⟨⟩) (by rintro _ ⟨⟩) (by rintro ⟨⟩) (by rintro ⟨⟩)
    (by rintro ⟨⟩)
  exited := by rintro ⟨⟩

section

variable {s} {a : Action}

lemma Stage.closing (h : Stage completion s) {dropped exited : Bool}
    (hdropped : dropped = true →
      s.thread.toSend = [] ∨ s.thread.senderDropped = true ∨ s.thread.panicked = true) :
    Stage completion
      { s with thread := { s.thread with senderDropped := dropped, exited := exited } } := by
  cases h with
  | unsent rest hsend hchannel htaken hended hpanicked hreceived =>
    refine .unsent rest hsend hchannel htaken hended (fun h => ?_) hreceived
    rcases hdropped h with hempty | hdropped | hp
    · simp [hsend] at hempty
    · exact hpanicked hdropped
    · exact hp
  | sent hsend hok hchannel htaken hended hreceived =>
    exact .sent hsend hok hchannel htaken hended hreceived
  | taken hsend hok hchannel htaken hended => exact .taken hsend hok hchannel htaken hended
  | delivered hsend hok hchannel hreceived hended =>
    exact .delivered hsend hok hchannel hreceived hended

section

variable (ht : Tracked completion s)

include ht

lemma Tracked.send (he : s.enabled .send) : Tracked completion (s.step .send).2 where
  exited := ht.exited
  stage := by
    obtain ⟨hne, hnone, hok⟩ := he
    cases ht.stage with
    | unsent rest hsend hchannel htaken hended hdropped hreceived =>
      cases rest with
      | nil =>
        refine .sent ?_ hok ?_ htaken ?_ ?_
        · simp [State.step, hsend]
        · simp [State.step, hsend]
        · rw [← Bool.not_eq_true]
          intro h
          simp [hended h] at hok
        · intro h
          simp [hreceived h] at hok
      | cons progress rest =>
        refine .unsent rest ?_ ?_ htaken hended hdropped hreceived
        · simp [State.step, hsend]
        · simp [State.step, hsend]
    | sent hsend | taken hsend | delivered hsend => exact absurd hsend hne

lemma Tracked.panic (he : s.enabled .panic) : Tracked completion (s.step .panic).2 where
  exited := ht.exited
  stage := by
    cases ht.stage with
    | unsent rest hsend hchannel htaken =>
      exact .unsent rest hsend hchannel htaken (fun _ => rfl) (fun _ => rfl) (fun _ => rfl)
    | sent hsend | taken hsend | delivered hsend => exact absurd hsend he.1

lemma Tracked.dropSender (he : s.enabled .dropSender) :
    Tracked completion (s.step .dropSender).2 where
  exited _ := rfl
  stage := ht.stage.closing fun _ => he.1.imp_right .inr

lemma Tracked.exit (he : s.enabled .exit) : Tracked completion (s.step .exit).2 where
  exited _ := he.1
  stage := ht.stage.closing fun hdropped => .inr (.inl hdropped)

lemma Tracked.tryRecv (he : s.enabled .tryRecv) : Tracked completion (s.step .tryRecv).2 where
  exited := by
    simp only [State.step, Thread.tryRecv]
    split <;> exact ht.exited
  stage := by
    simp only [State.step, Thread.tryRecv]
    cases ht.stage with
    | unsent rest hsend hchannel htaken hended hdropped hreceived =>
      split
      · next event hevent =>
        obtain ⟨progress, rfl⟩ := hchannel event hevent
        exact .unsent rest hsend (by rintro _ ⟨⟩) (by rintro _ ⟨⟩) hended hdropped (by rintro ⟨⟩)
      · refine .unsent rest hsend hchannel (by rintro _ ⟨⟩) hended hdropped ?_
        intro h
        split_ifs at h with hd
        · exact hdropped hd
        · cases h
    | sent hsend hok hchannel htaken hended hreceived =>
      rw [hchannel]
      exact .taken hsend hok rfl rfl hended
    | taken _ _ _ htaken => simp [State.enabled, htaken] at he
    | delivered _ _ _ _ hended => simp [State.enabled, hended] at he

/-- What a poll reports: the loss of a thread only after a panic, and its completion only
when it was taken from the channel. -/
lemma Tracked.observe (he : s.enabled .observe) (hu : Undisturbed s .observe) :
    Tracked completion (s.step .observe).2 ∧
    ((∃ result, (s.step .observe).1 = some result ∧ WorkerPoll.isFinal result = false) ∨
      ((s.step .observe).1 = some .lost ∧ s.thread.panicked = true) ∨
      ((s.step .observe).1 = some (.completed completion) ∧ s.thread.panicked = false)) := by
  have hexited := ht.exited
  cases ht.stage with
  | unsent rest hsend hchannel htaken hended hdropped hreceived =>
    rcases hr : s.received with _ | ((_ | _) | (progress | c))
    · simp [State.enabled, hr] at he
    · cases hx : s.thread.exited with
      | false =>
        simp only [State.step, hr, hx]
        exact ⟨⟨.unsent rest hsend hchannel (by rintro _ ⟨⟩) (by rintro ⟨⟩) hdropped
          (by rintro ⟨⟩), hexited⟩, .inl ⟨_, rfl, rfl⟩⟩
      | true =>
        have hp := hdropped (hexited hx)
        simp only [State.step, hr, hx]
        exact ⟨⟨.unsent rest hsend hchannel (by rintro _ ⟨⟩) (fun _ => hp) hdropped
          (by rintro ⟨⟩), hexited⟩, .inr (.inl ⟨rfl, hp⟩)⟩
    · have hp := hreceived hr
      simp only [State.step, hr, poll]
      exact ⟨⟨.unsent rest hsend hchannel (by rintro _ ⟨⟩) (fun _ => hp) hdropped
        (by rintro ⟨⟩), hexited⟩, .inr (.inl ⟨trivial, hp⟩)⟩
    · simp only [State.step, hr]
      exact ⟨⟨.unsent rest hsend hchannel (by rintro _ ⟨⟩) (by rintro ⟨⟩) hdropped
        (by rintro ⟨⟩), hexited⟩, .inl ⟨_, rfl, rfl⟩⟩
    · exact absurd hr (htaken c)
  | sent hsend hok hchannel htaken hended hreceived =>
    rcases hr : s.received with _ | ((_ | _) | (progress | c))
    · simp [State.enabled, hr] at he
    · have hx : s.thread.exited = false := by
        rw [← Bool.not_eq_true]
        intro hx
        have := hu rfl hr hx
        rw [hchannel] at this
        cases this
      simp only [State.step, hr, hx]
      exact ⟨⟨.sent hsend hok hchannel (by rintro _ ⟨⟩) rfl (by rintro ⟨⟩), hexited⟩,
        Or.inl ⟨_, rfl, rfl⟩⟩
    · exact absurd hr hreceived
    · simp only [State.step, hr]
      exact ⟨⟨.sent hsend hok hchannel (by rintro _ ⟨⟩) rfl (by rintro ⟨⟩), hexited⟩,
        Or.inl ⟨_, rfl, rfl⟩⟩
    · exact absurd hr (htaken c)
  | taken hsend hok hchannel htaken hended =>
    simp only [State.step, htaken, hok]
    exact ⟨⟨.delivered hsend hok hchannel rfl rfl, hexited⟩, .inr (.inr ⟨rfl, trivial⟩)⟩
  | delivered _ _ _ hreceived => simp [State.enabled, hreceived] at he

end

/-- A poll leaves the thread alone and is the last one if its report is final. -/
lemma observe_frame {result : WorkerPoll π χ} (h : (s.step .observe).1 = some result) :
    (s.step .observe).2.thread = s.thread ∧
      (s.step .observe).2.ended = WorkerPoll.isFinal result := by
  simp only [State.step] at h ⊢
  split at h
  · cases h
  · cases h
    exact ⟨rfl, rfl⟩

/-- After the delivery there is nothing left to observe, and nothing that can panic. -/
lemma Tracked.not_enabled (ht : Tracked completion s) (ho : s.ended = true)
    (hp : s.thread.panicked = false) : ¬ s.enabled .observe ∧ ¬ s.enabled .panic := by
  cases ht.stage with
  | unsent _ _ _ _ hended => simp [hended ho] at hp
  | sent _ _ _ _ hended | taken _ _ _ _ hended => simp [hended] at ho
  | delivered hsend _ _ hreceived =>
    exact ⟨by simp [State.enabled, hreceived], by simp [State.enabled, hsend]⟩

lemma step_of_ne_observe (ha : a ≠ .observe) : (s.step a).1 = none ∧ (s.step a).2.ended = s.ended ∧
      (a ≠ .panic → (s.step a).2.thread.panicked = s.thread.panicked) := by
  cases a with
  | observe => exact absurd rfl ha
  | tryRecv =>
    refine ⟨rfl, rfl, fun _ => ?_⟩
    simp only [State.step, Thread.tryRecv]
    split <;> rfl
  | send | dropSender | exit | panic => exact ⟨rfl, rfl, by simp [State.step]⟩

/-- **Step lemma.** -/
lemma Tracked.step (ht : Tracked completion s) (he : s.enabled a)
    (hu : Undisturbed s a) : Tracked completion (s.step a).2 := by
  cases a with
  | send => exact ht.send he
  | panic => exact ht.panic he
  | dropSender => exact ht.dropSender he
  | exit => exact ht.exit he
  | tryRecv => exact ht.tryRecv he
  | observe => exact (ht.observe he hu).1

end

/-! ### Runs -/

/-- What has been reported so far: a loss only of a thread that panicked, and the
completion exactly once when the poller has done with a thread that did not. -/
structure Report (completion : χ) (tr : List (Event π χ)) (s : State π χ) : Prop where
  tracked : Tracked completion s
  lost : ∀ e ∈ tr, e.output = some .lost → s.thread.panicked = true
  delivered : (completions tr = [] ∧ (s.ended = true → s.thread.panicked = true)) ∨
    (completions tr = [completion] ∧ s.ended = true ∧ s.thread.panicked = false)

section

variable {s} {tr : List (Event π χ)} {e : Event π χ}

lemma completions_append_none (h : ∀ c, e.output ≠ some (.completed c)) :
    completions (tr ++ [e]) = completions tr := by
  unfold completions
  rcases ho : e.output with _ | (_ | _ | c | _)
  · simp
  · simp
  · simp
  · exact absurd ho (h c)
  · simp

lemma completions_append_some (h : e.output = some (.completed completion)) :
    completions (tr ++ [e]) = completions tr ++ [completion] := by
  simp [completions, h]

lemma Report.observe (hr : Report completion tr s) (he : s.enabled .observe)
    (hu : Undisturbed s .observe) :
    Report completion (tr ++ [(polling π χ).eventOf s .observe]) (s.step .observe).2 := by
  obtain ⟨htracked, hout⟩ := hr.tracked.observe he hu
  have hbefore : completions tr = [] ∧ (s.ended = true → s.thread.panicked = true) := by
    rcases hr.delivered with h | ⟨-, ho, hp⟩
    · exact h
    · exact absurd he (hr.tracked.not_enabled ho hp).1
  rcases hout with ⟨result, ho, hfinal⟩ | ⟨ho, hp⟩ | ⟨ho, hp⟩
  · obtain ⟨hthread, hended⟩ := observe_frame ho
    rw [hfinal] at hended
    refine ⟨htracked, ?_, .inl ⟨?_, by simp [hended]⟩⟩
    · rw [hthread]
      refine forall_mem_append.mpr ⟨hr.lost, forall_mem_singleton.mpr fun hlost => ?_⟩
      obtain rfl := Option.some.inj (ho.symm.trans hlost)
      cases hfinal
    · rw [completions_append_none, hbefore.1]
      intro c hc
      obtain rfl := Option.some.inj (ho.symm.trans hc)
      cases hfinal
  · obtain ⟨hthread, hended⟩ := observe_frame ho
    rw [← hthread] at hp
    refine ⟨htracked, fun _ _ _ => hp, .inl ⟨?_, fun _ => hp⟩⟩
    rw [completions_append_none, hbefore.1]
    intro c hc
    cases ho.symm.trans hc
  · obtain ⟨hthread, hended⟩ := observe_frame ho
    refine ⟨htracked, ?_, .inr ⟨?_, hended, hthread ▸ hp⟩⟩
    · rw [hthread]
      refine forall_mem_append.mpr ⟨hr.lost, forall_mem_singleton.mpr fun hlost => ?_⟩
      cases ho.symm.trans hlost
    · rw [completions_append_some ho, hbefore.1]
      rfl

lemma Report.step (hr : Report completion tr e.before) (hf : (polling π χ).Fires e)
    (hu : Undisturbed e.before e.input) : Report completion (tr ++ [e]) e.after := by
  obtain ⟨s, a, he, rfl⟩ := hf.eq_eventOf
  by_cases ha : a = .observe
  · subst ha
    exact hr.observe he hu
  obtain ⟨hnone, hended, hpanicked⟩ := step_of_ne_observe (s := s) ha
  have hmono : s.thread.panicked = true → (s.step a).2.thread.panicked = true := by
    intro hp
    by_cases hpanic : a = .panic
    · subst hpanic
      rfl
    · rw [hpanicked hpanic, hp]
  refine ⟨hr.tracked.step he hu, ?_, ?_⟩
  · refine forall_mem_append.mpr ⟨fun e hmem hlost => hmono (hr.lost e hmem hlost),
      forall_mem_singleton.mpr fun hlost => ?_⟩
    cases hnone.symm.trans hlost
  have hcompletions : completions (tr ++ [(polling π χ).eventOf s a]) = completions tr := by
    refine completions_append_none fun c hc => ?_
    cases hnone.symm.trans hc
  rw [hcompletions]
  rcases hr.delivered with ⟨hnil, himp⟩ | ⟨hone, ho, hp⟩
  · exact .inl ⟨hnil, fun h => hmono (himp (hended ▸ h))⟩
  have hpanic : a ≠ .panic := by
    rintro rfl
    exact (hr.tracked.not_enabled ho hp).2 he
  exact .inr ⟨hone, hended ▸ ho, (hpanicked hpanic).trans hp⟩

/-- **Run lemma.** -/
lemma report_of_run {progress : List π}
    (hr : (polling π χ).Run (State.spawn progress completion) tr s)
    (hu : ∀ e ∈ tr, Undisturbed e.before e.input) : Report completion tr s := by
  -- the condition on the events is carried along with the history
  have h := hr.history (P := fun tr s => (∀ e ∈ tr, Undisturbed e.before e.input) →
    Report completion tr s) ?_ ?_
  · exact h hu
  · intro _
    exact ⟨tracked_spawn progress completion, by simp, .inl ⟨rfl, by rintro ⟨⟩⟩⟩
  · intro tr e _ hf ih hu
    have hlast : Undisturbed e.before e.input := hu e (by simp)
    exact (ih fun f hmem => hu f (List.mem_append_left _ hmem)).step hf hlast

end

/-- **A completion is delivered exactly once.**  In every run in which no thread both sends
and exits between the empty receive and the question of one poll, only a thread that
panicked is reported as lost, the poller hands on at most one completion, and that is the
thread's own.  Once the thread has exited normally the completion has been handed on, or
the next poll takes it and hands it on. -/
theorem completion_delivered_once {progress : List π} {completion : χ}
    {tr : List (Event π χ)} {s : State π χ}
    (hr : (polling π χ).Run (State.spawn progress completion) tr s)
    (hu : ∀ e ∈ tr, Undisturbed e.before e.input) :
    (∀ e ∈ tr, e.output = some .lost → s.thread.panicked = true) ∧
    (completions tr = [] ∨ completions tr = [completion]) ∧
    (s.thread.exited = true → s.thread.panicked = false →
      (s.ended = true → completions tr = [completion]) ∧ (s.ended = false → s.received = none →
        (polling π χ).Allowed s [.tryRecv, .observe] ∧
        ((s.step .tryRecv).2.step .observe).1 = some (.completed completion))) := by
  have hreport := report_of_run hr hu
  refine ⟨hreport.lost, ?_, ?_⟩
  · rcases hreport.delivered with ⟨hnil, -⟩ | ⟨hone, -⟩
    · exact .inl hnil
    · exact .inr hone
  intro hexited hok
  constructor
  · intro hended
    rcases hreport.delivered with ⟨-, himp⟩ | ⟨hone, -⟩
    · simp [himp hended] at hok
    · exact hone
  intro hended hreceived
  have hdropped := hreport.tracked.exited hexited
  cases hreport.tracked.stage with
  | unsent _ _ _ _ _ hpanic => simp [hpanic hdropped] at hok
  | sent _ _ hchannel =>
    refine ⟨⟨⟨by simp [hreceived], hended⟩, ?_, trivial⟩, ?_⟩
    · simpa [polling, State.enabled, State.step, Thread.tryRecv, hchannel] using hexited
    · simp [State.step, Thread.tryRecv, hchannel, poll, hok]
  | taken _ _ _ htaken => simp [htaken] at hreceived
  | delivered _ _ _ _ ho => simp [ho] at hended

/-- A worker that reports a match and exits before it is polled. -/
def matchedWorker : State Empty AuthenticationCompletion :=
  State.spawn [] (.new Service.rootScheduled.authentication (.ok .matched))

lemma promptRun_allowed : (polling Empty AuthenticationCompletion).Allowed matchedWorker
    [.send, .dropSender, .exit, .tryRecv, .observe] :=
  ⟨⟨by simp [matchedWorker, State.spawn, Thread.spawn], rfl, rfl⟩, ⟨.inl rfl, rfl⟩,
    ⟨rfl, rfl⟩, ⟨rfl, rfl⟩, rfl, trivial⟩

theorem completion_delivered_once_matched :
    completions ((polling Empty AuthenticationCompletion).trace matchedWorker
      [.send, .dropSender, .exit, .tryRecv, .observe]) =
    [.new Service.rootScheduled.authentication (.ok .matched)] := by
  refine ((completion_delivered_once promptRun_allowed.run ?_).2.2 rfl rfl).1 rfl
  intro e hmem
  simp only [Machine.trace, List.mem_cons, List.not_mem_nil, or_false] at hmem
  rcases hmem with rfl | rfl | rfl | rfl | rfl
  · rintro ⟨⟩
  · rintro ⟨⟩
  · rintro ⟨⟩
  · rintro ⟨⟩
  · exact fun _ _ _ => rfl

/-- The same worker, which sends and exits between the two observations of one poll: it is
reported as lost, with its completion in the channel. -/
theorem prompt_worker_reported_lost : (polling Empty AuthenticationCompletion).Allowed matchedWorker
      [.tryRecv, .send, .dropSender, .exit, .observe] ∧
    (((polling Empty AuthenticationCompletion).final matchedWorker
      [.tryRecv, .send, .dropSender, .exit]).step .observe).1 = some .lost ∧
    ((polling Empty AuthenticationCompletion).final matchedWorker
      [.tryRecv, .send, .dropSender, .exit, .observe]).thread =
      ⟨[], some (.completed (.new Service.rootScheduled.authentication (.ok .matched))),
        true, true, false⟩ := by
  refine ⟨⟨⟨rfl, rfl⟩, ⟨?_, rfl, rfl⟩, ⟨.inl rfl, rfl⟩, ⟨rfl, rfl⟩, trivial, trivial⟩, rfl, rfl⟩
  simp [polling, State.step, matchedWorker, State.spawn, Thread.spawn, Thread.tryRecv]

end Worker

end T1Bridge
