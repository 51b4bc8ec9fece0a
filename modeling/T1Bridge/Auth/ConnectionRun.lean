import T1Bridge.Auth.Connection

/-! # Runs of one standard connection

One connection on the shared broker service, with everybody else who uses the service: the
other clients of both protocols, and the worker threads.  Nobody but the connection has the
handle of its operation; its own worker may close the cancellation of that handle.

The results are **`connection_protocol`**, what a client can rely on for every packet
sequence and every worker behaviour, and **`stale_calls_change_nothing`**, that calls which
do not belong to the running operation leave the service as it was. -/

namespace T1Bridge

open ActiveOperation (token)
open Service (broker idleState rootCloses rootListed rootListing rootLists rootPeer step_effect)
open StandardConnection (admitted deadlineExpired dispatchPacketWith dispatchPacketWith_packeted
  finishWorker new workerLost)
open Service.State (call step_of_quiet)
open List (forall_mem_append forall_mem_singleton)
open Machine (eventOf)
open BrokerServiceScheduler (cancelStandard_held cancelWithoutOwner delivered dispatch
  finish finishStandard finishStandard_held finishStandard_refused finishWithFeedback mark schedule)

variable {completion : StandardCompletion} {running : Option Running}
  {h : ScheduledStandardOperation}

namespace Connection

/-- A connection with the service behind it. -/
structure State where
  conn : StandardConnection
  world : Service.State

/-- Events of the connection and its worker; `other` is a call of somebody else. -/
inductive Input where
  | packet (recordedOwner : Option AccessPolicy) (packet : Packet) (now : Duration)
      (resolve : Resolve)
  | progress (job : StandardWorkerJob) (progress : EnrollProgress)
  | finishWorker (completion : StandardCompletion) (now : Duration)
  | clientDisconnected
  | deadlineExpired
  | workerLost
  | other (c : Service.Call)

inductive Output where
  | dispatched (dispatch : StandardConnectionDispatch)
  | progressed (reply : Except StandardConnectionError StandardReply)
  | flag (accepted : Bool)
  | other (answer : Service.Answer)

/-- The handle that a dispatch put into the connection. -/
def issuedBy (conn : StandardConnection) : StandardConnectionDispatch → List Scheduled
  | .start _ => conn.active.toList.map .standard
  | _ => []

/-- The state after a connection function. -/
def State.next (s : State)
    (result : StandardConnectionDispatch × StandardConnection × BrokerServiceScheduler) :
    Output × State :=
  (.dispatched result.1, ⟨result.2.1, ⟨result.2.2, s.world.issued ++ issuedBy result.2.1 result.1⟩⟩)

def State.step (s : State) : Input → Output × State
  | .packet recordedOwner packet now resolve =>
    s.next (s.conn.dispatchPacketWith s.world.service recordedOwner packet now resolve)
  | .progress job progress => (.progressed (s.conn.workerProgress job progress), s)
  | .finishWorker completion now =>
    s.next (s.conn.finishWorker s.world.service completion now)
  | .clientDisconnected =>
    let (accepted, service) := s.conn.clientDisconnected s.world.service
    (.flag accepted, { s with world := { s.world with service := service } })
  | .deadlineExpired =>
    let (accepted, service) := s.conn.deadlineExpired s.world.service
    (.flag accepted, { s with world := { s.world with service := service } })
  | .workerLost => s.next (s.conn.workerLost s.world.service)
  | .other c =>
    let (answer, world) := s.world.step c
    (.other answer, { s with world := world })

/-- What others may do: any call with handles they can have, which are never the handle of
this connection; only its worker may close that one. -/
def State.allowed (s : State) : Input → Prop
  | .other c => (∀ h ∈ c.handle, s.world.Known h) ∧
      ∀ own ∈ s.conn.active, c.handle = some (.standard own) →
        c = .closeCancellation (.standard own)
  | _ => True

/-- A new connection on a service that has run for a while. -/
def machine : Machine State Input Output where
  init s := broker.Reachable s.world ∧ ∃ peer config, new peer config = .ok s.conn
  enabled := State.allowed
  step := State.step

abbrev Event := Machine.Event State Input Output

variable {i : Input} {e : Event} {s : State}

/-! ### The connection's handle is the running operation -/

/-- The service runs the operation that the connection records. -/
structure Attached (s : State) (running : Option Running) : Prop where
  consistent : Service.Consistent s.world running
  holds : ∀ h ∈ s.conn.active, Scheduled.standard h ∈ s.world.issued ∧
    ∃ r, running = some r ∧ s.world.service.HoldsScheduled r (.standard h)

section Attached

lemma attached_init (h : machine.init s) : ∃ running, Attached s running := by
  obtain ⟨hw, peer, config, hnew⟩ := h
  obtain ⟨running, hc⟩ := Service.consistent_of_reachable hw
  refine ⟨running, hc, ?_⟩
  unfold new at hnew
  split_ifs at hnew
  simp [← Except.ok.inj hnew]

variable {c : Service.Call} {conn : StandardConnection}

/-- A call that does not end the connection's operation leaves it attached. -/
lemma Attached.of_call (ha : Attached s running) (hk : ∀ h ∈ c.handle, s.world.Known h)
    (hne : ∀ h ∈ s.conn.active, c.handle = some (.standard h) → ∀ r answer, ¬ c.Finishes r answer) :
    ∃ running', Attached { s with world := (s.world.step c).2 } running' := by
  obtain ⟨running', heff⟩ := step_effect ha.consistent hk
  refine ⟨running', heff.consistent ha.consistent, ?_⟩
  intro h hh
  obtain ⟨hi, r, rfl, hholds⟩ := ha.holds h hh
  have hissued : Scheduled.standard h ∈ (s.world.step c).2.issued := by
    exact List.mem_append_left _ hi
  refine ⟨hissued, heff.held hholds ?_⟩
  intro h' hc hholds'
  have hi' := (hk h' hc).issued hholds'
  obtain rfl : h' = .standard h :=
    ha.consistent.token_inj h' hi' _ hi (hholds'.1.1.symm.trans hholds.1.1)
  exact hne h hh hc r _

lemma Attached.detach {s' : State} (hc : Service.Consistent s'.world running)
    (hnone : s'.conn.active = none) : Attached s' running :=
  ⟨hc, by simp [hnone]⟩

lemma Attached.known (ha : Attached s running) (hh : s.conn.active = some h)
    (hc : c.handle = some (.standard h)) : ∀ h' ∈ c.handle, s.world.Known h' := by
  rw [hc]
  rintro _ ⟨⟩
  exact .inl (ha.holds h hh).1

lemma step_world {w : Service.State} (hs : (call w.service c).1.started = none) :
    (w.step c).2 = { w with service := (call w.service c).2 } := by
  rw [step_of_quiet hs (Prod.mk.eta (p := call w.service c)).symm]

lemma Attached.of_delivery (ha : Attached s running) (hh : s.conn.active = some h)
    (hc : c.handle = some (.standard h)) (hs : (call s.world.service c).1.started = none)
    (hne : ∀ r answer, ¬ c.Finishes r answer) :
    ∃ running', Attached { s with world := { s.world with
      service := (call s.world.service c).2 } } running' := by
  rw [← step_world hs]
  exact ha.of_call (ha.known hh hc) fun _ _ _ => hne

lemma Attached.of_last_call (ha : Attached s running) (hh : s.conn.active = some h)
    (hc : c.handle = some (.standard h)) (hs : (call s.world.service c).1.started = none)
    (hnone : conn.active = none) :
    ∃ running', Attached ⟨conn, { s.world with
      service := (call s.world.service c).2 }⟩ running' := by
  obtain ⟨running', heff⟩ := step_effect ha.consistent (ha.known hh hc)
  have hcons := heff.consistent ha.consistent
  rw [step_world hs] at hcons
  exact ⟨running', Attached.detach hcons hnone⟩

lemma Attached.of_admitted (ha : Attached s running) (hidle : s.conn.active = none)
    (recordedOwner : Option AccessPolicy) (operation : ResolvedStandardOperation) (now : Duration) :
    ∃ running', Attached (s.next (s.conn.admitted
      (s.world.service.dispatchStandard s.conn.peer recordedOwner operation now).2
      (s.world.service.dispatchStandard s.conn.peer recordedOwner operation now).1)).2 running' := by
  obtain ⟨running', heff⟩ := step_effect ha.consistent
    (c := .dispatchStandard s.conn.peer recordedOwner operation now) (by rintro _ ⟨⟩)
  have hcons := heff.consistent ha.consistent
  simp only [Service.State.step, call] at heff hcons
  rcases hd : s.world.service.dispatchStandard s.conn.peer recordedOwner operation now with
    ⟨message | scheduled | _, service⟩ <;> rw [hd] at heff hcons
  · exact ⟨running', Attached.detach hcons hidle⟩
  · refine ⟨running', hcons, ?_⟩
    rintro h ⟨⟩
    obtain ⟨-, -, hi, r, hr, hholds⟩ := heff.of_started (h := .standard scheduled) rfl
    exact ⟨hi, r, hr, hholds⟩
  · exact ⟨running', Attached.detach hcons hidle⟩

lemma next_of_reply {d : StandardConnectionDispatch}
    {service : BrokerServiceScheduler} (h : issuedBy conn d = []) :
    s.next (d, conn, service) = (.dispatched d, ⟨conn, { s.world with service := service }⟩) := by
  simp [State.next, h]

lemma step_packeted (s : State) (recordedOwner : Option AccessPolicy) (packet : Packet)
    (now : Duration) (resolve : Resolve) : ∃ result,
      s.conn.Packeted s.world.service recordedOwner packet now resolve result ∧
      s.step (.packet recordedOwner packet now resolve) = s.next result :=
  ⟨_, dispatchPacketWith_packeted _ _ _ _ _ _, rfl⟩

lemma Attached.of_packet (ha : Attached s running) (recordedOwner : Option AccessPolicy)
    (packet : Packet) (now : Duration) (resolve : Resolve) :
    ∃ running', Attached (s.step (.packet recordedOwner packet now resolve)).2 running' := by
  obtain ⟨result, hp, hstep⟩ := step_packeted s recordedOwner packet now resolve
  rw [hstep]
  cases hp with
  | malformed | busy | immediate =>
    rw [next_of_reply rfl]
    exact ⟨running, ha⟩
  | opened hidle =>
    rw [next_of_reply rfl]
    exact ⟨running, Attached.detach ha.consistent hidle⟩
  | cancelled active hactive =>
    rw [next_of_reply rfl]
    exact ha.of_delivery hactive (c := .cancelStandard active) rfl rfl (fun _ _ => id)
  | dispatched hidle _ _ _ operation =>
    exact ha.of_admitted hidle recordedOwner operation now

lemma Attached.of_finishWorker (ha : Attached s running) (completion : StandardCompletion)
    (now : Duration) :
    ∃ running', Attached (s.next (s.conn.finishWorker s.world.service completion now)).2
      running' := by
  unfold finishWorker
  cases hactive : s.conn.active with
  | none =>
    rw [next_of_reply rfl]
    exact ⟨running, ha⟩
  | some h =>
    dsimp only
    split_ifs
    · rw [next_of_reply rfl]
      exact ha.of_last_call hactive (c := .standardWorkerLost h) rfl rfl rfl
    · rw [next_of_reply rfl]
      exact ha.of_last_call hactive (c := .finishStandard h completion now) rfl rfl rfl

/-- **Step lemma**: whatever happens, the service runs what the connection records. -/
lemma Attached.step (ha : Attached s running) (hi : s.allowed i) :
    ∃ running', Attached (s.step i).2 running' := by
  cases i with
  | packet recordedOwner packet now resolve => exact ha.of_packet recordedOwner packet now resolve
  | progress => exact ⟨running, ha⟩
  | finishWorker completion now => exact ha.of_finishWorker completion now
  | clientDisconnected =>
    simp only [State.step, StandardConnection.clientDisconnected]
    cases hactive : s.conn.active with
    | none => exact ⟨running, ha⟩
    | some h =>
      exact ha.of_delivery hactive (c := .standardClientDisconnected h) rfl rfl (fun _ _ => id)
  | deadlineExpired =>
    simp only [State.step, deadlineExpired]
    cases hactive : s.conn.active with
    | none => exact ⟨running, ha⟩
    | some h =>
      exact ha.of_delivery hactive (c := .standardDeadlineExpired h) rfl rfl (fun _ _ => id)
  | workerLost =>
    simp only [State.step, workerLost]
    cases hactive : s.conn.active with
    | none =>
      rw [next_of_reply rfl]
      exact ⟨running, ha⟩
    | some h =>
      rw [next_of_reply rfl]
      exact ha.of_last_call hactive (c := .standardWorkerLost h) rfl rfl rfl
  | other c =>
    refine ha.of_call hi.1 ?_
    intro h hh hc r answer hf
    rw [hi.2 h hh hc] at hf
    exact hf

/-- **Run lemma.** -/
lemma attached_of_run {s0 : State} {tr : List Event} (h0 : machine.init s0)
    (hr : machine.Run s0 tr s) : ∃ running, Attached s running := by
  refine hr.invariant (I := fun s => ∃ running, Attached s running) ?_ (attached_init h0)
  rintro s i hi ⟨running, ha⟩
  exact ha.step hi

end Attached

/-! ### Starting and ending an operation -/

/-- The event accepts an operation and hands its job to a new worker. -/
def Starts (e : Event) (h : ScheduledStandardOperation) : Prop :=
  e.output = .dispatched (.start ⟨h.operation, h.deadline⟩) ∧ e.after.conn.active = some h

/-- The event is the end of a worker, by its completion or by its loss. -/
def Ends (e : Event) : Prop :=
  match e.input with
  | .finishWorker _ _ => True
  | .workerLost => True
  | _ => False

/-- The client opens the device. -/
def Opens (e : Event) : Prop :=
  ∃ recordedOwner packet now resolve reply, e.input = .packet recordedOwner packet now resolve ∧
    decodeClient packet = .ok .open ∧ e.output = .dispatched (.reply reply) ∧
    reply.message = .opened

/-- The completion of the operation's own worker gives the client its final reply. -/
def Answers (e : Event) (h : ScheduledStandardOperation) : Prop :=
  ∃ completion now reply, e.input = .finishWorker completion now ∧
    e.before.conn.active = some h ∧ completion.belongsTo h.operation = true ∧
    e.output = .dispatched (.reply reply) ∧ reply.message.isFinal = true

/-- The operation's worker is lost or reports for another operation: the broker has to
terminate. -/
def Poisons (e : Event) (h : ScheduledStandardOperation) : Prop :=
  (e.input = .workerLost ∨ ∃ completion now, e.input = .finishWorker completion now ∧
    completion.belongsTo h.operation = false) ∧ e.before.conn.active = some h ∧
    e.output = .dispatched .terminate ∧ e.after.conn.active = none ∧
    e.after.world.service.workers.poisoned = true

/-- The operation was started and no worker has ended since. -/
def Pending (tr : List Event) (h : ScheduledStandardOperation) : Prop :=
  ∃ u e v, tr = u ++ e :: v ∧ Starts e h ∧ ∀ f ∈ v, ¬ Ends f

/-- What a step does to the connection's record of its operation. -/
inductive Moved (e : Event) : Prop
  | kept (hactive : e.after.conn.active = e.before.conn.active)
      (hout : ∀ job, e.output ≠ .dispatched (.start job))
  | started (h : ScheduledStandardOperation) (hs : Starts e h)
      (hidle : e.before.conn.active = none) (hopened : e.before.conn.opened = true)
      (hnew : Scheduled.standard h ∉ e.before.world.issued)
  | ended (hends : Ends e) (hactive : e.after.conn.active = none)

section Moves

lemma moved_of_admitted (ha : Attached s running) (hidle : s.conn.active = none)
    (hopened : s.conn.opened = true) (recordedOwner : Option AccessPolicy)
    (operation : ResolvedStandardOperation) (now : Duration)
    (hi : s.step i = s.next (s.conn.admitted
      (s.world.service.dispatchStandard s.conn.peer recordedOwner operation now).2
      (s.world.service.dispatchStandard s.conn.peer recordedOwner operation now).1)) :
    Moved (machine.eventOf s i) := by
  obtain ⟨running', heff⟩ := step_effect ha.consistent
    (c := .dispatchStandard s.conn.peer recordedOwner operation now) (by rintro _ ⟨⟩)
  have hnew := fun h => heff.token_ne_of_started ha.consistent (h := h)
  simp only [Service.State.step, call] at hnew
  rcases hd : s.world.service.dispatchStandard s.conn.peer recordedOwner operation now with
    ⟨message | scheduled | _, service⟩ <;> rw [hd] at hi hnew
  · refine .kept ?_ ?_ <;> simp only [eventOf, machine, hi]
    · rfl
    · simp [State.next, admitted, StandardConnectionDispatch.message]
  · refine .started scheduled ?_ hidle hopened ?_
    · simp only [eventOf, machine, hi]
      exact ⟨rfl, rfl⟩
    · intro hissued
      exact hnew (.standard scheduled) rfl _ hissued rfl
  · refine .kept ?_ ?_ <;> simp only [eventOf, machine, hi]
    · rfl
    · simp [State.next, admitted]

lemma moved_of_packet (ha : Attached s running) (recordedOwner : Option AccessPolicy)
    (packet : Packet) (now : Duration) (resolve : Resolve) :
    Moved (machine.eventOf s (.packet recordedOwner packet now resolve)) := by
  obtain ⟨result, hp, hstep⟩ := step_packeted s recordedOwner packet now resolve
  cases hp with
  | dispatched hidle hopened _ _ operation =>
    exact moved_of_admitted ha hidle hopened recordedOwner operation now hstep
  | malformed | cancelled | busy | immediate | opened =>
    refine .kept ?_ ?_ <;> simp only [eventOf, machine, hstep]
    · rfl
    · simp [State.next, StandardConnectionDispatch.message]

lemma active_of_ends (hf : machine.Fires e) (he : Ends e) : e.after.conn.active = none := by
  obtain ⟨s, i, -, rfl⟩ := hf.eq_eventOf
  cases i with
  | finishWorker completion now =>
    simp only [eventOf, machine, State.step, finishWorker]
    split <;> [assumption; (split_ifs <;> rfl)]
  | workerLost =>
    simp only [eventOf, machine, State.step, workerLost]
    split <;> [assumption; rfl]
  | packet | progress | clientDisconnected | deadlineExpired | other => exact he.elim

lemma moved_of_fires (ha : Attached e.before running) (hf : machine.Fires e) : Moved e := by
  by_cases hends : Ends e
  · exact .ended hends (active_of_ends hf hends)
  obtain ⟨s, i, -, rfl⟩ := hf.eq_eventOf
  cases i with
  | packet recordedOwner packet now resolve =>
    exact moved_of_packet ha recordedOwner packet now resolve
  | finishWorker | workerLost => exact absurd trivial hends
  | progress | clientDisconnected | deadlineExpired | other =>
    exact .kept rfl (by simp [eventOf, machine, State.step])

lemma issued_mono (hf : machine.Fires e) : e.before.world.issued ⊆ e.after.world.issued := by
  obtain ⟨s, i, -, rfl⟩ := hf.eq_eventOf
  cases i with
  | packet | finishWorker | workerLost | other c => exact List.subset_append_left _ _
  | progress | clientDisconnected | deadlineExpired => exact List.Subset.refl _

lemma opened_of_fires (hf : machine.Fires e) (ho : e.after.conn.opened = true) :
    e.before.conn.opened = true ∨ Opens e := by
  obtain ⟨s, i, -, rfl⟩ := hf.eq_eventOf
  cases i with
  | progress | clientDisconnected | deadlineExpired | other => exact .inl ho
  | finishWorker completion now =>
    refine Or.inl ?_
    simp only [eventOf, machine, State.step, finishWorker] at ho
    split at ho <;> [exact ho; (split_ifs at ho <;> exact ho)]
  | workerLost =>
    refine Or.inl ?_
    simp only [eventOf, machine, State.step, workerLost] at ho
    split at ho <;> exact ho
  | packet recordedOwner packet now resolve =>
    obtain ⟨result, hp, hstep⟩ := step_packeted s recordedOwner packet now resolve
    simp only [eventOf, machine, hstep] at ho ⊢
    cases hp with
    | malformed | cancelled | busy | immediate => exact .inl ho
    | opened hidle hdecode =>
      exact .inr ⟨recordedOwner, packet, now, resolve, _, rfl, hdecode, rfl, rfl⟩
    | dispatched hidle hopened => exact .inl hopened

/-- The reply to an attached operation's own completion is a final one. -/
lemma Attached.finishStandard_isFinal (ha : Attached s running) (hh : s.conn.active = some h)
    (hb : completion.belongsTo h.operation = true) (now : Duration) :
    (s.world.service.finishStandard h completion now).1.isFinal = true := by
  obtain ⟨-, r, rfl, hholds⟩ := ha.holds h hh
  by_cases hp : s.world.service.workers.poisoned = true
  · have hr : s.world.service.finishStandard h completion now =
        (.terminal .error, s.world.service) :=
      finishStandard_refused now (by simp [hp])
    rw [hr]
    rfl
  · rw [finishStandard_held ha.consistent.represents hholds (by simpa using hp) hb now]
    unfold Session.standardResponse
    split_ifs
    · rfl
    · exact completion.isFinal
    · rfl

lemma Attached.standardWorkerLost (ha : Attached s running) (hh : s.conn.active = some h) :
    (s.world.service.standardWorkerLost h).2.workers.poisoned = true := by
  obtain ⟨-, r, rfl, hholds⟩ := ha.holds h hh
  rw [BrokerServiceScheduler.standardWorkerLost_held ha.consistent.represents hholds]
  rfl

lemma StandardReply.new_isFinal {message : ServerMessage} (h : message.isFinal = true) :
    (StandardReply.new message).message.isFinal = true := by
  rcases StandardReply.new_message message with he | he
  · rw [he, h]
  · rw [he]
    rfl

/-- The end of an attached operation's worker answers the client or poisons the service. -/
lemma answers_or_poisons (ha : Attached e.before running) (hf : machine.Fires e) (hends : Ends e)
    (hh : e.before.conn.active = some h) :
    Answers e h ∨ Poisons e h := by
  have hnone := active_of_ends hf hends
  obtain ⟨s, i, -, rfl⟩ := hf.eq_eventOf
  replace hh : s.conn.active = some h := hh
  have hlost := Attached.standardWorkerLost (s := s) ha hh
  cases i with
  | finishWorker completion now =>
    by_cases hb : completion.belongsTo h.operation = true
    · refine Or.inl ⟨completion, now, _, rfl, hh, hb, ?_,
        StandardReply.new_isFinal (ha.finishStandard_isFinal hh hb now)⟩
      simp [eventOf, machine, State.step, State.next,
        finishWorker, hh, hb, StandardConnectionDispatch.message]
    · refine Or.inr ⟨.inr ⟨completion, now, rfl, by simpa using hb⟩, hh, ?_, hnone, ?_⟩ <;>
        simp [eventOf, machine, State.step, State.next, finishWorker, hh, hb, hlost]
  | workerLost =>
    refine Or.inr ⟨.inl rfl, hh, ?_, hnone, ?_⟩ <;>
      simp [eventOf, machine, State.step, State.next, workerLost, hh, hlost]
  | packet | progress | clientDisconnected | deadlineExpired | other => exact hends.elim

lemma active_of_finish_reply (hf : machine.Fires e) {now : Duration} {reply : StandardReply}
    (hi : e.input = .finishWorker completion now) (ho : e.output = .dispatched (.reply reply)) :
    ∃ h, e.before.conn.active = some h := by
  obtain ⟨s, i, -, rfl⟩ := hf.eq_eventOf
  obtain rfl : i = .finishWorker completion now := hi
  cases hactive : s.conn.active with
  | none =>
    simp [eventOf, machine, State.step, State.next, finishWorker, hactive] at ho
  | some h => exact ⟨h, hactive⟩

/-- An operation whose worker has ended is never recorded again. -/
def Over (h : ScheduledStandardOperation) (s : State) : Prop :=
  Scheduled.standard h ∈ s.world.issued ∧ s.conn.active ≠ some h

lemma Over.step (ho : Over h e.before) (ha : Attached e.before running) (hf : machine.Fires e) :
    Over h e.after := by
  refine ⟨issued_mono hf ho.1, ?_⟩
  cases moved_of_fires ha hf with
  | kept hactive =>
    rw [hactive]
    exact ho.2
  | started h' hs _ _ hnew =>
    intro heq
    obtain rfl : h' = h := Option.some.inj (hs.2.symm.trans heq)
    exact hnew ho.1
  | ended _ hactive => simp [hactive]

end Moves

/-! ### The course of one operation -/

/-- After the start of an operation: it still runs and no worker has ended, or the first
end of a worker answered the client or poisoned the service, and the operation is over. -/
def Course (h : ScheduledStandardOperation) (tr : List Event) (s : State) : Prop :=
  (s.conn.active = some h ∧ ∀ f ∈ tr, ¬ Ends f) ∨
  (Over h s ∧ ∃ u f v, tr = u ++ f :: v ∧ (Answers f h ∨ Poisons f h) ∧ (∀ g ∈ u, ¬ Ends g) ∧
    ∀ g ∈ v, ¬ Answers g h)

section Course

variable {tr : List Event} {s0 : State}

lemma Course.step (hc : Course h tr e.before) (ha : Attached e.before running)
    (hf : machine.Fires e) : Course h (tr ++ [e]) e.after := by
  rcases hc with ⟨hactive, hquiet⟩ | ⟨hover, u, f, v, rfl, hend, hquiet, hlast⟩
  · by_cases hends : Ends e
    · refine Or.inr ⟨⟨issued_mono hf (ha.holds h hactive).1, ?_⟩, tr, e, [], rfl,
        answers_or_poisons ha hf hends hactive, hquiet, by simp⟩
      rw [active_of_ends hf hends]
      simp
    refine Or.inl ⟨?_, ?_⟩
    · cases moved_of_fires ha hf with
      | kept hkept => rw [hkept, hactive]
      | started _ _ hidle =>
        rw [hactive] at hidle
        cases hidle
      | ended he => exact absurd he hends
    · exact forall_mem_append.mpr ⟨hquiet, forall_mem_singleton.mpr hends⟩
  · refine Or.inr ⟨hover.step ha hf, u, f, v ++ [e], by simp, hend, hquiet,
      forall_mem_append.mpr ⟨hlast, forall_mem_singleton.mpr ?_⟩⟩
    rintro ⟨_, _, _, _, hactive, _⟩
    exact hover.2 hactive

lemma course_of_run {tr1 : List Event} (h0 : machine.init s0)
    (hr : machine.Run s0 (tr1 ++ e :: tr) s) (hs : Starts e h) : Course h tr s := by
  obtain ⟨hbefore, hf, hafter⟩ := Machine.Run.split hr
  have hstart : machine.Run s0 (tr1 ++ [e]) e.after := hbefore.snoc hf
  refine hafter.history (.inl ⟨hs.2, by simp⟩) ?_
  intro tr g hg hfg hcourse
  obtain ⟨running, ha⟩ := attached_of_run h0 (hstart.append hg)
  exact hcourse.step ha hfg

/-- What the connection records has been started and not ended, and after an Open. -/
structure Recorded (tr : List Event) (s : State) : Prop where
  pending : ∀ h, s.conn.active = some h → Pending tr h
  opened : s.conn.opened = true → ∃ o ∈ tr, Opens o

lemma Pending.snoc (hp : Pending tr h) (hne : ¬ Ends e) : Pending (tr ++ [e]) h := by
  obtain ⟨u, g, v, rfl, hs, hquiet⟩ := hp
  exact ⟨u, g, v ++ [e], by simp, hs, forall_mem_append.mpr ⟨hquiet, forall_mem_singleton.mpr hne⟩⟩

lemma Recorded.step (hr : Recorded tr e.before) (ha : Attached e.before running)
    (hf : machine.Fires e) : Recorded (tr ++ [e]) e.after where
  pending h hh := by
    have hne : ¬ Ends e := by
      intro hends
      rw [active_of_ends hf hends] at hh
      cases hh
    cases moved_of_fires ha hf with
    | kept hkept => exact (hr.pending h (hkept ▸ hh)).snoc hne
    | started h' hs =>
      obtain rfl : h' = h := Option.some.inj (hs.2.symm.trans hh)
      exact ⟨tr, e, [], rfl, hs, by simp⟩
    | ended hends => exact absurd hends hne
  opened ho := by
    rcases opened_of_fires hf ho with hb | hopens
    · obtain ⟨o, hmem, hopens⟩ := hr.opened hb
      exact ⟨o, List.mem_append_left _ hmem, hopens⟩
    · exact ⟨e, by simp, hopens⟩

lemma recorded_of_run (h0 : machine.init s0) (hr : machine.Run s0 tr s) : Recorded tr s := by
  refine hr.history ?_ ?_
  · obtain ⟨-, peer, config, hnew⟩ := h0
    unfold new at hnew
    split_ifs at hnew
    have hconn := (Except.ok.inj hnew).symm
    exact ⟨by simp [hconn], by simp [hconn]⟩
  · intro tr e hr hf hrec
    obtain ⟨running, ha⟩ := attached_of_run h0 hr
    exact hrec.step ha hf

end Course

/-! ### What a client can rely on -/

/-- The step answers the client with this message. -/
def Replies (e : Event) (message : ServerMessage) : Prop :=
  ∃ reply, e.output = .dispatched (.reply reply) ∧ reply.message = message

/-- The active operation, its worker and its registration are untouched; at most the
cancellation mark of the operation differs. -/
structure SameOperation (s s' : State) : Prop where
  conn : s'.conn = s.conn
  issued : s'.world.issued = s.world.issued
  workers : s'.world.service.workers = s.world.service.workers
  token : s'.world.service.coordinator.state.active.map token =
    s.world.service.coordinator.state.active.map token
  registration : s'.world.service.coordinator.cancellation.registration =
    s.world.service.coordinator.cancellation.registration

section Packets

variable {recordedOwner : Option AccessPolicy} {packet : Packet} {now : Duration}
  {resolve : Resolve}

lemma packet_while_active (ha : Attached e.before running) (hf : machine.Fires e)
    (hh : e.before.conn.active = some h) (hi : e.input = .packet recordedOwner packet now resolve) :
    (∀ error, decodeClient packet = .error error →
      Replies e (.terminal .error) ∧ e.after = e.before) ∧
    (∀ message, decodeClient packet = .ok message → message ≠ .cancel →
      Replies e (.terminal .busy) ∧ e.after = e.before) ∧ (decodeClient packet = .ok .cancel →
      e.output = .dispatched .cancellationPending ∧ SameOperation e.before e.after) := by
  obtain ⟨s, i, -, rfl⟩ := hf.eq_eventOf
  replace hh : s.conn.active = some h := hh
  obtain rfl : i = .packet recordedOwner packet now resolve := hi
  have hissued : s.world.issued ++ [] = s.world.issued := List.append_nil _
  refine ⟨?_, ?_, ?_⟩
  · intro error hdecode
    simp only [eventOf, machine, State.step, State.next, dispatchPacketWith, hdecode]
    refine ⟨⟨_, rfl, StandardReply.new_message_of_encoded rfl⟩, ?_⟩
    simp [StandardConnectionDispatch.message, issuedBy]
  · intro message hdecode hne
    simp only [eventOf, machine, State.step, State.next, dispatchPacketWith, hdecode, hh,
      if_neg hne]
    refine ⟨⟨_, rfl, StandardReply.new_message_of_encoded rfl⟩, ?_⟩
    simp [StandardConnectionDispatch.message, issuedBy]
  intro hdecode
  obtain ⟨-, r, rfl, hholds⟩ := ha.holds h hh
  have hcancel := cancelStandard_held ha.consistent.represents hholds
  replace hcancel : (s.world.service.cancelStandard h).2 = (s.world.service.delivered r).2 :=
    congrArg Prod.snd hcancel
  simp only [eventOf, machine, State.step, State.next,
    dispatchPacketWith, hdecode, hh, if_true, hcancel]
  refine ⟨trivial, rfl, hissued, ?_, ?_, ?_⟩ <;>
    simp only [delivered] <;> split_ifs <;>
    simp [mark, BrokerSessionCoordinator.mark, Function.comp_def]

end Packets

/-- **The protocol of one standard connection.**  In every run, whatever the packets, the
workers and the other users of the service do:

* no operation starts before a successful Open;
* a started operation is either still running and no worker has ended, or it was ended once: its
  own worker's completion gave exactly one final reply, or the loss of its worker or a foreign
  completion poisoned the service;
* every reply to a completion answers an operation that was started and not ended before;
* while an operation is active a malformed packet gets an error, any other packet but
  Cancel gets Busy, Cancel is acknowledged, and none of them touches the operation;
* the operation that the connection records is the one the service owns. -/
theorem connection_protocol {s0 s : State} {tr : List Event} (h0 : machine.init s0)
    (hr : machine.Run s0 tr s) :
    (∀ tr1 e tr2 h, tr = tr1 ++ e :: tr2 → Starts e h → ∃ o ∈ tr1, Opens o) ∧
    (∀ tr1 e tr2 h, tr = tr1 ++ e :: tr2 → Starts e h →
      (s.conn.active = some h ∧ ∀ f ∈ tr2, ¬ Ends f) ∨
      (s.conn.active ≠ some h ∧ ∃ u f v, tr2 = u ++ f :: v ∧ (Answers f h ∨ Poisons f h) ∧
        (∀ g ∈ u, ¬ Ends g) ∧ ∀ g ∈ v, ¬ Answers g h)) ∧
    (∀ tr1 f tr2 completion now reply, tr = tr1 ++ f :: tr2 →
      f.input = .finishWorker completion now → f.output = .dispatched (.reply reply) →
      ∃ h, Pending tr1 h ∧ Answers f h) ∧
    (∀ f ∈ tr, ∀ h recordedOwner packet now resolve, f.before.conn.active = some h →
      f.input = .packet recordedOwner packet now resolve →
      (∀ error, decodeClient packet = .error error →
        Replies f (.terminal .error) ∧ f.after = f.before) ∧
      (∀ message, decodeClient packet = .ok message → message ≠ .cancel →
        Replies f (.terminal .busy) ∧ f.after = f.before) ∧ (decodeClient packet = .ok .cancel →
        f.output = .dispatched .cancellationPending ∧ SameOperation f.before f.after)) ∧
    (∀ h, s.conn.active = some h → s.world.service.ownsStandard h = true ∧
      s.world.service.coordinator.state.active.map token = some h.operation.operation.token) := by
  refine ⟨?_, ?_, ?_, ?_, ?_⟩
  · rintro tr1 e tr2 h rfl hs
    obtain ⟨hbefore, hf, -⟩ := Machine.Run.split hr
    obtain ⟨running, ha⟩ := attached_of_run h0 hbefore
    have hopened : e.before.conn.opened = true := by
      cases moved_of_fires ha hf with
      | started _ _ _ hopened => exact hopened
      | kept _ hout => exact absurd hs.1 (hout _)
      | ended _ hnone =>
        rw [hs.2] at hnone
        cases hnone
    exact (recorded_of_run h0 hbefore).opened hopened
  · rintro tr1 e tr2 h rfl hs
    rcases course_of_run h0 hr hs with ⟨hactive, hquiet⟩ | ⟨hover, u, f, v, rfl, hend, hquiet, hlast⟩
    · exact .inl ⟨hactive, hquiet⟩
    · exact .inr ⟨hover.2, u, f, v, rfl, hend, hquiet, hlast⟩
  · rintro tr1 f tr2 completion now reply rfl hi ho
    obtain ⟨hbefore, hf, -⟩ := Machine.Run.split hr
    obtain ⟨running, ha⟩ := attached_of_run h0 hbefore
    have hends : Ends f := by simp [Ends, hi]
    obtain ⟨h, hh⟩ := active_of_finish_reply hf hi ho
    refine ⟨h, (recorded_of_run h0 hbefore).pending h hh, ?_⟩
    rcases answers_or_poisons ha hf hends hh with hans | ⟨-, -, hterminate, -⟩
    · exact hans
    · rw [ho] at hterminate
      cases hterminate
  · intro f hmem h recordedOwner packet now resolve hh hi
    obtain ⟨tr1, tr2, rfl⟩ := List.append_of_mem hmem
    obtain ⟨hbefore, hf, -⟩ := Machine.Run.split hr
    obtain ⟨running, ha⟩ := attached_of_run h0 hbefore
    exact packet_while_active ha hf hh hi
  · intro h hh
    obtain ⟨running, ha⟩ := attached_of_run h0 hr
    obtain ⟨-, r, rfl, hholds⟩ := ha.holds h hh
    have hrep := ha.consistent.represents
    refine ⟨BrokerServiceScheduler.HoldsStandard.owns hholds hrep, ?_⟩
    rw [hrep.session.active_eq]
    exact congrArg some hholds.1.1

def fiveStages : StandardConnectionConfig := ⟨⟨.every, 5, 5, by decide⟩⟩

/-- Root connects to an idle service. -/
def rootClient : State := ⟨⟨rootPeer, fiveStages, false, none, rfl⟩, idleState⟩

lemma rootClient_init : machine.init rootClient :=
  ⟨⟨idleState, [], Service.idleState_init, .nil _⟩, rootPeer, fiveStages, rfl⟩

/-- Nobody is recorded as owner, and no account is known. -/
def rootSends (packet : Packet) : Input :=
  .packet none packet (.ofSecs 0) fun _ => .error .notFound

def rootOpens : Input := rootSends (magic ++ [fingerprintVersion, 0x02, 0, 0, 0, 0, 0, 0])

def rootLists : Input := rootSends (magic ++ [fingerprintVersion, 0x03, 0, 0, 0, 0, 0, 0])

/-- The worker of `rootLists` found no identity. -/
def rootListed : Input :=
  .finishWorker (.new rootListing.operation (.identityList none [])) (.ofSecs 1)

lemma rootRun_allowed : machine.Allowed rootClient [rootOpens, rootLists, rootListed] :=
  ⟨trivial, trivial, trivial, trivial⟩

theorem connection_protocol_root :
    (machine.final rootClient [rootOpens, rootLists]).conn.active = some rootListing ∧
    ∃ h, Pending (machine.trace rootClient [rootOpens, rootLists]) h ∧
      Answers (machine.eventOf (machine.final rootClient [rootOpens, rootLists]) rootListed) h :=
  ⟨rfl, (connection_protocol rootClient_init rootRun_allowed.run).2.2.1
    (machine.trace rootClient [rootOpens, rootLists])
    (machine.eventOf (machine.final rootClient [rootOpens, rootLists]) rootListed) []
    (.new rootListing.operation (.identityList none [])) (.ofSecs 1)
    (StandardReply.new (.identityList none [])) rfl rfl rfl⟩

end Connection

/-! ### Stale calls -/

namespace Service

/-- The handle is not the active operation's: it has another token or lease, or it comes
from another service. -/
def State.Stale (w : State) (h : Scheduled) : Prop :=
  w.service.coordinator.state.active.map token ≠ some h.token ∨
  w.service.workers.active.map ActiveWorker.lease ≠ some h.lease ∨
  h.slot ≠ w.service.coordinator.cancellation.identity ∨
  h.serviceIdentity ≠ w.service.identity

/-- A peer that cannot cancel now. -/
def State.CannotCancel (w : State) (peer : PeerMetadata) : Prop :=
  ¬ peer.IsLocalRoot ∨ w.service.coordinator.state.active = none

/-- The call carries a handle, a completion or a peer that does not belong to the active
operation. -/
def Call.Foreign (w : State) : Call → Prop
  | dispatch peer _ packet _ => decodeRequest packet = .ok .cancel ∧ w.CannotCancel peer
  | cancelWithoutOwner peer => w.CannotCancel peer
  | finish h completion _ =>
    w.Stale (.authentication h) ∨ completion.belongsTo h.authentication = false
  | finishWithFeedback h completion _ =>
    w.Stale (.authentication h) ∨ completion.belongsTo h.authentication = false
  | finishStandard h completion _ =>
    w.Stale (.standard h) ∨ completion.belongsTo h.operation = false
  | c => ∃ h, c.handle = some h ∧ w.Stale h

variable {w : State} {c : Call} {h : Scheduled} {r : Running}

lemma not_stale_of_holds
    (hrep : w.service.Represents (some r)) (hh : w.service.HoldsScheduled r h) : ¬ w.Stale h := by
  have htoken : w.service.coordinator.state.active.map token = some h.token := by
    rw [hrep.session.active_eq]
    exact congrArg some hh.1.1
  have hlease : w.service.workers.active.map ActiveWorker.lease = some h.lease := by
    rw [hrep.2]
    exact congrArg some hh.2.1
  rintro (ht | hl | hs | hi)
  · exact ht htoken
  · exact hl hlease
  · exact hs hh.1.2.2
  · exact hi hh.2.2.symm

/-- A request to cancel from a peer that cannot is answered without a change. -/
lemma cancel_refused (hc : c.Foreign w) (hnone : c.handle = none) :
    ∃ answer, answer.isRefusal = true ∧ State.call w.service c = (answer, w.service) := by
  cases hp : w.service.workers.poisoned with
  | true =>
    refine ⟨.dispatched .terminate, rfl, ?_⟩
    cases c <;> simp_all [Call.handle, Call.Foreign, State.call,
      dispatch, cancelWithoutOwner]
  | false =>
    refine ⟨.dispatched (.reply .denied), rfl, ?_⟩
    cases c with
    | dispatch peer policy packet now =>
      have hd := @BrokerState.handlePacketWithCancellation_refused
        w.service.coordinator.state _ CancellationSlot.deliver peer hc.2 policy packet hc.1
      simp [State.call, dispatch, hp,
        BrokerSessionCoordinator.dispatch, hd, BrokerSessionCoordinator.installDecision,
        schedule]
    | cancelWithoutOwner peer =>
      have hd := @BrokerState.cancelForRoot_refused w.service.coordinator.state _
        CancellationSlot.deliver peer hc w.service.coordinator.cancellation
      simp [State.call, cancelWithoutOwner, hp,
        BrokerSessionCoordinator.cancelWithoutOwner, BrokerState.cancelWithoutOwner, hd]
    | _ => simp_all [Call.handle, Call.Foreign]

/-- A foreign completion is refused even with the handle of the running operation. -/
lemma completion_refused (hrep : w.service.Represents (some r))
    (hhandle : c.handle = some h) (hh : w.service.HoldsScheduled r h) (hc : c.Foreign w) :
    ∃ answer, answer.isRefusal = true ∧ State.call w.service c = (answer, w.service) := by
  have hstale := not_stale_of_holds hrep hh
  cases c <;> simp only [Call.handle, Option.some.injEq, reduceCtorEq] at hhandle <;>
    subst hhandle
  case finish h completion now =>
    have hb : completion.belongsTo h.authentication = false := hc.resolve_left hstale
    exact ⟨.response .failure, rfl, by simp [State.call, finish, hb]⟩
  case finishWithFeedback h completion now =>
    have hb : completion.belongsTo h.authentication = false := hc.resolve_left hstale
    exact ⟨.feedback .failure none, rfl, by simp [State.call, finishWithFeedback, hb]⟩
  case finishStandard h completion now =>
    have hb : completion.belongsTo h.operation = false := hc.resolve_left hstale
    exact ⟨.message (.terminal .error), rfl, by simp [State.call, finishStandard, hb]⟩
  all_goals
    obtain ⟨h', hh', hs⟩ := hc
    cases hh'
    exact absurd hs hstale

lemma foreign_refused (hcons : Consistent w running) (hk : ∀ h ∈ c.handle, w.Known h)
    (hc : c.Foreign w) : (w.step c).1.isRefusal = true ∧ (w.step c).2 = w := by
  have hrefused : ∃ answer, answer.isRefusal = true ∧
      State.call w.service c = (answer, w.service) := by
    cases hhandle : c.handle with
    | none => exact cancel_refused hc hhandle
    | some h =>
      rcases hcons.known_cases (hk h hhandle) with ⟨r, rfl, hh⟩ | ⟨howns, hforeign⟩
      · exact completion_refused hcons.represents hhandle hh hc
      · exact call_of_not_owned hcons.represents hhandle howns hforeign
  obtain ⟨answer, ha, hcall⟩ := hrefused
  rw [State.step_of_quiet (Answer.started_of_isRefusal ha) hcall]
  exact ⟨ha, rfl⟩

end Service

/-- **Stale calls change nothing.**  In every reachable state of the service a finish,
abandon, cancel, disconnect, deadline or worker-lost call with a handle, a completion or a
peer that does not belong to the active operation is refused, and the whole state is as
before.  A standard connection that is handed a foreign completion lets go of its operation
and poisons the service; it never replies. -/
theorem stale_calls_change_nothing {w : Service.State} (hw : broker.Reachable w) :
    (∀ c, broker.enabled w c → c.Foreign w → (w.step c).1.isRefusal = true ∧ (w.step c).2 = w) ∧
    (∀ s h completion now, Connection.machine.Reachable s → s.conn.active = some h →
      completion.belongsTo h.operation = false →
      (s.step (.finishWorker completion now)).1 = .dispatched .terminate ∧
      (s.step (.finishWorker completion now)).2.conn.active = none ∧
      (s.step (.finishWorker completion now)).2.world.service.workers.poisoned = true) := by
  constructor
  · intro c henabled hforeign
    obtain ⟨running, hcons⟩ := Service.consistent_of_reachable hw
    exact Service.foreign_refused hcons henabled hforeign
  rintro s h completion now ⟨s0, tr, h0, hr⟩ hh hb
  obtain ⟨running, ha⟩ := Connection.attached_of_run h0 hr
  have hf : Connection.machine.Fires
      (Connection.machine.eventOf s (.finishWorker completion now)) := ⟨trivial, rfl⟩
  rcases Connection.answers_or_poisons ha hf trivial hh with hans | hpoisons
  · obtain ⟨completion', now', -, hi, -, hb', -⟩ := hans
    cases hi
    rw [hb] at hb'
    cases hb'
  · exact hpoisons.2.2

/-- A second report for an operation that is over. -/
theorem stale_calls_change_nothing_root : ((broker.final idleState
      [rootLists, rootCloses, rootListed]).step rootListed).2 =
    broker.final idleState [rootLists, rootCloses, rootListed] :=
  ((stale_calls_change_nothing
    ⟨_, _, Service.idleState_init, Service.closedRun_allowed.run⟩).1 rootListed
    (by rintro _ ⟨⟩; exact .inl (by decide)) (.inl (.inl (by decide)))).2

end T1Bridge
