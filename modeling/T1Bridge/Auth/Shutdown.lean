import T1Bridge.Auth.DaemonRun
import T1Bridge.Lib.Ledger

/-! # Terminal replies when the daemon stops

A worker that completes while its client is connected leaves the daemon owing the client the
terminal reply.  The debt is settled when the reply is handed to the socket, when sending it
fails, or when its deadline has passed.  The ledger of a run (`owed`) is read off its
effects.

The replies of the direct socket are safe: both tests on which the loop returns wait for
them.  The replies of the standard socket stay with the idle connections, which the
beginning of a shutdown drops and the shutdown test does not look at.  So the ledger is
settled at a normal end of the loop for the runs in which the shutdown meets no such reply
(**`terminal_replies_are_sent`**), and `listing_is_lost` is a run in which it does. -/

namespace T1Bridge

open Multiset (add_cons coe_add coe_eq_coe coe_nil coe_singleton cons_coe le_add_left le_zero
  mem_coe singleton_add zero_le)

variable {timed : TimedStandardConnection} {rest : List TimedStandardConnection}
  {c : StandardSocketConnection}

namespace Daemon

variable {s s' : State}

/-! ### The ledger of a run -/

abbrev LoopEvent := Machine.Event State Input (List Effect)

/-- A terminal reply with the client that waits for it. -/
abbrev Debt := Client × Packet

def Effect.entries : Effect → List (Ledger.Entry Debt)
  | secondStart _ => []
  | socketFailed _ _ => []
  | completed client reply => [.incurred (client, reply)]
  | sent client reply => [.settled (client, reply)]
  | sendFailed client reply => [.settled (client, reply)]
  | expired client reply => [.settled (client, reply)]

def book (debts : Multiset Debt) (effects : List Effect) : Multiset Debt :=
  Ledger.balance debts (effects.flatMap Effect.entries)

def owedFrom (debts : Multiset Debt) : List LoopEvent → Multiset Debt
  | [] => debts
  | e :: tr => owedFrom (book debts e.output) tr

/-- The terminal replies of completed operations that no event of the run has settled. -/
def owed (tr : List LoopEvent) : Multiset Debt := owedFrom 0 tr

/-! ### The condition -/

/-- The shutdown is seen for the first time while a standard connection still holds the
terminal reply of a completed operation. -/
def State.dropsReply (s : State) (debts : Multiset Debt) (o : Observation) : Bool :=
  o.cancelled && s.shutdownDeadline.isNone && s.standardConnections.any fun timed =>
      (unsent timed.connection).any fun debt => decide (debt ∈ debts)

/-- After that, the worker of a connected standard client is received as completed. -/
def State.finishesLate (s : State) (o : Observation) : Bool :=
  match s.active, o.standardWorker.poll with
  | some (.standard running), .completed _ =>
    s.shutdownDeadline.isSome && !running.disconnectObserved && !running.connection.hasPendingReply
  | _, _ => false

def State.abandons (s : State) (debts : Multiset Debt) : Input → Bool
  | .close => false
  | .turn o =>
    match s.phase with
    | .top => s.dropsReply debts o
    | .pollWorker => s.finishesLate o
    | _ => false

/-- No step of the run abandons a reply that is owed when it is made. -/
def orderlyFrom (debts : Multiset Debt) : List LoopEvent → Bool
  | [] => true
  | e :: tr => !e.before.abandons debts e.input && orderlyFrom (book debts e.output) tr

def orderly (tr : List LoopEvent) : Bool := orderlyFrom 0 tr

lemma owedFrom_snoc (debts : Multiset Debt) (tr : List LoopEvent) (e : LoopEvent) :
    owedFrom debts (tr ++ [e]) = book (owedFrom debts tr) e.output := by
  induction tr generalizing debts with
  | nil => rfl
  | cons e' tr ih => exact ih (book debts e'.output)

lemma orderlyFrom_snoc (debts : Multiset Debt) (tr : List LoopEvent) (e : LoopEvent) :
    orderlyFrom debts (tr ++ [e]) =
      (orderlyFrom debts tr && !e.before.abandons (owedFrom debts tr) e.input) := by
  induction tr generalizing debts with
  | nil => simp [orderlyFrom, owedFrom]
  | cons e' tr ih =>
    rw [List.cons_append, orderlyFrom, ih, orderlyFrom, owedFrom, Bool.and_assoc]

/-! ### The replies that the daemon holds -/

/-- The replies that wait at the idle standard connections. -/
def State.standardOwing (s : State) : Multiset Debt :=
  ↑((s.standardConnections ++ s.standardPending).flatMap fun timed => unsent timed.connection)

/-- The replies that wait at the direct socket. -/
def State.directOwing (s : State) : Multiset Debt :=
  ↑((s.replies ++ s.repliesPending).map fun timed =>
    ((timed.reply.client, timed.reply.response.encode) : Debt))

section Owing

lemma standardOwing_take (hlist : s.standardConnections = timed :: rest) : s.standardOwing =
      ↑(unsent timed.connection) + { s with standardConnections := rest }.standardOwing := by
  unfold State.standardOwing
  rw [hlist, List.cons_append, List.flatMap_cons, coe_add]

lemma standardOwing_keep (s : State) (timed : TimedStandardConnection) :
    (s.keepStandard timed).standardOwing = ↑(unsent timed.connection) + s.standardOwing := by
  have hperm : (s.standardConnections ++ timed :: s.standardPending).Perm
      (timed :: (s.standardConnections ++ s.standardPending)) := List.perm_middle
  unfold State.standardOwing
  rw [coe_add, coe_eq_coe]
  exact hperm.flatMap_right _

lemma standardOwing_of_perm (fresh : List TimedStandardConnection)
    (h : (s'.standardConnections ++ s'.standardPending).Perm
      (fresh ++ (s.standardConnections ++ s.standardPending))) :
    s.standardOwing ≤ s'.standardOwing := by
  have heq : s'.standardOwing =
      ↑(fresh.flatMap fun timed => unsent timed.connection) + s.standardOwing := by
    unfold State.standardOwing
    rw [coe_add, coe_eq_coe, ← List.flatMap_append]
    exact h.flatMap_right _
  rw [heq]
  exact le_add_left _ _

lemma directOwing_take {timed : TimedReply} {rest : List TimedReply}
    (hlist : s.replies = timed :: rest) :
    s.directOwing = (timed.reply.client, timed.reply.response.encode) ::ₘ
      { s with replies := rest }.directOwing := by
  unfold State.directOwing
  rw [hlist, List.cons_append, List.map_cons, cons_coe]

lemma directOwing_keep (s : State) (timed : TimedReply) :
    { s with repliesPending := timed :: s.repliesPending }.directOwing =
      (timed.reply.client, timed.reply.response.encode) ::ₘ s.directOwing := by
  have hperm : (s.replies ++ timed :: s.repliesPending).Perm
      (timed :: (s.replies ++ s.repliesPending)) := List.perm_middle
  unfold State.directOwing
  rw [cons_coe, coe_eq_coe]
  exact hperm.map _

end Owing

lemma report_entries {effect : Client → Packet → Effect}
    (heffect : effect = .expired ∨ effect = .sent ∨ effect = .sendFailed)
    (c : StandardSocketConnection) :
    (report effect c).flatMap Effect.entries = (unsent c).map .settled := by
  have hsettled : ∀ debt : Debt, (effect debt.1 debt.2).entries = [.settled debt] := by
    rcases heffect with rfl | rfl | rfl <;> exact fun _ => rfl
  rw [report, List.flatMap_map, List.map_eq_flatMap]
  simp only [hsettled]

lemma Settles.entries {effects : List Effect} (h : Settles effects c) :
    effects.flatMap Effect.entries = (unsent c).map .settled := by
  rcases h with rfl | rfl | rfl
  · exact report_entries (.inl rfl) c
  · exact report_entries (.inr (.inr rfl)) c
  · exact report_entries (.inr (.inl rfl)) c

/-! ### What one step does to the ledger -/

/-- What the daemon holds covers what it owes; once it stops, the direct socket alone does. -/
structure Covered (debts : Multiset Debt) (s : State) : Prop where
  held : debts ≤ s.standardOwing + s.directOwing
  stopping : s.shutdownDeadline.isSome = true → debts ≤ s.directOwing

/-- The entries of one step that abandons no reply, and the replies held after it. -/
inductive Booked (debts : Multiset Debt) (s : State) (effects : List Effect) (s' : State) : Prop
  | paid (paid : List Debt) (hentries : effects.flatMap Effect.entries = paid.map .settled)
      (hstandard : s.standardOwing + s.directOwing ≤ ↑paid + (s'.standardOwing + s'.directOwing))
      (hdirect : s.directOwing ≤ ↑paid + s'.directOwing)
      (hshutdown : s'.shutdownDeadline = s.shutdownDeadline)
  | directCompleted (debt : Debt) (hentries : effects.flatMap Effect.entries = [.incurred debt])
      (hstandard : s'.standardOwing = s.standardOwing)
      (hdirect : s'.directOwing = debt ::ₘ s.directOwing)
      (hshutdown : s'.shutdownDeadline = s.shutdownDeadline)
  | standardCompleted (debt : Debt) (hentries : effects.flatMap Effect.entries = [.incurred debt])
      (hstandard : s'.standardOwing = debt ::ₘ s.standardOwing)
      (hdirect : s'.directOwing = s.directOwing) (hrunning : s'.shutdownDeadline = none)
  | cleared (hentries : effects = []) (hdisjoint : ∀ debt ∈ s.standardOwing, debt ∉ debts)
      (hdirect : s'.directOwing = s.directOwing)

section

variable {debts : Multiset Debt} {o : Observation} {effects : List Effect} {w w' : Option Running}

lemma Booked.kept (hstandard : s.standardOwing ≤ s'.standardOwing)
    (hdirect : s.directOwing ≤ s'.directOwing)
    (hshutdown : s'.shutdownDeadline = s.shutdownDeadline) : Booked debts s [] s' := by
  refine .paid [] rfl ?_ ?_ hshutdown
  · exact (Multiset.add_le_add_right hstandard).trans (Multiset.add_le_add_left hdirect)
  · exact hdirect

lemma Booked.settled (hentries : effects.flatMap Effect.entries = (unsent c).map .settled)
    (hstandard : s.standardOwing ≤ ↑(unsent c) + s'.standardOwing)
    (hdirect : s'.directOwing = s.directOwing)
    (hshutdown : s'.shutdownDeadline = s.shutdownDeadline) : Booked debts s effects s' := by
  refine .paid (unsent c) hentries ?_ ?_ hshutdown
  · rw [hdirect, ← Multiset.add_assoc]
    exact Multiset.add_le_add_right hstandard
  · rw [hdirect]
    exact le_add_left _ _

lemma Booked.covered (hb : Booked debts s effects s') (h : Covered debts s) :
    Covered (book debts effects) s' := by
  unfold book
  cases hb with
  | paid paid hentries hstandard hdirect hshutdown =>
    rw [hentries]
    refine ⟨Ledger.covered_settled (h.held.trans hstandard), fun hstops => ?_⟩
    rw [hshutdown] at hstops
    exact Ledger.covered_settled ((h.stopping hstops).trans hdirect)
  | directCompleted debt hentries hstandard hdirect hshutdown =>
    rw [hentries]
    refine ⟨?_, fun hstops => ?_⟩
    · rw [hstandard, hdirect, add_cons]
      exact Ledger.covered_incurred debt h.held
    · rw [hdirect]
      rw [hshutdown] at hstops
      exact Ledger.covered_incurred debt (h.stopping hstops)
  | standardCompleted debt hentries hstandard hdirect hrunning =>
    rw [hentries]
    refine ⟨?_, fun hstops => ?_⟩
    · rw [hstandard, hdirect]
      exact Ledger.covered_incurred debt h.held
    · rw [hrunning] at hstops
      exact absurd hstops (by simp)
  | cleared hentries hdisjoint hdirect =>
    rw [hentries]
    have hrest : debts ≤ s'.directOwing := by
      rw [hdirect]
      exact Ledger.covered_of_disjoint h.held hdisjoint
    exact ⟨hrest.trans (le_add_left _ _), fun _ => hrest⟩

lemma dropsReply_disjoint (hrebuilt : s.standardPending = []) (hcancelled : o.cancelled = true)
    (hfirst : s.shutdownDeadline = none) (h : s.dropsReply debts o = false) :
    ∀ debt ∈ s.standardOwing, debt ∉ debts := by
  intro debt hdebt hmem
  unfold State.standardOwing at hdebt
  rw [hrebuilt, List.append_nil, mem_coe, List.mem_flatMap] at hdebt
  obtain ⟨timed, htimed, hunsent⟩ := hdebt
  have hdrops : s.dropsReply debts o = true := by
    unfold State.dropsReply
    rw [hcancelled, hfirst, Option.isNone_none, Bool.true_and, Bool.true_and, List.any_eq_true]
    exact ⟨timed, htimed, List.any_eq_true.mpr ⟨debt, hunsent, decide_eq_true hmem⟩⟩
  rw [hdrops] at h
  exact absurd h (by simp)

lemma unsent_free (hfree : c.outbound = none) : unsent c = [] := by
  unfold unsent
  rw [hfree]
  rfl

lemma standardOwing_take_free (hlist : s.standardConnections = timed :: rest)
    (hfree : timed.connection.outbound = none) :
    s.standardOwing = { s with standardConnections := rest }.standardOwing := by
  rw [standardOwing_take hlist, unsent_free hfree, coe_nil, Multiset.zero_add]

/-- Every case of a step books its entries, unless it abandons a reply. -/
lemma Moved.booked (hm : Moved s o w effects s' w') (hl : Loop s w) (hok : ¬ s'.Failed)
    (horderly : s.abandons debts (.turn o) = false) : Booked debts s effects s' := by
  cases hm with
  | administered ha =>
    obtain ⟨fresh, hperm, -⟩ := ha.standard
    exact .kept (standardOwing_of_perm fresh hperm) (coe_eq_coe.mpr (ha.replies.map _)).ge ha.shutdown
  | failed hf => exact absurd hf hok
  | shutdownBegun _ _ _ hphase hcancelled hfirst =>
    -- the idle standard connections go with their replies; none of these is owed
    have hrebuilt := hl.rebuilt (by simp [hphase]) (by simp [hphase])
    simp only [State.abandons, hphase] at horderly
    exact .cleared rfl (dropsReply_disjoint hrebuilt hcancelled hfirst horderly) rfl
  | directReplied | rootCancelled | directAbandoned =>
    exact .kept (le_refl _) (Multiset.le_cons_self _ _) rfl
  | standardDropped _ hlist hsettles =>
    exact .settled hsettles.entries (standardOwing_take hlist).le rfl rfl
  | standardKept _ hlist =>
    refine .kept ?_ (le_refl _) rfl
    rw [standardOwing_keep, standardOwing_take hlist]
  | standardSent _ hlist =>
    refine .settled (report_entries (.inr (.inl rfl)) _) ?_ rfl rfl
    rw [standardOwing_keep, standardOwing_take hlist]
    exact Multiset.add_le_add_left (le_add_left _ _)
  | standardAnswered _ hlist hfree | standardRefused _ hlist hfree =>
    refine .kept ?_ (le_refl _) rfl
    rw [standardOwing_keep, standardOwing_take_free hlist hfree]
    exact le_add_left _ _
  | standardStarted _ hlist hfree =>
    exact .kept (standardOwing_take_free hlist hfree).le (le_refl _) rfl
  | disconnected _ _ hsettles =>
    rcases hsettles with rfl | ⟨running, -, hsettles⟩
    · exact .kept (le_refl _) (le_refl _) rfl
    · exact .settled hsettles.entries (le_add_left _ _) rfl rfl
  | replySent =>
    exact .settled (report_entries (.inr (.inl rfl)) _) (le_add_left _ _) rfl rfl
  | @directCompleted _ running _ _ _ _ _ response =>
    cases running.disconnectObserved with
    | true => exact .kept (le_refl _) (le_refl _) rfl
    | false => exact .directCompleted (running.session.client, response.encode) rfl rfl rfl rfl
  | @standardCompleted _ running _ hactive _ hphase completion hpoll _ hfree reply =>
    cases hobs : running.disconnectObserved with
    | true => exact .kept (le_refl _) (le_refl _) rfl
    | false =>
      -- the reply waits at a connection that the shutdown test does not look at
      have hrunning : s.shutdownDeadline = none := by
        have hpending : running.connection.hasPendingReply = false := by
          rw [StandardSocketConnection.hasPendingReply, hfree]
          rfl
        simp only [State.abandons, hphase, State.finishesLate, hactive, hpoll] at horderly
        simpa [hobs, hpending] using horderly
      exact .standardCompleted (running.connection.client, reply.packet) rfl rfl rfl hrunning
  | @replyTaken _ timed _ _ hlist effect heffect =>
    have hentries : [effect timed.reply.client timed.reply.response.encode].flatMap
        Effect.entries = [Ledger.Entry.settled
          (timed.reply.client, timed.reply.response.encode)] := by
      rcases heffect with rfl | rfl | rfl <;> rfl
    refine .paid [(timed.reply.client, timed.reply.response.encode)] hentries ?_ ?_ rfl
    · rw [directOwing_take hlist, add_cons]
      exact le_refl _
    · rw [directOwing_take hlist, coe_singleton, singleton_add]
  | @replyKept _ timed rest _ hlist =>
    refine .kept (le_refl _) ?_ rfl
    rw [directOwing_take hlist]
    exact (directOwing_keep { s with replies := rest } timed).ge
  | deadlineReported =>
    have hperm := (List.reverse_perm s.standardConnections).append_right s.standardPending
    exact .kept (standardOwing_of_perm [] hperm) (le_refl _) rfl
  | exited | directDropped | directWaiting | directStarted | stayed | ownCancelled
  | replyQueued => exact .kept (le_refl _) (le_refl _) rfl

lemma booked_close (s : State) : Booked debts s [] s.close := by
  unfold State.close
  split <;> exact .kept (le_refl _) (le_refl _) rfl

/-- Where the loop returns normally nothing is held, so nothing is owed. -/
lemma Covered.settled (h : Covered debts s) (hl : Loop s w) (hexits : Exits s) : debts = 0 := by
  have hdirect : s.replies = [] → s.phase ≠ .flush → s.directOwing = 0 := by
    intro hreplies hphase
    unfold State.directOwing
    rw [hreplies, hl.flushed hphase]
    rfl
  rcases hexits with ⟨hphase, -, hstandard, hreplies⟩ | ⟨hphase, -, hreplies, hstops⟩
  · have hheld := h.held
    have hempty : s.standardOwing = 0 := by
      unfold State.standardOwing
      rw [hstandard, hl.rebuilt (by simp [hphase]) (by simp [hphase])]
      rfl
    rw [hempty, hdirect hreplies (by simp [hphase])] at hheld
    exact le_zero.mp hheld
  · have hheld := h.stopping hstops
    rw [hdirect hreplies (by simp [hphase])] at hheld
    exact le_zero.mp hheld

end

/-! ### Whole runs -/

section

variable {config : StandardConnectionConfig} {s0 : State} {tr : List LoopEvent}

/-- The ledger along a run: covered as long as the loop has not failed, and settled when it
has returned normally. -/
def Accounted (tr : List LoopEvent) (s : State) : Prop :=
  ¬ s.Failed → Covered (owed tr) s ∧ (s.phase = .returned (.ok ()) → owed tr = 0)

lemma accounted_init : Accounted [] s := by
  intro _
  exact ⟨⟨zero_le _, fun _ => zero_le _⟩, fun _ => rfl⟩

lemma accounted_step {e : LoopEvent} (hbefore : (eventLoop config).Reachable e.before)
    (he : (eventLoop config).Fires e) (horderly : e.before.abandons (owed tr) e.input = false)
    (h : Accounted tr e.before) : Accounted (tr ++ [e]) e.after := by
  obtain ⟨before, input, output, after⟩ := e
  obtain ⟨hloop, hstep⟩ := he
  dsimp only at hbefore hloop hstep horderly h ⊢
  replace hloop : before.Looping := hloop
  intro hok
  have howed : owed (tr ++ [⟨before, input, output, after⟩]) = book (owed tr) output :=
    owedFrom_snoc 0 tr _
  rw [howed]
  obtain ⟨hcovered, -⟩ := h hloop.not_failed
  obtain ⟨w, hl⟩ := Loop.of_reachable hbefore hloop
  cases input with
  | close =>
    obtain ⟨rfl, rfl⟩ := Prod.mk.inj hstep
    refine ⟨(booked_close before).covered hcovered, fun hreturned => ?_⟩
    have hphase : before.close.phase = before.phase := by
      unfold State.close
      split <;> rfl
    rw [hphase] at hreturned
    rw [State.Looping, hreturned] at hloop
    exact absurd hloop (by simp [Phase.isReturned])
  | turn o =>
    obtain ⟨w', hm⟩ := turn_moves hl hloop config o
    replace hstep : before.turn config o = (output, after) := hstep
    rw [hstep] at hm
    refine ⟨(hm.booked hl hok horderly).covered hcovered, fun hreturned => ?_⟩
    rcases hm.returns hloop with hlooping | ⟨hfailed, -⟩ | ⟨hexits, rfl, -⟩
    · rw [State.Looping, hreturned] at hlooping
      exact absurd hlooping (by simp [Phase.isReturned])
    · exact absurd hfailed hok
    · exact hcovered.settled hl hexits

lemma accounted_of_run (hinit : (eventLoop config).init s0)
    (hrun : (eventLoop config).Run s0 tr s) : orderly tr = true → Accounted tr s := by
  refine hrun.history (P := fun tr s => orderly tr = true → Accounted tr s)
    (fun _ => accounted_init) ?_
  intro tr e hr he ih horderly
  rw [orderly, orderlyFrom_snoc, Bool.and_eq_true, Bool.not_eq_true'] at horderly
  exact accounted_step ⟨s0, tr, hinit, hr⟩ he horderly.2 (ih horderly.1)

/-- **Terminal replies.**  A run that ends normally, on an idle exit or an orderly shutdown,
leaves no terminal reply owed: each operation whose worker completed while its client was
connected has had its reply handed to the socket, unless sending failed or the deadline of
the reply passed.  The run is one in which the shutdown is first seen while no standard
connection holds such a reply, and in which no standard worker completes after that. -/
theorem terminal_replies_are_sent (hinit : (eventLoop config).init s0)
    (hrun : (eventLoop config).Run s0 tr s) (horderly : orderly tr = true)
    (hreturned : s.phase = .returned (.ok ())) : owed tr = 0 := by
  have hok : ¬ s.Failed := by
    rintro ⟨error, herror⟩
    rw [hreturned] at herror
    exact absurd herror (by simp)
  exact (accounted_of_run hinit hrun horderly hok).2 hreturned

end

/-! ### A listing that completes just before the daemon is stopped -/

/-- The worker has read an empty list of identities for client 7. -/
def completing : Observation :=
  { quiet with standardWorker :=
      ⟨.ok (.completed ⟨⟨1⟩, 0, 0, .identityList none [], rfl⟩), true, true⟩ }

/-- The rest of the tick in which the completion is received. -/
def completes : List Input :=
  List.replicate 6 (.turn quiet) ++ [.turn completing, .turn quiet, .turn quiet]

/-- The next tick, in which the socket takes the reply. -/
def delivers : List Input :=
  List.replicate 9 (.turn quiet) ++ [.turn (sending 13)] ++ List.replicate 5 (.turn quiet)

/-- A tick that begins with the shutdown. -/
def stops : List Input :=
  .turn { quiet with cancelled := true } :: List.replicate 8 (.turn quiet)

def emptyListing : Packet := magic ++ [fingerprintVersion, 0x83, 0, 0, 0, 1, 0, 0, 0]

/-- The daemon is stopped one tick after the completion. -/
def delivered : List LoopEvent :=
  (eventLoop standardConfig).trace entered (opens ++ lists ++ completes ++ delivers ++ stops)

theorem terminal_replies_are_sent_listing :
    [Effect.completed 7 emptyListing, .sent 7 emptyListing].Sublist
      (delivered.flatMap Machine.Event.output) ∧ owed delivered = 0 := by
  have hrun : (eventLoop standardConfig).Allowed entered
      (opens ++ lists ++ completes ++ delivers ++ stops) := by decide +kernel
  exact ⟨by decide +kernel,
    terminal_replies_are_sent entered_init hrun.run (by decide +kernel) (by decide +kernel)⟩

/-- The daemon is stopped in the tick after the completion: the loop returns normally, and
the reply has neither been tried to send nor expired. -/
theorem listing_is_lost : (eventLoop standardConfig).init entered ∧
    (eventLoop standardConfig).Run entered
      ((eventLoop standardConfig).trace entered (opens ++ lists ++ completes ++ stops))
      ((eventLoop standardConfig).final entered (opens ++ lists ++ completes ++ stops)) ∧
    ((eventLoop standardConfig).final entered (opens ++ lists ++ completes ++ stops)).phase =
      .returned (.ok ()) ∧
    owed ((eventLoop standardConfig).trace entered (opens ++ lists ++ completes ++ stops)) =
      {(7, emptyListing)} := by
  have hrun : (eventLoop standardConfig).Allowed entered (opens ++ lists ++ completes ++ stops) := by
    decide +kernel
  exact ⟨entered_init, hrun.run, by decide +kernel, by decide +kernel⟩

end Daemon

end T1Bridge
