import T1Bridge.Auth.History

/-! # Identifiers and poison along a run

The broker's tokens and the worker slot's leases come from two counters owned by different
objects.  Every call makes each of them stand still or hand out its value (`Effect.counts`),
so the library on counters says that neither kind of identifier is ever handed out twice.  A
token may be spent without a handle: the slot then had no lease or no deadline left, and the
call poisoned it. -/

namespace T1Bridge

open BrokerServiceScheduler (finish finishStandard finishWithFeedback)
open Ticket (advance issued)

namespace Service

/-- The counter of the broker's operation tokens. -/
def State.nextToken (w : State) : UInt64 := w.service.coordinator.state.nextToken

/-- The counter of the worker slot's leases. -/
def State.nextLease (w : State) : UInt64 := w.service.workers.nextLease

def State.poisoned (w : State) : Bool := w.service.workers.poisoned

section

variable {w w' : State} {c : Call} {running running' : Option Running} {answer : Answer}
  {h : Scheduled}

variable (he : Effect w c running answer w' running')

include he

/-- The counters stand still, advance together for a new handle, or only a token is spent. -/
lemma Effect.counts :
    (answer.started = none ∧ w'.nextToken = w.nextToken ∧ w'.nextLease = w.nextLease) ∨
    (answer.started = none ∧ w.nextToken ≠ 0 ∧ w'.nextToken = advance w.nextToken ∧
      w'.nextLease = w.nextLease ∧ w'.poisoned = true) ∨
    (∃ h, answer.started = some h ∧ w.poisoned = false ∧
      h.token.value = w.nextToken ∧ w.nextToken ≠ 0 ∧ w'.nextToken = advance w.nextToken ∧
      h.lease.value = w.nextLease ∧ w.nextLease ≠ 0 ∧ w'.nextLease = advance w.nextLease) := by
  cases he with
  | refused _ _ ha => exact .inl ⟨Answer.started_of_isRefusal ha, rfl, rfl⟩
  | started h _ _ _ hp hs ht hl hh =>
    exact .inr (.inr ⟨h, hs, hp, congrArg OperationToken.value hh.1.1.symm, ht, rfl,
      congrArg WorkerLease.value hh.2.1.symm, hl, rfl⟩)
  | exhausted _ ha _ ht =>
    exact .inr (.inl ⟨Answer.started_of_isRefusal ha, ht, rfl, rfl, rfl⟩)
  | acknowledged _ _ _ _ ha => exact .inl ⟨Answer.started_of_positive ha, rfl, rfl⟩
  | finished _ _ _ _ _ _ hf => exact .inl ⟨(hf.silent (w := w)).2, rfl, rfl⟩
  | closed | lost | expired => exact .inl ⟨rfl, rfl, rfl⟩

lemma Effect.steps :
    Ticket.Steps w.nextToken w'.nextToken ∧ Ticket.Steps w.nextLease w'.nextLease := by
  rcases he.counts with ⟨-, ht, hl⟩ | ⟨-, hn, ht, hl, -⟩ | ⟨_, -, -, -, hn, ht, -, hm, hl⟩
  · exact ⟨.inl ht, .inl hl⟩
  · exact ⟨.inr ⟨hn, ht⟩, .inl hl⟩
  · exact ⟨.inr ⟨hn, ht⟩, .inr ⟨hm, hl⟩⟩

lemma Effect.taken (hs : answer.started = some h) :
    Ticket.taken w.nextToken w'.nextToken = some h.token.value ∧
      Ticket.taken w.nextLease w'.nextLease = some h.lease.value := by
  rcases he.counts with ⟨hn, -⟩ | ⟨hn, -⟩ | ⟨h', hs', -, ht, hn, hta, hl, hm, hla⟩
  · simp [hn] at hs
  · simp [hn] at hs
  obtain rfl : h' = h := Option.some.inj (hs'.symm.trans hs)
  rw [ht, hl, hta, hla]
  exact ⟨Ticket.taken_advance hn, Ticket.taken_advance hm⟩

lemma Effect.poisoned (hp : w.poisoned = true) : w'.poisoned = true := by
  cases he with
  | exhausted => rfl
  | lost => rfl
  | refused | started | acknowledged | closed | finished | expired => exact hp

lemma Effect.poisoned_of_lost (ha : answer = .flag true)
    (hc : (∃ h, c = .workerLost h) ∨ ∃ h, c = .standardWorkerLost h) : w'.poisoned = true := by
  have hd : c.delivery w = none := by rcases hc with ⟨h, rfl⟩ | ⟨h, rfl⟩ <;> rfl
  cases he with
  | refused _ _ hr => simp [ha, Answer.isRefusal] at hr
  | started _ _ _ _ _ hs => simp [ha, Answer.started] at hs
  | exhausted => rfl
  | acknowledged _ _ _ hd' => simp [hd] at hd'
  | closed _ _ hclose => rcases hc with ⟨h, rfl⟩ | ⟨h, rfl⟩ <;> cases hclose
  | finished _ _ _ _ _ _ hf => rcases hc with ⟨h, rfl⟩ | ⟨h, rfl⟩ <;> exact hf.elim
  | lost => rfl
  | expired => cases ha

/-- No call gives an issued handle the worker slot again. -/
lemma Effect.owned (hc : Consistent w running) (hi : h ∈ w.issued)
    (ho : w'.service.ownsScheduled h = true) : w.service.ownsScheduled h = true := by
  obtain ⟨hid, r, hr, hl⟩ := (he.consistent hc).represents.ownsLease_iff.mp ho
  refine hc.represents.ownsLease_iff.mpr ?_
  cases he with
  | started _ _ _ _ _ _ _ hfresh =>
    cases hr
    have hspent := hc.lease_spent h hi
    rw [← hl] at hspent
    exact (Ticket.not_spent_self hfresh hspent).elim
  | exhausted | finished => cases hr
  | _ =>
    cases hr
    exact ⟨hid, _, rfl, hl⟩

/-- A poisoned service gives its clients no result but failures, errors and cancellations. -/
lemma Effect.not_isSuccess (hp : w.poisoned = true) (hstep : w.step c = (answer, w')) :
    ¬ answer.IsSuccess := by
  intro hs
  obtain ⟨r, h, rfl, -, -, hf⟩ := he.finished_of_isSuccess hs
  have hp : w.service.workers.poisoned = true := hp
  have hout : (State.call w.service c).1 = answer := congrArg Prod.fst hstep
  cases c with
  | finish | finishWithFeedback | finishStandard =>
    simp only [State.call, finish, finishWithFeedback, finishStandard, hp] at hout
    simp [← hout, Answer.IsSuccess] at hs
  | abandon h now =>
    rw [show answer = .response .failure from hf] at hs
    exact hs rfl
  | abandonStandard h now =>
    rw [show answer = .message _ from hf] at hs
    simp [Answer.IsSuccess, Session.standardResponse] at hs
  | _ => exact hf

end

section

variable {w0 w : State} {tr tr1 tr2 : List Event} {e : Event}

lemma effect_of_run (h0 : broker.init w0) (hr : broker.Run w0 tr w) (he : e ∈ tr) :
    e.before.step e.input = (e.output, e.after) ∧
      ∃ running running', Effect e.before e.input running e.output e.after running' := by
  obtain ⟨u, v, rfl⟩ := List.append_of_mem he
  obtain ⟨hf, running, running', -, heff⟩ := ledger_at h0 hr
  exact ⟨hf.2, running, running', heff⟩

/-- A handle carries the identifier that its event took from the counter, no later event takes
it again, and after the largest one nothing is taken and no operation starts any more. -/
def NeverReused (counter : State → UInt64) (name : Scheduled → UInt64) (tr : List Event) : Prop :=
  (∀ e ∈ tr, ∀ h, e.output.started = some h → issued counter e = some (name h)) ∧
  (∀ tr1 a tr2 b tr3 t, tr = tr1 ++ a :: tr2 ++ b :: tr3 → issued counter a = some t →
    issued counter b ≠ some t) ∧
  (∀ tr1 a tr2 t, tr = tr1 ++ a :: tr2 → issued counter a = some t → t.toNat = 2 ^ 64 - 1 →
    ∀ b ∈ tr2, issued counter b = none ∧ b.output.started = none)

lemma neverReused_of_counts {counter : State → UInt64} {name : Scheduled → UInt64}
    (hr : broker.Run w0 tr w) (hc : Ticket.Counts counter tr)
    (hname : ∀ e ∈ tr, ∀ h, e.output.started = some h → issued counter e = some (name h)) :
    NeverReused counter name tr := by
  refine ⟨hname, ?_, ?_⟩
  · rintro tr1 a tr2 b tr3 t rfl
    exact Ticket.issued_ne_of_run hr hc
  rintro tr1 a tr2 t rfl ha hmax b hb
  have hzero := (hc a (by simp)).of_taken_max ha hmax
  have hnone := Ticket.issued_of_zero (Machine.Run.split hr).2.2
    (fun e he => hc e (by simp [he])) hzero b hb
  refine ⟨hnone, Option.eq_none_iff_forall_ne_some.mpr fun h hs => ?_⟩
  rw [hname b (by simp [hb]) h hs] at hnone
  cases hnone

/-- **Identifiers are never reused and poison stays.**  In every run neither a token nor a
lease is taken twice, also when its counter reaches the maximum.  A lost worker and an
admission without a lease or a deadline poison the scheduler; from then on it stays poisoned,
and no call starts an operation or reports a success. -/
theorem identifiers_are_never_reused {w0 w : State} {tr : List Event} (h0 : broker.init w0)
    (hr : broker.Run w0 tr w) : NeverReused State.nextToken (fun h => h.token.value) tr ∧
    NeverReused State.nextLease (fun h => h.lease.value) tr ∧ (∀ e ∈ tr, (e.output = .flag true ∧
        ((∃ h, e.input = .workerLost h) ∨ ∃ h, e.input = .standardWorkerLost h)) ∨
      (issued State.nextToken e ≠ none ∧ issued State.nextLease e = none) →
      e.after.poisoned = true) ∧
    (∀ tr1 a tr2, tr = tr1 ++ a :: tr2 → a.after.poisoned = true → ∀ b ∈ tr2,
      b.after.poisoned = true ∧ b.output.started = none ∧ ¬ b.output.IsSuccess) := by
  have heffect := fun e (he : e ∈ tr) => (effect_of_run h0 hr he).2
  refine ⟨neverReused_of_counts hr ?_ ?_, neverReused_of_counts hr ?_ ?_, ?_, ?_⟩
  · intro e he
    obtain ⟨_, _, heff⟩ := heffect e he
    exact heff.steps.1
  · intro e he h hs
    obtain ⟨_, _, heff⟩ := heffect e he
    exact (heff.taken hs).1
  · intro e he
    obtain ⟨_, _, heff⟩ := heffect e he
    exact heff.steps.2
  · intro e he h hs
    obtain ⟨_, _, heff⟩ := heffect e he
    exact (heff.taken hs).2
  · intro e he hcause
    obtain ⟨_, _, heff⟩ := heffect e he
    rcases hcause with ⟨ho, hlost⟩ | ⟨htoken, hlease⟩
    · exact heff.poisoned_of_lost ho hlost
    rcases heff.counts with ⟨-, ht, -⟩ | ⟨-, -, -, -, hp⟩ | ⟨h, hs, -⟩
    · exact absurd (if_pos ht) htoken
    · exact hp
    · cases (heff.taken hs).2.symm.trans hlease
  · rintro tr1 a tr2 rfl hp b hb
    obtain ⟨hstep, _, _, heff⟩ := effect_of_run h0 hr (e := b) (by simp [hb])
    have hbefore : b.before.poisoned = true := by
      refine ((Machine.Run.split hr).2.2.kept (P := fun w => w.poisoned = true)
        (fun e he h => ?_) hp).2 b hb
      obtain ⟨_, _, heff⟩ := heffect e (by simp [he])
      exact heff.poisoned h
    refine ⟨heff.poisoned hbefore, ?_, heff.not_isSuccess hbefore hstep⟩
    rcases heff.counts with ⟨hn, -⟩ | ⟨hn, -⟩ | ⟨_, _, hsound, -⟩
    · exact hn
    · exact hn
    · rw [hbefore] at hsound
      cases hsound

end

/-- The worker of `rootScheduled` is reported lost. -/
def rootLost : Call := .workerLost rootScheduled

lemma lostRun_allowed :
    broker.Allowed idleState [rootAuthenticates, rootLost, rootAuthenticates] := by
  refine ⟨by rintro _ ⟨⟩, ?_, by rintro _ ⟨⟩, trivial⟩
  rintro _ ⟨⟩
  exact .inl (by decide)

theorem identifiers_are_never_reused_root :
    ((broker.final idleState [rootAuthenticates]).step rootLost).2.poisoned = true ∧
      ((broker.final idleState [rootAuthenticates, rootLost]).step
        rootAuthenticates).1.started = none :=
  have h := (identifiers_are_never_reused idleState_init lostRun_allowed.run).2.2.2
    [broker.eventOf idleState rootAuthenticates]
    (broker.eventOf (broker.final idleState [rootAuthenticates]) rootLost)
    [broker.eventOf (broker.final idleState [rootAuthenticates, rootLost]) rootAuthenticates] rfl
  ⟨by decide, (h (by decide) _ (List.mem_singleton_self _)).2.1⟩

/-- An operation ends once: a handle that has lost the worker slot never gets it back. -/
theorem operations_end_once {w w' : State} {h : Scheduled} (hreach : broker.Reachable w)
    (hi : h ∈ w.issued) (hover : ¬ w.service.ownsScheduled h = true) {tr : List Event}
    (hr : broker.Run w tr w') : ¬ w'.service.ownsScheduled h = true := by
  obtain ⟨running, hc⟩ := consistent_of_reachable hreach
  have hkept := hr.invariant (I := fun w => ∃ running, Consistent w running ∧ h ∈ w.issued ∧
    ¬ w.service.ownsScheduled h = true) ?_ ⟨running, hc, hi, hover⟩
  · obtain ⟨-, -, -, hover⟩ := hkept
    exact hover
  · rintro w c he ⟨running, hc, hi, ho⟩
    obtain ⟨running', heff⟩ := step_effect hc he
    exact ⟨running', heff.consistent hc, List.mem_append_left _ hi, ho ∘ heff.owned hc hi⟩

theorem operations_end_once_root : ¬ ((broker.final idleState [rootLists, rootCloses,
    rootListed]).step rootLists).2.service.ownsScheduled (.standard rootListing) = true :=
  operations_end_once ⟨_, _, idleState_init, closedRun_allowed.run⟩ (by decide) (by decide)
    (Machine.Run.single (e := broker.eventOf _ rootLists) ⟨by rintro _ ⟨⟩, rfl⟩)

end Service

end T1Bridge
