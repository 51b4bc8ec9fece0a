import T1Bridge.Auth.Service

/-! # What a run of the broker remembers

The state of the service says whether the running operation counts as cancelled and
whether it still accepts a cancellation; a client only sees the answers it was given.
`Ledger` connects the two along a run: the running operation is cancelled exactly when
some earlier event acknowledged a delivery to its token, it accepts nothing after its
worker closed the slot, and every issued handle comes from a start by a peer with the
right to it.  Tokens are never reused, so an acknowledgement for an operation that is over
says nothing about a later one.

**`acknowledged_cancellation_wins`** and **`close_is_linearisation_point`** are read off the
ledger. -/

namespace T1Bridge

open AuthenticationCompletion (belongsTo_iff new)
open BrokerSessionCoordinator (closeCancellation fresh operationResult)

namespace Service

/-- Some event of the trace acknowledged a cancellation of this token. -/
def Acknowledged (tr : List Event) (token : OperationToken) : Prop :=
  ∃ e ∈ tr, Acknowledges e token

/-- The worker of an issued handle with this token closed its cancellation. -/
def Closes (e : Event) (token : OperationToken) : Prop :=
  ∃ h ∈ e.before.issued, e.input = .closeCancellation h ∧ h.token = token

/-- Some event of the trace closed the cancellation of this token. -/
def Closed (tr : List Event) (token : OperationToken) : Prop :=
  ∃ e ∈ tr, Closes e token

/-- The event hands out this handle to a peer with the right to it. -/
def Starts (e : Event) (h : Scheduled) : Prop :=
  e.output.started = some h ∧ e.input.Authorized

variable {token : OperationToken} {e : Event} {tr : List Event} {answer : Answer} {h : Scheduled}

section Append

lemma acknowledged_append : Acknowledged (tr ++ [e]) token ↔
    Acknowledged tr token ∨ Acknowledges e token := by
  simp [Acknowledged]

lemma closed_append : Closed (tr ++ [e]) token ↔ Closed tr token ∨ Closes e token := by
  simp [Closed]

end Append

/-- The running operation as the trace tells it. -/
structure Ledger (tr : List Event) (w : State) (running : Option Running) : Prop where
  consistent : Consistent w running
  started : ∀ h ∈ w.issued, ∃ e ∈ tr, Starts e h
  acknowledged : ∀ r ∈ running, (r.session.cancelled = true ↔ Acknowledged tr r.session.token)
  closed : ∀ r ∈ running, Closed tr r.session.token → r.session.accepting = false
  acknowledged_spent : ∀ token, Acknowledged tr token →
    Ticket.Spent w.service.coordinator.state.nextToken token.value
  closed_spent : ∀ token, Closed tr token →
    Ticket.Spent w.service.coordinator.state.nextToken token.value

section

variable {w w' : State} {c : Call} {running running' : Option Running} {r : Running}

/-- A call that finishes an operation delivers no cancellation and starts nothing. -/
lemma Call.Finishes.silent (hf : c.Finishes r answer) :
    c.delivery w = none ∧ answer.started = none := by
  cases c <;> simp_all [Call.Finishes, Call.delivery, Answer.started]

section

variable (he : Effect w c running answer w' running')

include he

lemma Effect.of_acknowledges (hd : c.delivery w = some token) (ha : answer.positive = true) :
    ∃ r, running = some r ∧ r.session.token = token ∧ r.session.accepting = true ∧
      running' = some { r with session := { r.session with cancelled := true } } := by
  cases he with
  | refused _ _ hr | exhausted _ hr => simp [Answer.not_positive_of_isRefusal hr] at ha
  | started h _ _ _ _ hs => simp [Answer.started_of_positive ha] at hs
  | acknowledged r _ haccepting hdr _ =>
    rw [hd] at hdr
    exact ⟨r, rfl, (Option.some.inj hdr).symm, haccepting, rfl⟩
  | closed r h hc =>
    subst hc
    simp [Call.delivery] at hd
  | finished r h _ _ _ _ hf =>
    rw [hf.silent.1] at hd
    cases hd
  | lost r h _ _ hn => simp [hn] at hd
  | expired r => simp [Answer.positive] at ha

/-- The session goes on with the same token and event, or a new one starts. -/
lemma Effect.session_of_not_acknowledged
    (hn : ¬ (∃ token, c.delivery w = some token ∧ answer.positive = true)) :
    (∀ r' ∈ running', ∃ r ∈ running, r'.session.token = r.session.token ∧
      r'.session.cancelled = r.session.cancelled ∧
      (r.session.accepting = false → r'.session.accepting = false)) ∨
    (∃ h deadline, running' = some (w.service.fresh deadline) ∧ answer.started = some h ∧
      c.Authorized ∧ w.service.coordinator.state.nextToken ≠ 0 ∧ w'.issued = w.issued ++ [h]) := by
  cases he with
  | refused => exact .inl fun r hr => ⟨r, hr, rfl, rfl, id⟩
  | started h _ deadline hc _ hs ht => exact .inr ⟨h, deadline, rfl, hs, hc, ht, rfl⟩
  | exhausted | closed r | finished | lost r | expired r => exact .inl (by simp)
  | acknowledged r _ _ hd ha => exact absurd ⟨_, hd, ha⟩ hn

lemma Effect.issued_eq :
    w'.issued = w.issued ++ answer.started.toList ∧ (answer.started ≠ none → c.Authorized) := by
  cases he with
  | refused _ _ ha | exhausted _ ha => simp [Answer.started_of_isRefusal ha]
  | started h _ _ hc _ hs => simp [hs, hc]
  | acknowledged _ _ _ _ ha => simp [Answer.started_of_positive ha]
  | closed | lost | expired => simp [Answer.started]
  | finished _ _ _ _ _ _ hf => simp [(hf.silent (w := w)).2]

lemma Effect.spent {t : UInt64} (h : Ticket.Spent w.service.coordinator.state.nextToken t) :
    Ticket.Spent w'.service.coordinator.state.nextToken t := by
  cases he with
  | started _ _ _ _ _ _ ht | exhausted _ _ _ ht => exact h.advance ht
  | refused | acknowledged | closed | finished | lost | expired => exact h

end

/-- After an issued handle's own close nothing is registered for its operation. -/
lemma registration_of_close (hc : Consistent w running) (hi : h ∈ w.issued)
    (hr : running = some r) (ht : r.session.token = h.token) :
    (w.step (.closeCancellation h)).2.service.coordinator.cancellation.registration = none := by
  subst hr
  have hh := hc.holds_of_token hi ht
  have hclose := BrokerServiceScheduler.closeCancellation_held hc.represents hh.1
  rw [State.step_of_call (by simp only [State.call, hclose]; rfl)]
  cases ha : r.session.accepting with
  | true => rfl
  | false =>
    have hreg := hc.represents.session.2.2.1
    simpa [Session.registration, ha] using hreg

lemma accepting_of_registration (hrep : w.service.Represents (some r))
    (h : w.service.coordinator.cancellation.registration = none) : r.session.accepting = false := by
  have hreg := hrep.session.2.2.1
  rw [h] at hreg
  cases ha : r.session.accepting with
  | false => rfl
  | true => simp [Session.registration, ha] at hreg

end

section

variable {running : Option Running} {w : State} {r : Running} {running' : Option Running} {c : Call}
  {w0 : State}

/-- An acknowledged delivery: the running operation is cancelled and nothing else changes. -/
lemma Ledger.step_acknowledged (hl : Ledger tr e.before running)
    (heff : Effect e.before e.input running e.output e.after running')
    (hack : Acknowledges e token) : Ledger (tr ++ [e]) e.after running' := by
  obtain ⟨r, rfl, ht, haccepting, rfl⟩ := heff.of_acknowledges hack.1 hack.2
  have hissued := heff.issued_eq
  have hnot : ∀ h, e.input ≠ .closeCancellation h := by
    intro h hc
    simp [Acknowledges, hc, Call.delivery] at hack
  have hclosed (t : OperationToken) (hc : Closed (tr ++ [e]) t) : Closed tr t := by
    rcases closed_append.mp hc with hc | ⟨h, -, hc, -⟩
    · exact hc
    · exact absurd hc (hnot h)
  refine ⟨heff.consistent hl.consistent, ?_, ?_, ?_, ?_, ?_⟩
  · intro h hi
    rw [hissued.1, Answer.started_of_positive hack.2, Option.toList_none, List.append_nil] at hi
    obtain ⟨e', he', hs⟩ := hl.started h hi
    exact ⟨e', List.mem_append_left _ he', hs⟩
  · rintro r' ⟨⟩
    simp only [true_iff]
    exact acknowledged_append.mpr (.inr (ht ▸ hack))
  · rintro r' ⟨⟩ hc
    exact hl.closed r rfl (hclosed _ hc)
  · intro t hc
    apply heff.spent
    rcases acknowledged_append.mp hc with hc | hc
    · exact hl.acknowledged_spent t hc
    obtain rfl : token = t := Option.some.inj (hack.1.symm.trans hc.1)
    obtain ⟨h, hi, hh⟩ := hl.consistent.held r rfl
    rw [← ht, show r.session.token = h.token from hh.1.1]
    exact hl.consistent.token_spent h hi
  · intro t hc
    exact heff.spent (hl.closed_spent t (hclosed t hc))

/-- Any other event: the operation goes on, ends or is new. -/
lemma Ledger.step_other (hl : Ledger tr e.before running) (hf : broker.Fires e)
    (heff : Effect e.before e.input running e.output e.after running')
    (hack : ∀ token, ¬ Acknowledges e token) : Ledger (tr ++ [e]) e.after running' := by
  have hcons' := heff.consistent hl.consistent
  have hnot : ¬ ∃ token, e.input.delivery e.before = some token ∧ e.output.positive = true :=
    fun ⟨token, h⟩ => hack token h
  have hacked (t : OperationToken) : Acknowledged (tr ++ [e]) t ↔ Acknowledged tr t := by
    rw [acknowledged_append, or_iff_left (hack t)]
  have hsession := heff.session_of_not_acknowledged hnot
  refine ⟨hcons', ?_, ?_, ?_, ?_, ?_⟩
  · intro h hi
    rw [heff.issued_eq.1] at hi
    rcases List.mem_append.mp hi with hi | hi
    · obtain ⟨e', he', hs⟩ := hl.started h hi
      exact ⟨e', List.mem_append_left _ he', hs⟩
    · have hs : e.output.started = some h := by simpa using hi
      exact ⟨e, by simp, hs, heff.issued_eq.2 (by simp [hs])⟩
  · intro r' hr'
    rw [hacked]
    rcases hsession with hsame | ⟨h, deadline, hfresh, -, -, hn, -⟩
    · obtain ⟨r, hr, ht, hc, -⟩ := hsame r' hr'
      rw [ht, hc]
      exact hl.acknowledged r hr
    obtain rfl : e.before.service.fresh deadline = r' := by
      rw [hfresh] at hr'
      exact Option.some.inj hr'
    refine iff_of_false (by simp [BrokerServiceScheduler.fresh, fresh]) ?_
    intro ha
    exact Ticket.not_spent_self hn (hl.acknowledged_spent _ ha)
  · intro r' hr' hc
    rcases closed_append.mp hc with hc | ⟨h, hi, hclose, ht'⟩
    · rcases hsession with hsame | ⟨h, deadline, hfresh, -, -, hn, -⟩
      · obtain ⟨r, hr, ht, -, ha⟩ := hsame r' hr'
        exact ha (hl.closed r hr (ht ▸ hc))
      obtain rfl : e.before.service.fresh deadline = r' := by
        rw [hfresh] at hr'
        exact Option.some.inj hr'
      exact absurd (hl.closed_spent _ hc) (Ticket.not_spent_self hn)
    · rcases hsession with hsame | ⟨_, _, _, _, hauth, _⟩
      · obtain ⟨r, hr, ht, -, -⟩ := hsame r' hr'
        have hreg := registration_of_close hl.consistent hi hr (ht.symm.trans ht'.symm)
        have hafter : e.after = (e.before.step (.closeCancellation h)).2 := by
          rw [← hclose]
          exact hf.after_eq
        rw [← hafter] at hreg
        obtain rfl := Option.mem_def.mp hr'
        exact accepting_of_registration hcons'.represents hreg
      · rw [hclose] at hauth
        exact hauth.elim
  · intro t ha
    exact heff.spent (hl.acknowledged_spent t ((hacked t).mp ha))
  intro t hc
  apply heff.spent
  rcases closed_append.mp hc with hc | ⟨h, hi, -, rfl⟩
  · exact hl.closed_spent t hc
  · exact hl.consistent.token_spent h hi

lemma Ledger.step (hl : Ledger tr e.before running) (hf : broker.Fires e) :
    ∃ running', Ledger (tr ++ [e]) e.after running' := by
  obtain ⟨running', heff⟩ := step_effect hl.consistent hf.1
  have hstep : e.before.step e.input = (e.output, e.after) := hf.2
  rw [hstep] at heff
  by_cases hack : ∃ token, Acknowledges e token
  · obtain ⟨token, hack⟩ := hack
    exact ⟨running', hl.step_acknowledged heff hack⟩
  · exact ⟨running', hl.step_other hf heff (not_exists.mp hack)⟩

lemma ledger_of_run (h0 : broker.init w0) (hr : broker.Run w0 tr w) :
    ∃ running, Ledger tr w running := by
  refine hr.history (P := fun tr w => ∃ running, Ledger tr w running) ?_ ?_
  · have hc := consistent_init h0
    refine ⟨none, hc, ?_, by simp, by simp, ?_, ?_⟩
    · intro h hi
      rw [h0.1] at hi
      cases hi
    · rintro _ ⟨_, he, _⟩
      cases he
    · rintro _ ⟨_, he, _⟩
      cases he
  · rintro tr e - hf ⟨running, hl⟩
    exact hl.step hf

lemma ledger_at {tr1 tr2 : List Event} (h0 : broker.init w0)
    (hr : broker.Run w0 (tr1 ++ e :: tr2) w) :
    broker.Fires e ∧ ∃ running running', Ledger tr1 e.before running ∧
      Effect e.before e.input running e.output e.after running' := by
  obtain ⟨hr1, hf, -⟩ := hr.split
  obtain ⟨running, hl⟩ := ledger_of_run h0 hr1
  obtain ⟨running', heff⟩ := step_effect hl.consistent hf.1
  have hstep : e.before.step e.input = (e.output, e.after) := hf.2
  rw [hstep] at heff
  exact ⟨hf, running, running', hl, heff⟩

lemma State.Known.issued (hk : w.Known h) (hh : w.service.HoldsScheduled r h) : h ∈ w.issued := by
  rcases hk with hi | ⟨hid, -⟩
  · exact hi
  · exact absurd hh.2.2.symm hid

/-! ### Acknowledged cancellations win -/

/-- Answers that tell a client its operation went through: everything a finishing call
can say except a failure, an error or a cancellation. -/
def Answer.IsSuccess : Answer → Prop
  | response r => r ≠ .failure
  | feedback r _ => r ≠ .failure
  | message m => m ≠ .terminal .cancelled ∧ m ≠ .terminal .error
  | _ => False

/-- Answers that carry the broker's OKAY for a finished operation. -/
def Answer.IsOkay : Answer → Prop
  | response r => r = .okay
  | feedback r _ => r = .okay
  | _ => False

lemma Answer.not_isSuccess_of_isRefusal (h : answer.isRefusal = true) : ¬ answer.IsSuccess := by
  unfold Answer.isRefusal at h
  unfold Answer.IsSuccess
  split <;> simp_all

lemma Effect.finished_of_isSuccess {w' : State} (he : Effect w c running answer w' running')
    (hs : answer.IsSuccess) :
    ∃ r h, running = some r ∧ c.handle = some h ∧ w.service.HoldsScheduled r h ∧
      c.Finishes r answer := by
  cases he with
  | refused _ _ ha | exhausted _ ha => exact absurd hs (Answer.not_isSuccess_of_isRefusal ha)
  | started _ _ _ _ _ ha =>
    unfold Answer.IsSuccess at hs
    split at hs <;> simp_all [Answer.started]
  | acknowledged _ _ _ _ ha =>
    unfold Answer.IsSuccess at hs
    split at hs <;> simp_all [Answer.positive]
  | closed | lost | expired => exact hs.elim
  | finished r h _ _ hc hh hf => exact ⟨r, h, rfl, hc, hh, hf⟩

lemma Call.Finishes.not_cancelled (hf : c.Finishes r answer) (hs : answer.IsSuccess) :
    r.session.cancelled = false := by
  by_contra hc
  cases c <;> simp only [Call.Finishes] at hf
  case finish h completion now => simp [hf.2, Answer.IsSuccess, Session.response, hc] at hs
  case finishWithFeedback h completion now =>
    simp [hf.2, Answer.IsSuccess, Session.response, hc] at hs
  case finishStandard h completion now =>
    simp [hf.2, Answer.IsSuccess, Session.standardResponse, hc] at hs
  case abandon h now => simp [hf, Answer.IsSuccess] at hs
  case abandonStandard h now => simp [hf, Answer.IsSuccess, Session.standardResponse] at hs

lemma Session.matched_of_okay {session : Session} {result : AuthenticationResult}
    (h : session.response (operationResult result) = .okay) : result = .ok .matched := by
  unfold Session.response at h
  split_ifs at h with hm
  unfold operationResult at hm
  split at hm <;> simp_all

/-- OKAY comes from finishing with an exact matched completion. -/
lemma Call.Finishes.of_isOkay (hf : c.Finishes r answer) (hok : answer.IsOkay)
    (hh : c.handle = some h) : ∃ scheduled completion now, h = .authentication scheduled ∧
      (c = .finish scheduled completion now ∨ c = .finishWithFeedback scheduled completion now) ∧
      completion = new scheduled.authentication (.ok .matched) := by
  have exact_matched {scheduled : ScheduledAuthentication} {completion : AuthenticationCompletion}
      (hb : completion.belongsTo scheduled.authentication = true)
      (hm : r.session.response (operationResult completion.result) = .okay) :
      completion = new scheduled.authentication (.ok .matched) := by
    have heq := belongsTo_iff.mp hb
    rw [Session.matched_of_okay hm] at heq
    exact heq
  cases c <;> simp only [Call.Finishes] at hf
  case finish scheduled completion now =>
    rw [hf.2] at hok
    exact ⟨scheduled, completion, now, (Option.some.inj hh).symm, .inl rfl, exact_matched hf.1 hok⟩
  case finishWithFeedback scheduled completion now =>
    rw [hf.2] at hok
    exact ⟨scheduled, completion, now, (Option.some.inj hh).symm, .inr rfl, exact_matched hf.1 hok⟩
  case finishStandard scheduled completion now =>
    rw [hf.2] at hok
    exact hok.elim
  case abandon scheduled now =>
    rw [hf] at hok
    cases hok
  case abandonStandard scheduled now =>
    rw [hf] at hok
    exact hok.elim

/-- **An acknowledged cancellation wins.**  In every run, once a cancellation, a
disconnect or a deadline expiry was acknowledged for a token, no later call with a handle
of that token is answered with a success, whatever the completion says.  An OKAY is only
ever given to an exact, matched completion of the uncancelled active operation, whose
handle was started for a peer with the right to it. -/
theorem acknowledged_cancellation_wins {w0 w : State} {tr : List Event}
    (h0 : broker.init w0) (hr : broker.Run w0 tr w) :
    (∀ tr1 a tr2 f tr3 h, tr = tr1 ++ a :: tr2 ++ f :: tr3 →
      f.input.handle = some h → Acknowledges a h.token → ¬ f.output.IsSuccess) ∧
    (∀ tr1 f tr2, tr = tr1 ++ f :: tr2 → f.output.IsOkay → ∃ h completion now,
        (f.input = .finish h completion now ∨ f.input = .finishWithFeedback h completion now) ∧
        completion = new h.authentication (.ok .matched) ∧
        f.before.service.coordinator.state.active = some ⟨h.authentication.operation.token, false⟩ ∧
        ¬ Acknowledged tr1 h.authentication.operation.token ∧
        ∃ e ∈ tr1, Starts e (.authentication h)) := by
  constructor
  · rintro tr1 a tr2 f tr3 h rfl hh ha hs
    obtain ⟨hf, running, running', hl, heff⟩ := ledger_at h0 hr
    obtain ⟨r, h', rfl, hh', hholds, hfin⟩ := heff.finished_of_isSuccess hs
    obtain rfl : h = h' := Option.some.inj (hh.symm.trans hh')
    have hacked : Acknowledged (tr1 ++ a :: tr2) r.session.token := by
      have ht : r.session.token = h.token := hholds.1.1
      exact ⟨a, by simp, ht ▸ ha⟩
    have hcancelled := (hl.acknowledged r rfl).mpr hacked
    rw [hfin.not_cancelled hs] at hcancelled
    cases hcancelled
  · rintro tr1 f tr2 rfl hok
    obtain ⟨hf, running, running', hl, heff⟩ := ledger_at h0 hr
    have hs : f.output.IsSuccess := by
      unfold Answer.IsOkay at hok
      split at hok <;> simp_all [Answer.IsSuccess]
    obtain ⟨r, h, rfl, hh, hholds, hfin⟩ := heff.finished_of_isSuccess hs
    have hcancelled := hfin.not_cancelled hs
    have hi := (hf.1 h hh).issued hholds
    have hnot : ¬ Acknowledged tr1 r.session.token := by
      rw [← hl.acknowledged r rfl, hcancelled]
      simp
    have hactive := hl.consistent.represents.session.active_eq
    rw [hcancelled] at hactive
    have ht : r.session.token = h.token := hholds.1.1
    rw [ht] at hnot hactive
    obtain ⟨e, he, hstarts⟩ := hl.started h hi
    obtain ⟨scheduled, completion, now, rfl, hcall, hcomp⟩ := hfin.of_isOkay hok hh
    exact ⟨scheduled, completion, now, hcall, hcomp, hactive, hnot, e, he, hstarts⟩

end

/-- The handle that `rootAuthenticates` is given by the idle service. -/
def rootScheduled : ScheduledAuthentication :=
  ⟨⟨⟨⟨1⟩, biometricUserId, .authenticate, none⟩, 0, 0⟩, ⟨1⟩, .ofSecs 65, 1⟩

/-- Root's cancellation request at time one. -/
def rootCancels : Call := .dispatch rootPeer ownerPolicy Request.cancel.encode (.ofSecs 1)

/-- The worker reports a match at time two. -/
def rootMatches : Call :=
  .finish rootScheduled (.new rootScheduled.authentication (.ok .matched)) (.ofSecs 2)

lemma cancelledRun_allowed :
    broker.Allowed idleState [rootAuthenticates, rootCancels, rootMatches] := by
  refine ⟨by rintro _ ⟨⟩, by rintro _ ⟨⟩, ?_, trivial⟩
  rintro _ ⟨⟩
  exact .inl (by decide)

theorem acknowledged_cancellation_wins_root :
    ((broker.final idleState [rootAuthenticates]).step rootCancels).1.positive = true ∧
      ¬ ((broker.final idleState [rootAuthenticates, rootCancels]).step rootMatches).1.IsSuccess := by
  refine ⟨by decide, ?_⟩
  exact (acknowledged_cancellation_wins idleState_init cancelledRun_allowed.run).1
    [broker.eventOf idleState rootAuthenticates]
    (broker.eventOf (broker.final idleState [rootAuthenticates]) rootCancels) []
    (broker.eventOf (broker.final idleState [rootAuthenticates, rootCancels]) rootMatches) []
    (.authentication rootScheduled) rfl rfl ⟨by decide, by decide⟩

/-! ### The close as linearisation point -/

section Close

variable {w0 w : State} {tr1 tr2 : List Event}

/-- The worker's close of its installed registration: it reports whether a cancellation
was acknowledged before. -/
lemma close_output (h0 : broker.init w0) (hr : broker.Run w0 (tr1 ++ e :: tr2) w)
    (hc : e.input = .closeCancellation h) (hi : h ∈ e.before.issued)
    (hreg : e.before.service.coordinator.cancellation.registration = some ⟨h.token, h.event⟩) :
    ∃ uncancelled, e.output = .flag uncancelled ∧
      (uncancelled = true ↔ ¬ Acknowledged tr1 h.token) := by
  obtain ⟨hf, running, running', hl, -⟩ := ledger_at h0 hr
  have hrep := hl.consistent.represents
  obtain ⟨session, hsession, heq⟩ := hrep.1.registered hreg
  obtain ⟨r, rfl, rfl⟩ := Option.map_eq_some_iff.mp hsession
  have ht : r.session.token = h.token := congrArg CancellationRegistration.token heq
  have hholds := hl.consistent.holds_of_token hi ht
  have haccepting : r.session.accepting = true := by
    have hregistered := hrep.session.2.2.1
    rw [hreg] at hregistered
    by_contra hna
    simp [Session.registration, hna] at hregistered
  have hclose := BrokerServiceScheduler.closeCancellation_held hrep hholds.1
  have hstep : e.output = (e.before.step e.input).1 := hf.output_eq
  rw [hc, State.step_of_call (by simp only [State.call, hclose]; rfl)] at hstep
  refine ⟨_, hstep, ?_⟩
  have hack := hl.acknowledged r rfl
  rw [ht] at hack
  rw [← hack]
  simp [haccepting]

/-- After an operation's own close no delivery to it is acknowledged. -/
lemma not_acknowledges_after_close (h0 : broker.init w0)
    (hr : broker.Run w0 (tr1 ++ e :: tr2) w) (hc : e.input = .closeCancellation h)
    (hi : h ∈ e.before.issued) : ∀ a ∈ tr2, ¬ Acknowledges a h.token := by
  intro a ha hack
  obtain ⟨u, v, rfl⟩ := List.append_of_mem ha
  rw [show tr1 ++ e :: (u ++ a :: v) = (tr1 ++ e :: u) ++ a :: v by simp] at hr
  obtain ⟨-, running, running', hl, heff⟩ := ledger_at h0 hr
  obtain ⟨r, rfl, ht, haccepting, -⟩ := heff.of_acknowledges hack.1 hack.2
  have hclosed : Closed (tr1 ++ e :: u) r.session.token :=
    ⟨e, by simp, h, hi, hc, ht.symm⟩
  rw [hl.closed r rfl hclosed] at haccepting
  cases haccepting

lemma closeCancellation_true {s s' : BrokerServiceScheduler}
    {event slot : Ref} (hc : s.closeCancellation token event slot = (true, s')) :
    slot = s.coordinator.cancellation.identity ∧
      s.coordinator.cancellation.registration = some ⟨token, event⟩ := by
  unfold BrokerServiceScheduler.closeCancellation closeCancellation at hc
  split_ifs at hc with hslot
  · simp at hc
  refine ⟨not_not.mp hslot, ?_⟩
  by_contra hreg
  simp [CancellationSlot.close_of_ne hreg] at hc

/-- A close that reported no cancellation: none was or will be acknowledged. -/
lemma not_acknowledged_of_close (h0 : broker.init w0)
    (hr : broker.Run w0 (tr1 ++ e :: tr2) w) (hc : e.input = .closeCancellation h)
    (ho : e.output = .flag true) : ¬ Acknowledged (tr1 ++ e :: tr2) h.token := by
  have hf := (Machine.Run.split hr).2.1
  have hclose : (e.before.service.closeCancellation h.token h.event h.slot).1 = true := by
    have hstep : e.output = (e.before.step e.input).1 := hf.output_eq
    rw [ho, hc] at hstep
    exact (Answer.flag.inj hstep).symm
  have hpair : e.before.service.closeCancellation h.token h.event h.slot =
      (true, (e.before.service.closeCancellation h.token h.event h.slot).2) := by rw [← hclose]
  obtain ⟨hslot, hreg⟩ := closeCancellation_true hpair
  have hi : h ∈ e.before.issued := by
    have hk := hf.1
    rw [hc] at hk
    rcases hk h rfl with hi | ⟨-, hne⟩
    · exact hi
    · exact absurd hslot hne
  obtain ⟨uncancelled, hout, hiff⟩ := close_output h0 hr hc hi hreg
  rw [ho] at hout
  obtain rfl := Answer.flag.inj hout
  rintro ⟨a, ha, hack⟩
  rcases List.mem_append.mp ha with ha | ha
  · exact hiff.mp rfl ⟨a, ha, hack⟩
  rcases List.mem_cons.mp ha with rfl | ha
  · simp [Acknowledges, hc, Call.delivery] at hack
  · exact not_acknowledges_after_close h0 hr hc hi a ha hack

end Close

/-- **The close is the linearisation point of cancellation.**  In every run, an
operation's close of its installed registration reports "not cancelled" exactly when no
delivery for its token was acknowledged before, and every later delivery for the token is
refused.  At every slot, deliveries, closes and clears that name another registration are
refused and change nothing.  The final reply of a standard operation is Cancelled if a
delivery was acknowledged, and the worker's own compatible result if its close reported no
cancellation. -/
theorem close_is_linearisation_point {w0 w : State} {tr : List Event}
    (h0 : broker.init w0) (hr : broker.Run w0 tr w) :
    (∀ tr1 e tr2 h, tr = tr1 ++ e :: tr2 → e.input = .closeCancellation h → h ∈ e.before.issued →
      e.before.service.coordinator.cancellation.registration = some ⟨h.token, h.event⟩ →
      (∃ uncancelled, e.output = .flag uncancelled ∧
        (uncancelled = true ↔ ¬ Acknowledged tr1 h.token)) ∧
      ∀ a ∈ tr2, a.input.delivery a.before = some h.token → a.output.positive = false) ∧
    (∀ (slot : CancellationSlot) (token : OperationToken) (event : Ref),
      (slot.registration ≠ some ⟨token, event⟩ →
        slot.close token event = (false, slot) ∧ slot.clear token event = slot) ∧
      ((∀ registration ∈ slot.registration, registration.token ≠ token) →
        CancellationSlot.deliver token slot = (false, slot))) ∧
    (∀ tr1 f tr2 h completion now, tr = tr1 ++ f :: tr2 →
      f.input = .finishStandard h completion now →
      f.before.service.workers.poisoned = false → f.before.service.ownsStandard h = true →
      completion.belongsTo h.operation = true → (Acknowledged tr1 h.operation.operation.token →
        f.output = .message (.terminal .cancelled)) ∧
      (∀ e ∈ tr1, e.input = .closeCancellation (.standard h) → e.output = .flag true →
        resultIsCompatible h.operation.operation completion.result = true →
        f.output = .message completion.result)) := by
  refine ⟨?_, ?_, ?_⟩
  · rintro tr1 e tr2 h rfl hc hi hreg
    refine ⟨close_output h0 hr hc hi hreg, ?_⟩
    intro a ha hd
    have hna := not_acknowledges_after_close h0 hr hc hi a ha
    rw [← Bool.not_eq_true]
    exact fun hp => hna ⟨hd, hp⟩
  · intro slot token event
    exact ⟨fun hne => ⟨CancellationSlot.close_of_ne hne, CancellationSlot.clear_of_ne hne⟩,
      CancellationSlot.deliver_of_ne⟩
  rintro tr1 f tr2 h completion now rfl hc hp howns hb
  obtain ⟨hf, running, running', hl, -⟩ := ledger_at h0 hr
  have hrep := hl.consistent.represents
  obtain ⟨hid, r, rfl, hlease⟩ := hrep.ownsLease_iff.mp howns
  have hk := hf.1
  rw [hc] at hk
  have hi : Scheduled.standard h ∈ f.before.issued := by
    rcases hk _ rfl with hi | ⟨hne, -⟩
    · exact hi
    · exact absurd hid.symm hne
  have hholds := hl.consistent.holds_of_lease hi hlease
  have hfinish := BrokerServiceScheduler.finishStandard_held hrep hholds hp hb now
  have hout : f.output = .message (r.session.standardResponse h.operation.operation
      completion.result) := by
    have hstep : f.output = (f.before.step f.input).1 := hf.output_eq
    rw [hc, State.step_of_call (by simp only [State.call, hfinish]; rfl)] at hstep
    exact hstep
  have ht : r.session.token = h.operation.operation.token := hholds.1.1
  have hack := hl.acknowledged r rfl
  rw [ht] at hack
  constructor
  · intro ha
    rw [hout, Session.standardResponse, if_pos (hack.mpr ha)]
  intro e he hclose ho hcompatible
  obtain ⟨u, v, rfl⟩ := List.append_of_mem he
  have hna := not_acknowledged_of_close h0 (Machine.Run.split hr).1 hclose ho
  have hcancelled : ¬ r.session.cancelled = true := fun hcan => hna (hack.mp hcan)
  rw [hout, Session.standardResponse, if_neg hcancelled, if_pos hcompatible]

/-- Root lists identities at time zero, with nobody recorded as owner. -/
def rootLists : Call := .dispatchStandard rootPeer none .listIdentities (.ofSecs 0)

/-- The handle that `rootLists` is given by the idle service. -/
def rootListing : ScheduledStandardOperation :=
  ⟨⟨⟨⟨1⟩, biometricUserId, none, .root, false, .listIdentities⟩, 0, 0⟩, ⟨1⟩, .ofSecs 65, 1⟩

/-- The worker closes its slot before it reports an empty list. -/
def rootCloses : Call := .closeCancellation (.standard rootListing)

def rootListed : Call :=
  .finishStandard rootListing (.new rootListing.operation (.identityList none [])) (.ofSecs 1)

lemma closedRun_allowed : broker.Allowed idleState [rootLists, rootCloses, rootListed] := by
  refine ⟨by rintro _ ⟨⟩, ?_, ?_, trivial⟩
  · rintro _ ⟨⟩
    exact .inl (by decide)
  · rintro _ ⟨⟩
    exact .inl (by decide)

theorem close_is_linearisation_point_root :
    ((broker.final idleState [rootLists]).step rootCloses).1 = .flag true ∧
    ((broker.final idleState [rootLists, rootCloses]).step rootListed).1 =
      .message (.identityList none []) :=
  ⟨rfl, ((close_is_linearisation_point idleState_init closedRun_allowed.run).2.2
    (broker.trace idleState [rootLists, rootCloses])
    (broker.eventOf (broker.final idleState [rootLists, rootCloses]) rootListed) [] rootListing
    (.new rootListing.operation (.identityList none [])) (.ofSecs 1) rfl rfl (by decide)
    (by decide) (by decide)).2
    (broker.eventOf (broker.final idleState [rootLists]) rootCloses)
    (by simp [Machine.trace, Machine.final]) rfl rfl (by decide)⟩

end Service

end T1Bridge
