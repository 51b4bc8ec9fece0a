import T1Bridge.Sep.SessionRun

/-! # Sequences of calls on a session

`Run` is any sequence of finished calls on one session; the context that a call works on is the
caller's, so it may be another one at every call.  What holds between calls is `Sound`: the tokens
grow.  A call that ends is `Settled`. -/

namespace T1Bridge.Sep.Session

open Prog (Proc free)
open Prog.Proc (post_of_wp safe_of_wp wp wp_bind wp_get wp_mono wp_pure wp_throw wp_weaken wp_zoom)

/-- The calls of the interface with their arguments. -/
inductive Call where
  | setOperationDeadline (deadlineMs : ℕ)
  | releaseOperationDeadline
  | negotiate (timeoutMs : ℕ)
  | keystoreExchange (sha : Keystore.Sha256) (operation : Keystore.Operation) (bytes : Packet)
      (timeoutMs : ℕ)
  | drainNotification (timeoutMs : ℕ)
  | acmExchange (command : Acm.Command) (timeoutMs : ℕ)
  | destroy

/-- What a call returns where it does not fail; a refusal of the remote side is no failure. -/
inductive Report where
  | done
  | parsed (reply : Keystore.Parsed)
  | drained (notified : Bool)
  | commanded (accepted : Bool) (outcome : Acm.Outcome)
deriving DecidableEq

def Call.run : Call → LinkProc Report
  | setOperationDeadline deadlineMs => do
    onSession (Session.setOperationDeadline deadlineMs)
    pure .done
  | releaseOperationDeadline => do
    onSession Session.releaseOperationDeadline
    pure .done
  | negotiate timeoutMs => do
    onSession (Session.negotiate timeoutMs)
    pure .done
  | keystoreExchange sha operation bytes timeoutMs => do
    let reply ← onSession (Session.keystoreExchange sha operation bytes timeoutMs)
    pure (.parsed reply)
  | drainNotification timeoutMs => do
    let notified ← onSession (Session.drainNotification timeoutMs)
    pure (.drained notified)
  | acmExchange command timeoutMs => do
    let (accepted, outcome) ← Session.acmExchange command timeoutMs
    pure (.commanded accepted outcome)
  | destroy => do
    onSession Session.destroy
    pure .done

/-- Calls one after another, each from where the one before it ended. -/
inductive Run (link0 : Link) (log0 : SepLog) : Link → SepLog → Prop
  | refl : Run link0 log0 link0 log0
  | call {link link' : Link} {log log' : SepLog} {r : Except Failure Report} (call : Call) :
      Run link0 log0 link log →
      Prog.Steps (free SepOp SepOp.Answer) (call.run.start link) log (.ret (r, link')) log' →
      Run link0 log0 link' log'
  | switch {link : Link} {log : SepLog} (acm : Acm.State) :
      Run link0 log0 link log → Run link0 log0 { link with acm := acm } log

/-- The session can still exchange transfers. -/
def Alive (s : State) : Prop := s.phase = .new ∨ s.phase = .ready

def Dead (s : State) : Prop := s.phase = .poisoned ∨ s.phase = .closed

/-- No token was used twice, and a living session has only new ones. -/
structure Sound (s : State) (log : SepLog) : Prop where
  sorted : Growing log
  below : Alive s → ∀ n ∈ tokens log, n < s.relay.bound

/-! ### Ends of calls -/

/-- The call sent `output`, then `more`, and the message `m` came in for it after at most three
that did not match. -/
structure Matched (log : SepLog) (output : Packet) (more : List Packet) (m : Relay.Message)
    (log' : SepLog) : Prop where
  outputs_eq : outputs log' = outputs log ++ output :: more
  inputs_eq : ∃ skipped input, skipped.length ≤ 3 ∧
    inputs log' = inputs log ++ (skipped ++ [input]) ∧
    (∀ packet ∈ skipped, ¬ Relay.Answers output packet) ∧
    Relay.parse input Relay.bufferSize = .ok m

variable (call : Call) (link : Link)

/-- The replies that an exchange may report: for the keystore one with the endpoint, the selector
and the transaction of the request, for the context one with its endpoint and selector. -/
def Replied (log : SepLog) (report : Report) (link' : Link) (log' : SepLog) : Prop :=
  match call, report with
  | .keystoreExchange sha operation bytes _, .parsed reply => ∃ output m,
      (∃ relay relay', Keystore.wrapRequest sha relay operation bytes =
        .ok (output, Relay.identityOf output, relay')) ∧
      Matched log output [] m log' ∧ m.endpoint = Relay.keystoreEndpoint ∧
      byteAt 9 m.message = operation.selector ||| 0x80 ∧
      byteAt 10 m.message = operation.transaction ∧
      Keystore.parseReply m (Relay.identityOf output) operation = .ok reply
  | .acmExchange command _, .commanded accepted outcome => ∃ output acknowledgement m,
      (∃ built relay, Acm.build link.acm link.session.relay command = .ok (output, built, relay) ∧
        Acm.acceptReply built m =
          (if accepted then .ok else .remoteError, outcome, link'.acm)) ∧
      Matched log output [acknowledgement] m log' ∧ m.endpoint = Relay.acmEndpoint ∧
      byteAt 9 m.message = Acm.relayRequest
  | .keystoreExchange _ _ _ _, _ | .acmExchange _ _, _ => False
  | _, _ => True

/-- The only failure of a transfer that leaves a session ready: nothing came for a notification. -/
def Idle (trace : SepLog) : Prop :=
  ∃ timeoutMs, call = .drainNotification timeoutMs ∧ Silent timeoutMs trace

/-- The calls whose failures are those of the session alone. -/
def Call.Plain : Call → Prop
  | drainNotification _ | acmExchange _ _ | destroy => False
  | _ => True

/-- Where a command failed: its request was not sent, or the context was given up and erased, or
the reply was taken before the call failed. -/
def GivenUp (command : Acm.Command) (log : SepLog) (link' : Link) (log' : SepLog) : Prop :=
  link'.acm = link.acm ∧ transfers log' = transfers log ∨
    link'.acm.phase = .failed ∧ link'.acm.context = Acm.erased ∨
    ∃ accepted outcome output input,
      AcmReplied link command log accepted outcome link'.acm log' output input

/-- What holds where a call has ended: a reply it reports is the one to its request, and a failed
transfer has poisoned the session unless it was an idle drain or a teardown. -/
structure Settled (log : SepLog) (r : Except Failure Report)
    (link' : Link) (log' : SepLog) : Prop where
  replied : ∀ report, r = .ok report → Replied call link log report link' log'
  fails : ∀ trace, log' = log ++ trace → (∃ e ∈ trace, Fails e) →
    (Idle call trace → r = .ok (.drained false) ∧ link' = link) ∧
    (call = .destroy → r = .error .teardown ∧ link'.session.phase = .closed) ∧
    (¬ Idle call trace → call ≠ .destroy → link'.session.phase = .poisoned)
  grave : ∀ e, r = .error e → e.Grave → link'.session.phase = .poisoned
  context : ∀ command timeoutMs e, call = .acmExchange command timeoutMs → r = .error e →
    GivenUp link command log link' log'

section

variable {s s' : State} {link} {link' : Link} {log log' : SepLog} {call}

lemma Sound.fresh (h : Sound s log) (halive : Alive s) : Fresh s log :=
  ⟨h.sorted, h.below halive⟩

lemma sound_of_fresh (h : Fresh s log) : Sound s log := ⟨h.sorted, fun _ => h.below⟩

lemma sound_of_dead (h : Growing log) (hdead : Dead s) : Sound s log := by
  have hnot : ¬ Alive s := by
    rintro (halive | halive) <;> rcases hdead with hdead | hdead <;>
      exact nomatch halive.symm.trans hdead
  exact ⟨h, fun halive => (hnot halive).elim⟩

variable {e : Failure} {command : Acm.Command}
  {p : Prog SepOp SepOp.Answer (Except Failure Report × Link)} {timeoutMs : ℕ}

lemma Spoiled.sound (h : Spoiled e s' log') : Sound s' log' :=
  sound_of_dead h.fresh.sorted (.inl h.poisoned)

lemma Lost.sound (h : Lost s log e s' log') : Sound s' log' := by
  rcases h with hspoiled | hrefused
  · exact hspoiled.sound
  · exact sound_of_fresh hrefused.fresh

lemma Clean.not_fails {trace : SepLog} (h : Clean log log') (hlog : log' = log ++ trace) :
    ¬ ∃ e ∈ trace, Fails e := by
  rintro ⟨e, he, hfails⟩
  obtain ⟨trace', hlog', hclean⟩ := h
  rw [hlog'] at hlog
  cases List.append_cancel_left hlog
  exact hclean e he hfails

lemma Clean.settled {report : Report} (h : Clean log log')
    (hreplied : Replied call link log report link' log') :
    Settled call link log (.ok report) link' log' where
  replied := by
    rintro report' heq
    cases heq
    exact hreplied
  fails := fun _ hlog hfails => (h.not_fails hlog hfails).elim
  grave := nofun
  context := nofun

lemma Call.Plain.not_idle {trace : SepLog} (h : call.Plain) : ¬ Idle call trace := by
  rintro ⟨_, rfl, _⟩
  exact h

lemma Lost.settled (h : Lost link.session log e link'.session log') (hdestroy : call ≠ .destroy)
    (hidle : ∀ trace, log' = log ++ trace → ¬ Idle call trace)
    (hcontext : ∀ command timeoutMs, call = .acmExchange command timeoutMs →
      GivenUp link command log link' log') : Settled call link log (.error e) link' log' where
  replied := nofun
  fails := by
    intro trace hlog hfails
    rcases h with hspoiled | hrefused
    · exact ⟨fun h => (hidle trace hlog h).elim, fun h => (hdestroy h).elim,
        fun _ _ => hspoiled.poisoned⟩
    · exact (hrefused.clean.not_fails hlog hfails).elim
  grave := by
    intro e' heq hgrave
    cases heq
    rcases h with hspoiled | hrefused
    · exact hspoiled.poisoned
    · exact (hrefused.light hgrave).elim
  context := fun command timeoutMs _ hcall _ => hcontext command timeoutMs hcall

lemma AcmLost.lost (h : AcmLost link command log e link' log') :
    Lost link.session log e link'.session log' := by
  rcases h with ⟨hrefused, -⟩ | ⟨hspoiled, -⟩
  · exact .inr hrefused
  · exact .inl hspoiled

lemma AcmLost.givenUp
    (h : AcmLost link command log e link' log') : GivenUp link command log link' log' := by
  rcases h with ⟨hrefused, hacm⟩ | ⟨-, ⟨hacm, htransfers⟩ | hacm | hreplied⟩
  · exact .inl ⟨hacm, hrefused.transfers_eq⟩
  · exact .inl ⟨hacm, htransfers⟩
  · refine Or.inr (.inl ?_)
    rw [hacm]
    exact ⟨rfl, rfl⟩
  · exact .inr (.inr hreplied)

lemma KeystoreAnswered.replied {sha : Keystore.Sha256} {operation : Keystore.Operation}
    {bytes : Packet} {reply : Keystore.Parsed} {output input : Packet}
    (h : KeystoreAnswered sha operation bytes log reply log' output input) :
    Replied (.keystoreExchange sha operation bytes timeoutMs) link log (.parsed reply) link' log' := by
  obtain ⟨⟨relay, relay', hwrap⟩, m, hanswered, hparsed⟩ := h
  obtain ⟨-, hidentity⟩ := wrapRequest_spends hwrap
  obtain ⟨hendpoint, hkeystore, -⟩ := Relay.matchesPending_ok hanswered.match_eq
  rw [hidentity] at hendpoint hkeystore
  obtain ⟨hselector, htransaction⟩ := hkeystore rfl
  obtain ⟨skipped, hskipped, hinputs, hunrelated⟩ := hanswered.inputs_eq
  exact ⟨output, m, ⟨relay, relay', hwrap⟩, ⟨hanswered.outputs_eq, skipped, input, hskipped, hinputs,
    hunrelated, hanswered.parse_eq⟩, hendpoint, hselector, htransaction, hparsed⟩

lemma AcmDone.replied_report {accepted : Bool}
    {outcome : Acm.Outcome} (h : AcmDone link command log (accepted, outcome) link' log') :
    Replied (.acmExchange command timeoutMs) link log (.commanded accepted outcome) link' log' := by
  obtain ⟨output, input, acknowledgement, hreplied, houtputs⟩ := h.replied
  obtain ⟨built, relay, m, hbuild, hparse, hmatch, haccept⟩ := hreplied.reply
  obtain ⟨pending, hspends, -, hpending⟩ := Acm.build_spends hbuild
  obtain ⟨hendpoint, -, hacm⟩ := Relay.matchesPending_ok hmatch
  rw [hspends.identity, hpending] at hendpoint hacm
  obtain ⟨skipped, hskipped, hinputs, hunrelated⟩ := hreplied.inputs_eq
  exact ⟨output, acknowledgement, m, ⟨built, relay, hbuild, haccept⟩, ⟨houtputs, skipped, input,
    hskipped, hinputs, hunrelated, hparse⟩, hendpoint, hacm rfl⟩

lemma wp_onSession {α : Type} {p : SessionProc α} {report : α → Report}
    {Q : α → State → SepLog → Prop} (hrun : call.run = do
      let a ← onSession p
      pure (report a))
    (hcall : call.Plain)
    (hp : wp transport Guard p Q (Lost link.session log) link.session log)
    (hQ : ∀ a s' log', Q a s' log' → Sound s' log' ∧
      Settled call link log (.ok (report a)) ⟨s', link.acm⟩ log') :
    wp transport Guard call.run (fun report link' log' => Sound link'.session log' ∧
        Settled call link log (.ok report) link' log')
      (fun e link' log' => Sound link'.session log' ∧
        Settled call link log (.error e) link' log') link log := by
  rw [hrun]
  refine wp_bind (wp_zoom (wp_mono ?_ ?_ hp))
  · intro a s' log' ha
    exact wp_pure (hQ a s' log' ha)
  · intro e s' log' hlost
    refine ⟨hlost.sound, Lost.settled hlost ?_ (fun _ _ => hcall.not_idle) ?_⟩
    · rintro rfl
      exact hcall
    · rintro command timeoutMs rfl
      exact hcall.elim

/-- The clock was read, and only the deadline changed. -/
lemma timed_settled {now : ℕ} (h : Sound s log) (halive : Alive s)
    (hrelay : s'.relay = s.relay) (hreplied : Replied call link log .done link'
      (log ++ [⟨.monotonicMs, some now⟩])) : Sound s' (log ++ [⟨.monotonicMs, some now⟩]) ∧
      Settled call link log (.ok .done) link' (log ++ [⟨.monotonicMs, some now⟩]) := by
  have hfresh := @Fresh.quiet s log .monotonicMs (some now) (h.fresh halive) rfl
  have hclean : Clean log (log ++ [⟨.monotonicMs, some now⟩]) := (Clean.refl log).snoc nofun
  exact ⟨sound_of_fresh (hfresh.congr hrelay), hclean.settled hreplied⟩

/-- What the calls on a session that is no longer alive may ask for. -/
def Muted (log0 log : SepLog) (op : SepOp) : Prop :=
  Growing log ∧ transfers log = transfers log0 ∧ ¬ op.IsTransfer

/-- The end of a call after which the session is not alive. -/
structure Ended (call : Call) (link : Link) (log : SepLog) (r : Except Failure Report)
    (link' : Link) (log' : SepLog) : Prop where
  dead : Dead link'.session
  transfers_eq : transfers log' = transfers log
  sorted : Growing log'
  settled : Settled call link log r link' log'

lemma Ended.sound {r : Except Failure Report} (h : Ended call link log r link' log') :
    Sound link'.session log' := sound_of_dead h.sorted h.dead

lemma ended_refused (h : Growing log) (hdead : Dead link.session)
    (he : ¬ e.Grave) : Ended call link log (.error e) link log where
  dead := hdead
  transfers_eq := rfl
  sorted := h
  settled := {
    replied := nofun
    fails := fun _ hlog hfails => ((Clean.refl log).not_fails hlog hfails).elim
    grave := by
      intro e' heq hgrave
      cases heq
      exact (he hgrave).elim
    context := fun _ _ _ _ _ => .inl ⟨rfl, rfl⟩ }

lemma wp_call_destroy (h : Growing log) : wp transport (Muted log) Call.destroy.run
      (fun report => Ended .destroy link log (.ok report))
      (fun e => Ended .destroy link log (.error e)) link log := by
  have htransfers : ∀ status : Urb.Status,
      transfers (log ++ [⟨.destroyTransport, status⟩]) = transfers log := by
    intro status
    rw [transfers_append]
    exact List.append_nil _
  have hsorted : ∀ status : Urb.Status, Growing (log ++ [⟨.destroyTransport, status⟩]) := by
    intro status
    unfold Growing
    rw [tokens_quiet rfl]
    exact h
  refine wp_bind (wp_zoom (wp_mono ?_ ?_ (wp_destroy ⟨h, rfl, id⟩)))
  · rintro _ s' log' ⟨hclosed, ⟨rfl, -⟩ | rfl⟩
    · exact wp_pure ⟨.inr hclosed, rfl, h, (Clean.refl _).settled trivial⟩
    have hclean : Clean log (log ++ [⟨.destroyTransport, .ok⟩]) :=
      (Clean.refl log).snoc (not_not.mpr rfl)
    exact wp_pure ⟨.inr hclosed, htransfers _, hsorted _, hclean.settled trivial⟩
  · rintro e s' log' ⟨rfl, hclosed, status, rfl⟩
    refine ⟨.inr hclosed, htransfers _, hsorted _, nofun, ?_, ?_, nofun⟩
    · refine fun _ _ _ => ⟨?_, fun _ => ⟨rfl, hclosed⟩, fun _ h => (h rfl).elim⟩
      rintro ⟨_, h, _⟩
      cases h
    intro e heq hgrave
    cases heq
    exact hgrave.elim

lemma wp_call (call : Call) (h : Sound link.session log) (halive : Alive link.session) :
    wp transport Guard call.run (fun report link' log' => Sound link'.session log' ∧
        Settled call link log (.ok report) link' log')
      (fun e link' log' => Sound link'.session log' ∧
        Settled call link log (.error e) link' log') link log := by
  have hfresh := h.fresh halive
  cases call with
  | setOperationDeadline deadlineMs =>
    refine wp_onSession rfl trivial (wp_setOperationDeadline deadlineMs hfresh) ?_
    rintro _ s' log' ⟨rfl, now, rfl⟩
    exact timed_settled h halive rfl trivial
  | releaseOperationDeadline =>
    refine wp_onSession rfl trivial (wp_releaseOperationDeadline hfresh) ?_
    rintro _ s' log' ⟨rfl, now, rfl⟩
    exact timed_settled h halive rfl trivial
  | negotiate timeoutMs =>
    refine wp_onSession rfl trivial (wp_negotiate timeoutMs hfresh) ?_
    rintro _ s' log' ⟨hfresh', hclean⟩
    exact ⟨sound_of_fresh hfresh', hclean.settled trivial⟩
  | keystoreExchange sha operation bytes timeoutMs =>
    refine wp_onSession rfl trivial (wp_keystoreExchange sha operation bytes timeoutMs hfresh) ?_
    rintro reply s' log' ⟨hfresh', output, input, hanswered⟩
    obtain ⟨m, hreply, -⟩ := hanswered.reply
    exact ⟨sound_of_fresh hfresh', hreply.clean.settled hanswered.replied⟩
  | drainNotification timeoutMs =>
    refine wp_bind (wp_zoom (wp_mono ?_ ?_ (wp_drainNotification timeoutMs hfresh)))
    · rintro notified s' log' ⟨rfl, hfresh', e, rfl, hnotified, hidling⟩
      refine wp_pure ⟨sound_of_fresh hfresh', ?_⟩
      cases notified with
      | true => exact ((Clean.refl log).snoc (hnotified rfl)).settled trivial
      | false =>
        refine ⟨fun _ _ => trivial, fun trace hlog _ => ?_, nofun, nofun⟩
        cases List.append_cancel_left hlog
        have hidle : Idle (.drainNotification timeoutMs) [e] := ⟨timeoutMs, rfl, hidling rfl⟩
        exact ⟨fun _ => ⟨rfl, rfl⟩, nofun, fun h => (h hidle).elim⟩
    · rintro e s' log' ⟨hlost, trace, rfl, hspoke⟩
      refine ⟨hlost.sound, Lost.settled hlost nofun ?_ nofun⟩
      rintro trace' hlog ⟨_, hcall, hsilent⟩
      cases hcall
      cases List.append_cancel_left hlog
      exact hspoke hsilent
  | acmExchange command timeoutMs =>
    refine wp_bind (wp_mono ?_ ?_ (wp_acmExchange command timeoutMs hfresh))
    · rintro ⟨accepted, outcome⟩ link' log' hdone
      exact wp_pure ⟨sound_of_fresh hdone.fresh, hdone.clean.settled hdone.replied_report⟩
    intro e link' log' hlost
    refine ⟨hlost.lost.sound, hlost.lost.settled nofun ?_ ?_⟩
    · rintro _ _ ⟨_, hcall, _⟩
      cases hcall
    · rintro command' timeoutMs' heq
      cases heq
      exact hlost.givenUp
  | destroy =>
    refine wp_weaken (fun _ _ => And.left) (wp_mono ?_ ?_ (wp_call_destroy h.sorted))
    · exact fun _ _ _ hended => ⟨hended.sound, hended.settled⟩
    · exact fun _ _ _ hended => ⟨hended.sound, hended.settled⟩

/-- The call is refused at once. -/
def RefusedAtOnce (s : State) (log : SepLog) (e : Failure) (s' : State) (log' : SepLog) : Prop :=
  ¬ e.Grave ∧ s' = s ∧ log' = log

lemma Dead.not_new (h : Dead s) : s.phase ≠ .new := by
  rcases h with hdead | hdead <;> rw [hdead] <;> decide

lemma Dead.not_ready (h : Dead s) : s.phase ≠ .ready := by
  rcases h with hdead | hdead <;> rw [hdead] <;> decide

section Refused

variable {α : Type} {safe : SepLog → SepOp → Prop} {P : α → State → SepLog → Prop}

lemma wp_wrongPhase_dead : wp transport safe (wrongPhase s.phase : SessionProc α) P
      (RefusedAtOnce s log) s log := by
  unfold wrongPhase
  split
  · exact wp_throw ⟨id, rfl, rfl⟩
  · exact wp_throw ⟨id, rfl, rfl⟩

lemma wp_ended {p : SessionProc α} {report : α → Report} (hrun : call.run = do
      let a ← onSession p
      pure (report a))
    (h : Growing log) (hdead : Dead link.session)
    (hp : wp transport (Muted log) p (fun _ _ _ => False)
      (RefusedAtOnce link.session log) link.session log) :
    wp transport (Muted log) call.run
      (fun report => Ended call link log (.ok report)) (fun e => Ended call link log (.error e))
      link log := by
  rw [hrun]
  refine wp_bind (wp_zoom (wp_mono (fun _ _ _ => False.elim) ?_ hp))
  rintro e s' log' ⟨he, rfl, rfl⟩
  exact ended_refused h hdead he

end Refused

lemma wp_dead (call : Call) (h : Growing log) (hdead : Dead link.session) :
    wp transport (Muted log) call.run
      (fun report => Ended call link log (.ok report)) (fun e => Ended call link log (.error e))
      link log := by
  cases call with
  | setOperationDeadline deadlineMs | releaseOperationDeadline =>
    refine wp_ended rfl h hdead (wp_get ?_)
    split
    · exact wp_throw ⟨id, rfl, rfl⟩
    split
    · exact wp_throw ⟨id, rfl, rfl⟩
    next hpoisoned =>
    rw [if_pos (hdead.resolve_left hpoisoned)]
    exact wp_throw ⟨id, rfl, rfl⟩
  | negotiate timeoutMs =>
    refine wp_ended rfl h hdead (wp_get ?_)
    rw [if_pos hdead.not_new]
    exact wp_wrongPhase_dead
  | keystoreExchange sha operation bytes timeoutMs | drainNotification timeoutMs =>
    refine wp_ended rfl h hdead (wp_get ?_)
    split
    · exact wp_throw ⟨id, rfl, rfl⟩
    rw [if_pos hdead.not_ready]
    exact wp_wrongPhase_dead
  | acmExchange command timeoutMs =>
    refine wp_bind (wp_get ?_)
    rw [if_pos hdead.not_ready]
    refine wp_zoom (wp_mono (fun _ _ _ => id) ?_ wp_wrongPhase_dead)
    rintro e s' log' ⟨he, rfl, rfl⟩
    exact ended_refused h hdead he
  | destroy => exact wp_call_destroy h

/-! ### Sequences -/

lemma alive_or_dead (s : State) : Alive s ∨ Dead s := by
  unfold Alive Dead
  cases s.phase <;> decide

lemma Sound.step (h : Sound link.session log)
    (hsteps : Prog.Steps (free SepOp SepOp.Answer) (call.run.start link) log p log') :
    Growing log' ∧ ∀ r link', p = .ret (r, link') → Sound link'.session log' ∧
        Settled call link log r link' log' := by
  rcases alive_or_dead link.session with halive | hdead
  · have hcall := wp_call call h halive
    cases p with
    | ask op next =>
      have hsafe := safe_of_wp hcall hsteps
      refine ⟨hsafe, fun r link' heq => ?_⟩
      cases heq
    | ret a =>
      have hend := post_of_wp (T := fun r link' log' => Sound link'.session log' ∧
        Settled call link log r link' log') hcall hsteps
      refine ⟨hend.1.sorted, fun r link' heq => ?_⟩
      cases heq
      exact hend
  · have hcall := wp_dead call h.sorted hdead
    cases p with
    | ask op next =>
      refine ⟨(safe_of_wp hcall hsteps).1, fun r link' heq => ?_⟩
      cases heq
    | ret a =>
      have hended := post_of_wp (T := Ended call link log) hcall hsteps
      refine ⟨hended.sorted, fun r link' heq => ?_⟩
      cases heq
      exact ⟨hended.sound, hended.settled⟩

variable {link0 link1 : Link} {log0 log1 : SepLog}

lemma Run.sound (h : Run link0 log0 link log) (hsound : Sound link0.session log0) :
    Sound link.session log := by
  induction h with
  | refl => exact hsound
  | call call _ hsteps ih => exact ((ih.step hsteps).2 _ _ rfl).1
  | switch acm _ ih => exact ih

end

/-! ### A session that survives -/

end T1Bridge.Sep.Session
