import T1Bridge.Auth.Query
import T1Bridge.Store.Host

/-! # The match workflow

A match is started, waits for the sensor's result and is always cancelled.  The wait is a loop
over events that has no bound of its own; here it takes the number of events it looks at, and a
workflow that is still waiting after that many returns `none`.  A run of the source's loop that
ends is a run that returns `some`, for every large enough number. -/

namespace T1Bridge.Device

open Store

variable {identifier : Packet} {ε : Type} {identities : List Identity}

/-! ### Requests -/

def execute (packet : CommandPacket) : HostProg (Except TransportError Packet) :=
  Prog.perform (HostOp.execute packet)

def nextMatchEvent : HostProg (Except EventError MatchEvent) := Prog.perform HostOp.matchEvent

/-- How a command without output was answered. -/
def emptyAnswer {ε : Type} (onTransport : TransportError → ε) (onCommand : CommandError → ε) :
    Except TransportError Packet → Except ε Unit
  | .error error => .error (onTransport error)
  | .ok response => (validateEmptyResponse response).mapError onCommand

/-- A command that must be answered with no bytes. -/
def executeEmpty {ε : Type} (packet : CommandPacket) (onTransport : TransportError → ε)
    (onCommand : CommandError → ε) : HostProg (Except ε Unit) := do
  let reply ← execute packet
  pure (emptyAnswer onTransport onCommand reply)

/-- The commands of a log. -/
def commands (trace : List Happening) : List CommandPacket :=
  trace.filterMap fun
    | .exchanged packet _ => some packet
    | _ => none

/-- What the requests of a program add to the log. -/
abbrev Records {α : Type} (p : HostProg α) (T : α → List Happening → Prop) : Prop :=
  Prog.Traces Host World.log p T

lemma records_execute (packet : CommandPacket) :
    Records (execute packet) fun reply trace => trace = [.exchanged packet reply] :=
  Prog.traces_perform fun c _ _ => ⟨[.exchanged packet c.reply], rfl, rfl⟩

lemma emptyAnswer_ok {onTransport : TransportError → ε} {onCommand : CommandError → ε}
    {reply : Except TransportError Packet} (h : emptyAnswer onTransport onCommand reply = .ok ()) :
    reply = .ok [] := by
  cases reply with
  | error e => cases h
  | ok response =>
    cases response with
    | nil => rfl
    | cons b response => cases h

lemma records_executeEmpty (packet : CommandPacket) (onTransport : TransportError → ε)
    (onCommand : CommandError → ε) :
    Records (executeEmpty packet onTransport onCommand) fun r trace =>
      ∃ reply, r = emptyAnswer onTransport onCommand reply ∧ trace = [.exchanged packet reply] := by
  refine (records_execute packet).bind fun reply => Prog.traces_pure ?_
  intro trace htrace
  exact ⟨reply, rfl, by rw [htrace]; rfl⟩

lemma records_nextMatchEvent :
    Records nextMatchEvent fun event trace => trace = [.matchEvent event] :=
  Prog.traces_perform fun c _ _ => ⟨[.matchEvent c.matchEvent], rfl, rfl⟩

/-! ### The workflow -/

inductive MatchWorkflowError where
  | noEnrolledIdentities
  | identityForWrongUser
  | command (error : CommandError)
  | mesa (error : MesaError)
  | transport (error : TransportError)
  | event (error : EventError)
  | cleanupTransport (error : TransportError)
  | cleanupCommand (error : CommandError)
deriving DecidableEq

/-- Why a wait ended without an outcome. -/
inductive MatchWaitError where
  | event (error : EventError)
  | mesa (error : MesaError)

inductive CleanupError where
  | transport (error : TransportError)
  | command (error : CommandError)

variable (userId : BiometricUserId) (identityResponse : Packet)

/-- The identities a match may be started for. -/
def requestedIdentities : Except MatchWorkflowError (List Identity) :=
  match validateIdentityListResponse identityResponse with
  | .error error => .error (.command error)
  | .ok _ =>
    if identityResponse.isEmpty then .error .noEnrolledIdentities
    else
      match parseIdentities identityResponse with
      | .error error => .error (.mesa error)
      | .ok identities =>
        if identities.any fun identity => identity.userId ≠ userId.raw then
          .error .identityForWrongUser
        else .ok identities

/-- One event of the wait; `none` lets the loop go on. -/
def outcomeOf (requestedUserId : ℤ) (identities : List Identity) :
    Except EventError MatchEvent → Option (Except MatchWaitError IdentityMatchOutcome)
  | .error error => some (.error (.event error))
  | .ok .cancelled => some (.ok .cancelled)
  | .ok .timedOut => some (.ok .timedOut)
  | .ok (.callback event) =>
    match parseMesaMessage event with
    | .error error => some (.error (.mesa error))
    | .ok none => none
    | .ok (some message) =>
      match evaluateMatchedIdentity message requestedUserId identities with
      | .error error => some (.error (.mesa error))
      | .ok none => none
      | .ok (some (some identifier)) => some (.ok (.matched identifier))
      | .ok (some none) => some (.ok .noMatch)

def waitForOutcome (requestedUserId : ℤ) (identities : List Identity) :
    ℕ → HostProg (Option (Except MatchWaitError IdentityMatchOutcome))
  | 0 => pure none
  | n + 1 => do
    match outcomeOf requestedUserId identities (← nextMatchEvent) with
    | some outcome => pure (some outcome)
    | none => waitForOutcome requestedUserId identities n

def cancel : HostProg (Except CleanupError Unit) :=
  executeEmpty cancelOperationCommand .transport .command

def startMatch : HostProg (Except MatchWorkflowError Unit) :=
  executeEmpty (startMatchCommand userId) .transport .command

/-- What the workflow returns: a failed wait comes before a failed cleanup. -/
def matchResult (wait : Except MatchWaitError IdentityMatchOutcome)
    (cleanup : Except CleanupError Unit) : Except MatchWorkflowError IdentityMatchOutcome :=
  match wait with
  | .error (.event error) => .error (.event error)
  | .error (.mesa error) => .error (.mesa error)
  | .ok outcome =>
    match cleanup with
    | .ok _ => .ok outcome
    | .error (.transport error) => .error (.cleanupTransport error)
    | .error (.command error) => .error (.cleanupCommand error)

def matchFingerprintIdentified (n : ℕ) :
    HostProg (Option (Except MatchWorkflowError IdentityMatchOutcome)) := do
  match requestedIdentities userId identityResponse with
  | .error error => pure (some (.error error))
  | .ok identities =>
    match ← startMatch userId with
    | .error error =>
      let _ ← cancel
      pure (some (.error error))
    | .ok _ =>
      match ← waitForOutcome userId.raw identities n with
      | none => pure none
      | some wait =>
        let cleanup ← cancel
        pure (some (matchResult wait cleanup))

/-! ### What the parts of the workflow record -/

lemma requestedIdentities_ok {userId : BiometricUserId} {identityResponse : Packet}
    (h : requestedIdentities userId identityResponse = .ok identities) :
    parseIdentities identityResponse = .ok identities ∧
      ∀ identity ∈ identities, identity.userId = userId.raw := by
  unfold requestedIdentities at h
  split at h
  · cases h
  split at h
  · cases h
  split at h
  · cases h
  next found hparse =>
  split at h
  · cases h
  next huser =>
  have heq : found = identities := Except.ok.inj h
  subst heq
  refine ⟨hparse, fun identity hmem => ?_⟩
  by_contra hne
  exact huser (List.any_eq_true.mpr ⟨identity, hmem, decide_eq_true hne⟩)

/-- The wait passes over events until one of them decides. -/
lemma records_waitForOutcome (requestedUserId : ℤ) (identities : List Identity) (n : ℕ) :
    Records (waitForOutcome requestedUserId identities n) fun r trace =>
      ∃ passed : List (Except EventError MatchEvent),
        (∀ e ∈ passed, outcomeOf requestedUserId identities e = none) ∧
        (r = none ∧ passed.length = n ∧ trace = passed.map .matchEvent ∨
          ∃ e outcome, outcomeOf requestedUserId identities e = some outcome ∧
            r = some outcome ∧ trace = passed.map .matchEvent ++ [.matchEvent e]) := by
  induction n with
  | zero => exact Prog.traces_pure ⟨[], by simp, .inl ⟨rfl, rfl, rfl⟩⟩
  | succ n ih =>
    refine records_nextMatchEvent.bind fun e => ?_
    cases houtcome : outcomeOf requestedUserId identities e with
    | some outcome =>
      refine Prog.traces_pure ?_
      intro trace htrace
      subst htrace
      exact ⟨[], by simp, .inr ⟨e, outcome, houtcome, rfl, rfl⟩⟩
    | none =>
      refine ih.mono ?_
      intro r trace' h trace htrace
      subst htrace
      obtain ⟨passed, hpassed, h⟩ := h
      refine ⟨e :: passed, ?_, ?_⟩
      · exact List.forall_mem_cons.mpr ⟨houtcome, hpassed⟩
      rcases h with ⟨hr, hlen, htrace⟩ | ⟨e', outcome, he', hr, htrace⟩
      · exact .inl ⟨hr, by rw [List.length_cons, hlen], by rw [htrace]; rfl⟩
      · exact .inr ⟨e', outcome, he', hr, by rw [htrace]; rfl⟩

/-- The three ways a match goes: refused before the start, refused at the start, or started,
with a wait that the cancellation follows as soon as it has ended. -/
lemma records_matchFingerprintIdentified (userId : BiometricUserId) (identityResponse : Packet)
    (n : ℕ) : Records (matchFingerprintIdentified userId identityResponse n) fun r trace =>
      (∃ e, requestedIdentities userId identityResponse = .error e ∧ r = some (.error e) ∧
        trace = []) ∨ ∃ identities, requestedIdentities userId identityResponse = .ok identities ∧
        ((∃ e start stop, emptyAnswer MatchWorkflowError.transport .command start = .error e ∧
            r = some (.error e) ∧ trace = [.exchanged (startMatchCommand userId) start,
              .exchanged cancelOperationCommand stop]) ∨
          ∃ passed : List (Except EventError MatchEvent),
            (∀ e ∈ passed, outcomeOf userId.raw identities e = none) ∧
            (r = none ∧ passed.length = n ∧
                trace = .exchanged (startMatchCommand userId) (.ok []) :: passed.map .matchEvent ∨
              ∃ e outcome stop, outcomeOf userId.raw identities e = some outcome ∧
                r = some (matchResult outcome (emptyAnswer CleanupError.transport .command stop)) ∧
                trace = .exchanged (startMatchCommand userId) (.ok []) :: passed.map .matchEvent ++
                    [.matchEvent e, .exchanged cancelOperationCommand stop])) := by
  unfold matchFingerprintIdentified
  cases hrequested : requestedIdentities userId identityResponse with
  | error e => exact Prog.traces_pure (.inl ⟨e, rfl, rfl, rfl⟩)
  | ok identities =>
  refine (records_executeEmpty _ _ _).bind fun started => ?_
  cases started with
  | error e =>
    refine (records_executeEmpty _ _ _).bind fun stopped => Prog.traces_pure ?_
    intro stopTrace hstop startTrace hstart
    obtain ⟨stop, -, rfl⟩ := hstop
    obtain ⟨start, hrefused, rfl⟩ := hstart
    exact .inr ⟨identities, rfl, .inl ⟨e, start, stop, hrefused.symm, rfl, rfl⟩⟩
  | ok _ =>
  refine (records_waitForOutcome userId.raw identities n).bind fun waited => ?_
  cases waited with
  | none =>
    refine Prog.traces_pure ?_
    intro waitTrace hwait startTrace hstart
    obtain ⟨start, hstarted, rfl⟩ := hstart
    rw [emptyAnswer_ok hstarted.symm]
    obtain ⟨passed, hpassed, ⟨-, hlen, rfl⟩ | ⟨_, _, -, h, -⟩⟩ := hwait
    · refine Or.inr ⟨identities, rfl, .inr ⟨passed, hpassed, .inl ⟨rfl, hlen, ?_⟩⟩⟩
      simp
    · cases h
  | some outcome =>
    refine (records_executeEmpty _ _ _).bind fun stopped => Prog.traces_pure ?_
    intro stopTrace hstop waitTrace hwait startTrace hstart
    obtain ⟨stop, rfl, rfl⟩ := hstop
    obtain ⟨start, hstarted, rfl⟩ := hstart
    rw [emptyAnswer_ok hstarted.symm]
    obtain ⟨passed, hpassed, ⟨h, -⟩ | ⟨e, outcome', he, h, rfl⟩⟩ := hwait
    · cases h
    · cases h
      refine Or.inr ⟨identities, rfl, .inr ⟨passed, hpassed,
        Or.inr ⟨e, outcome, stop, he, rfl, ?_⟩⟩⟩
      simp

/-! ### What an event means for the wait -/

/-- A callback with the result of a match. -/
def IsMatchResult (event : ServiceStatusEvent) : Prop :=
  ∃ message, parseMesaMessage event = .ok (some message) ∧ message.status = mesaMatchResult

/-- A callback that cannot be read. -/
def Malformed (requestedUserId : ℤ) (identities : List Identity) (event : ServiceStatusEvent)
    (error : MesaError) : Prop :=
  parseMesaMessage event = .error error ∨ ∃ message, parseMesaMessage event = .ok (some message) ∧
      evaluateMatchedIdentity message requestedUserId identities = .error error

section Outcome

variable {requestedUserId : ℤ} {e : Except EventError MatchEvent}

lemma outcomeOf_none (h : outcomeOf requestedUserId identities e = none) :
    ∃ event, e = .ok (.callback event) ∧ ¬ IsMatchResult event ∧
      ∀ error, ¬ Malformed requestedUserId identities event error := by
  unfold outcomeOf at h
  split at h
  · cases h
  · cases h
  · cases h
  next event =>
  refine ⟨event, rfl, ?_⟩
  split at h
  · cases h
  · next hparse =>
    constructor
    · rintro ⟨message, hm, -⟩
      rw [hparse] at hm
      cases hm
    · rintro error (hm | ⟨message, hm, -⟩)
      · rw [hparse] at hm
        cases hm
      · rw [hparse] at hm
        cases hm
  · next message hparse =>
    split at h
    · cases h
    · next heval =>
      constructor
      · rintro ⟨message', hm, hstatus⟩
        rw [hparse] at hm
        cases hm
        rw [evaluateMatchedIdentity, if_neg (not_not.mpr hstatus)] at heval
        split at heval <;> cases heval
      · rintro error (hm | ⟨message', hm, herror⟩)
        · rw [hparse] at hm
          cases hm
        rw [hparse] at hm
        cases hm
        rw [heval] at herror
        cases herror
    · cases h
    · cases h

lemma outcomeOf_matched
    (h : outcomeOf requestedUserId identities e = some (.ok (.matched identifier))) :
    ∃ event message, e = .ok (.callback event) ∧ parseMesaMessage event = .ok (some message) ∧
      evaluateMatchedIdentity message requestedUserId identities = .ok (some (some identifier)) := by
  unfold outcomeOf at h
  split at h
  · cases h
  · cases h
  · cases h
  next event =>
  split at h
  · cases h
  · cases h
  next message hparse =>
  split at h
  · cases h
  · cases h
  · next heval =>
    cases h
    exact ⟨event, message, rfl, hparse, heval⟩
  · cases h

lemma outcomeOf_malformed {event : ServiceStatusEvent} {error : MesaError}
    (h : Malformed requestedUserId identities event error) :
    outcomeOf requestedUserId identities (.ok (.callback event)) = some (.error (.mesa error)) := by
  rcases h with hparse | ⟨message, hparse, heval⟩
  · simp only [outcomeOf, hparse]
  · simp only [outcomeOf, hparse, heval]

end Outcome

/-! ### The decision -/

/-- What a reported match rests on: every listed identity belongs to the user, start and cancel
were answered with an empty success, and the first match result of the wait names the user and
the identifier of a listed identity. -/
def Grounded (userId : BiometricUserId) (identityResponse identifier : Packet)
    (trace : List Happening) : Prop :=
  ∃ identities, parseIdentities identityResponse = .ok identities ∧
    (∀ identity ∈ identities, identity.userId = userId.raw) ∧
    (∃ identity ∈ identities, identity.identifier = identifier) ∧
    ∃ (passed : List ServiceStatusEvent) (event : ServiceStatusEvent) (message : MesaMessage),
      trace = .exchanged (startMatchCommand userId) (.ok []) ::
        passed.map (fun e => .matchEvent (.ok (.callback e))) ++
          [.matchEvent (.ok (.callback event)), .exchanged cancelOperationCommand (.ok [])] ∧
      (∀ e ∈ passed, ¬ IsMatchResult e) ∧
      parseMesaMessage event = .ok (some message) ∧ message.status = mesaMatchResult ∧
      readI32 message.payload 0 = userId.raw ∧ (message.payload.drop 4).take 16 = identifier

lemma callbacks_of_passed {requestedUserId : ℤ} {passed : List (Except EventError MatchEvent)}
    (h : ∀ e ∈ passed, outcomeOf requestedUserId identities e = none) :
    ∃ events : List ServiceStatusEvent, passed = events.map (fun e => .ok (.callback e)) ∧
      ∀ e ∈ events, ¬ IsMatchResult e := by
  induction passed with
  | nil => exact ⟨[], rfl, by simp⟩
  | cons e passed ih =>
    obtain ⟨events, rfl, hevents⟩ := ih fun e' he' => h e' (List.mem_cons_of_mem e he')
    obtain ⟨event, rfl, hresult, -⟩ := outcomeOf_none (h e List.mem_cons_self)
    exact ⟨event :: events, rfl, List.forall_mem_cons.mpr ⟨hresult, hevents⟩⟩

@[simp] lemma commands_nil : commands [] = [] := rfl

@[simp] lemma commands_exchanged (packet : CommandPacket) (reply : Except TransportError Packet)
    (trace : List Happening) :
    commands (.exchanged packet reply :: trace) = packet :: commands trace := rfl

@[simp] lemma commands_matchEvent (e : Except EventError MatchEvent) (trace : List Happening) :
    commands (.matchEvent e :: trace) = commands trace := rfl

@[simp] lemma commands_append (trace trace' : List Happening) :
    commands (trace ++ trace') = commands trace ++ commands trace' := List.filterMap_append

@[simp] lemma commands_matchEvents (events : List (Except EventError MatchEvent)) :
    commands (events.map .matchEvent) = [] := by
  induction events with
  | nil => rfl
  | cons e events ih => exact ih

lemma matchResult_matched {outcome : Except MatchWaitError IdentityMatchOutcome}
    {cleanup : Except CleanupError Unit}
    (h : matchResult outcome cleanup = .ok (.matched identifier)) :
    outcome = .ok (.matched identifier) ∧ cleanup = .ok () := by
  unfold matchResult at h
  split at h
  · cases h
  · cases h
  split at h
  · cases h
    exact ⟨rfl, rfl⟩
  · cases h
  · cases h

/-- Every run of the match workflow, whatever the sensor answers and whatever events it gets:
it sends no command, or one start and, once the wait has ended, one cancel; it reports a match
only on grounds; and it reports the error that ended the wait. -/
theorem match_is_decided (userId : BiometricUserId) (identityResponse : Packet) (n : ℕ)
    {w w' : World} {r : Option (Except MatchWorkflowError IdentityMatchOutcome)}
    (h : Prog.Steps Host (matchFingerprintIdentified userId identityResponse n) w (.ret r) w') :
    ∃ trace, w'.log = w.log ++ trace ∧ (commands trace = [] ∧ r.isSome ∨
        commands trace = [startMatchCommand userId] ∧ r = none ∨
        commands trace = [startMatchCommand userId, cancelOperationCommand] ∧ r.isSome) ∧
      (∀ identifier, r = some (.ok (.matched identifier)) →
        Grounded userId identityResponse identifier trace) ∧
      (∀ error, .matchEvent (.error error) ∈ trace → r = some (.error (.event error))) ∧
      (∀ identities event error, requestedIdentities userId identityResponse = .ok identities →
        .matchEvent (.ok (.callback event)) ∈ trace →
        Malformed userId.raw identities event error → r = some (.error (.mesa error))) ∧
      (r = none → ∃ passed : List ServiceStatusEvent, passed.length = n ∧
        (∀ e ∈ passed, ¬ IsMatchResult e) ∧
        trace = .exchanged (startMatchCommand userId) (.ok []) ::
          passed.map fun e => .matchEvent (.ok (.callback e))) := by
  obtain ⟨trace, hlog, h⟩ := (records_matchFingerprintIdentified userId identityResponse n).of_steps h
  refine ⟨trace, hlog, ?_⟩
  rcases h with ⟨e, hrefused, rfl, rfl⟩ | ⟨identities, hidentities, h⟩
  · refine ⟨.inl ⟨rfl, rfl⟩, ?_, ?_, ?_, ?_⟩
    · intro identifier h
      cases h
    · intro error h
      cases h
    · intro identities event error h
      rw [hrefused] at h
      cases h
    · intro h
      cases h
  rcases h with ⟨e, start, stop, hrefused, rfl, rfl⟩ | ⟨passed, hpassed, h⟩
  · refine ⟨.inr (.inr ⟨rfl, rfl⟩), ?_, ?_, ?_, ?_⟩
    · intro identifier h
      cases h
    · intro error h
      simp at h
    · intro identities event error _ h
      simp at h
    · intro h
      cases h
  have hcallbacks := callbacks_of_passed hpassed
  rcases h with ⟨rfl, hlen, rfl⟩ | ⟨e, outcome, stop, he, rfl, rfl⟩
  · refine ⟨.inr (.inl ⟨by simp, rfl⟩), ?_, ?_, ?_, ?_⟩
    · intro identifier h
      cases h
    · intro error hmem
      have hmem' : (.error error : Except EventError MatchEvent) ∈ passed := by
        simpa using hmem
      have hnone := hpassed _ hmem'
      cases hnone
    · intro identities' event error hidentities' hmem hmalformed
      rw [hidentities] at hidentities'
      cases hidentities'
      have hmem' : (.ok (.callback event) : Except EventError MatchEvent) ∈ passed := by
        simpa using hmem
      have hnone := hpassed _ hmem'
      rw [outcomeOf_malformed hmalformed] at hnone
      cases hnone
    · intro _
      obtain ⟨events, rfl, hevents⟩ := hcallbacks
      refine ⟨events, by simpa using hlen, hevents, ?_⟩
      rw [List.map_map]
      rfl
  · refine ⟨.inr (.inr ⟨by simp, rfl⟩), ?_, ?_, ?_, ?_⟩
    · intro identifier h
      obtain ⟨rfl, hcleanup⟩ := matchResult_matched (Option.some.inj h)
      obtain ⟨event, message, rfl, hparse, heval⟩ := outcomeOf_matched he
      obtain ⟨hstatus, huser, hid, hlisted⟩ := evaluateMatchedIdentity_matched heval
      obtain ⟨hparsed, howned⟩ := requestedIdentities_ok hidentities
      obtain ⟨events, rfl, hevents⟩ := hcallbacks
      refine ⟨identities, hparsed, howned, hlisted, events, event, message, ?_, hevents, hparse,
        hstatus, huser, hid.symm⟩
      rw [emptyAnswer_ok hcleanup, List.map_map]
      rfl
    · intro error hmem
      have hlast : (.error error : Except EventError MatchEvent) ∈ passed ∨ .error error = e := by
        simpa using hmem
      rcases hlast with hmem' | rfl
      · have hnone := hpassed _ hmem'
        cases hnone
      · cases he
        rfl
    · intro identities' event error hidentities' hmem hmalformed
      rw [hidentities] at hidentities'
      cases hidentities'
      have hlast : (.ok (.callback event) : Except EventError MatchEvent) ∈ passed ∨
          .ok (.callback event) = e := by
        simpa using hmem
      have hsome := outcomeOf_malformed hmalformed
      rcases hlast with hmem' | rfl
      · have hnone := hpassed _ hmem'
        rw [hsome] at hnone
        cases hnone
      · rw [hsome] at he
        cases he
        rfl
    · intro h
      cases h

/-! ### A match -/

/-- A callback of the sensor's service with this status and payload. -/
def statusCallback (status : ℕ) (payload : Packet) : ServiceStatusEvent :=
  ⟨mesaServiceMessage, leBytes 8 0 ++ leBytes 4 status ++ leBytes 4 mesaMessageTypeV1 ++
    leBytes 8 0 ++ leBytes 8 0 ++ leBytes 8 payload.length ++ payload⟩

def sampleUser : BiometricUserId := ⟨501, by decide⟩

def sampleIdentifier : Packet := List.replicate 16 7

def sampleIdentity : Packet := leBytes 4 501 ++ sampleIdentifier

/-- A choice under which every command is answered with this reply. -/
def replyChoice (reply : Except TransportError Packet) : Choice where
  fault := none
  order := []
  seed := ⟨0, 0, 0, by decide, by decide, by decide⟩
  reply := reply
  enrollmentEvent := .ok .timedOut
  matchEvent := .ok .timedOut
  wait := .ok ()
  mesaCompleted := true

/-- A world without a store. -/
def bareWorld : World where
  fs := FileSystem.ofNodes []
  bounded := FileSystem.bounded_ofNodes (by decide)
  who := ⟨0, 0⟩
  reliable := true
  log := []

/-- A start, a callback about something else, the sensor's result and a cancel. -/
def sampleChoices : List Choice :=
  [replyChoice (.ok []),
    { replyChoice (.ok []) with matchEvent := .ok (.callback (statusCallback 0x1234 [])) },
    { replyChoice (.ok []) with
      matchEvent := .ok (.callback (statusCallback mesaMatchResult
        (sampleIdentity ++ List.replicate (mesaMatchResultV1Size - 20) 0))) },
    replyChoice (.ok [])]

def sampleMatch : HostProg (Option (Except MatchWorkflowError IdentityMatchOutcome)) × World :=
  Prog.advance TestedHost sampleChoices (matchFingerprintIdentified sampleUser sampleIdentity 5)
    bareWorld

theorem match_is_decided_sample : ∃ trace, sampleMatch.2.log = bareWorld.log ++ trace ∧
      Grounded sampleUser sampleIdentity sampleIdentifier trace := by
  have hend : sampleMatch.1 = .ret (some (.ok (.matched sampleIdentifier))) :=
    Prog.eq_ret_of_result (by decide +kernel)
  have hsteps : Prog.Steps Host (matchFingerprintIdentified sampleUser sampleIdentity 5) bareWorld
      sampleMatch.1 sampleMatch.2 := steps_advance sampleChoices _ _
  rw [hend] at hsteps
  obtain ⟨trace, hlog, -, hmatched, -⟩ := match_is_decided sampleUser sampleIdentity 5 hsteps
  exact ⟨trace, hlog, hmatched sampleIdentifier rfl⟩

end T1Bridge.Device
