import T1Bridge.Device.Match

/-! # The enrollment workflow

An enrollment is started, continued at every callback that asks for another touch, and accepted
when the identity of the completion callback is in a list read afterwards.  As for a match, the
wait takes the number of events it looks at and returns `none` while it goes on.  `Waits` is the
grammar of what a wait exchanges, and `Conduct` says what follows for a whole run. -/

namespace T1Bridge.Device

open Store
open Prog (perform traces_pure)

variable {credentialSet : Option Packet} {identifier : Packet} {user : BiometricUserId}

inductive EnrollmentOutcome where
  | completed (identifier : Packet)
  | timedOut
deriving DecidableEq

/-- The command that failed. -/
inductive EnrollmentStage where
  | start | «continue» | identityList | cancel
deriving DecidableEq

inductive EnrollmentError where
  | command (stage : EnrollmentStage) (error : CommandError)
  | transport (stage : EnrollmentStage) (error : TransportError)
  | event (error : EventError)
  | mesa (error : MesaError)
  | completedIdentityAbsent
deriving DecidableEq

def nextEnrollmentEvent : HostProg (Except EventError EnrollmentEvent) :=
  perform HostOp.enrollmentEvent

/-- The caller is told how far the enrollment is, if it asked for that. -/
def reportProgress (progress : Bool) (value : ℕ) : HostProg Unit :=
  if progress then perform (HostOp.progress value) else pure ()

/-- What a callback means for an enrollment of this user. -/
inductive EnrollmentSignal where
  | ignored
  | touch (value : ℕ)
  | completed (identifier : Packet)
  | malformed (error : MesaError)

def enrollmentSignal (user : BiometricUserId) (event : ServiceStatusEvent) : EnrollmentSignal :=
  match parseMesaMessage event with
  | .error error => .malformed error
  | .ok none => .ignored
  | .ok (some message) =>
    if enrollmentNeedsContinue message then .touch message.inValue
    else
      match enrollmentCompletion message user.raw with
      | .error error => .malformed error
      | .ok none => .ignored
      | .ok (some identifier) => .completed identifier

/-- The list read after the completion has the identity. -/
def freshIdentity (user : BiometricUserId) (identifier : Packet) :
    Except TransportError Packet → Except EnrollmentError Unit
  | .error error => .error (.transport .identityList error)
  | .ok response =>
    match validateIdentityListResponse response with
    | .error error => .error (.command .identityList error)
    | .ok _ =>
      match parseIdentities response with
      | .error error => .error (.mesa error)
      | .ok identities =>
        if identities.any fun identity =>
            decide (identity.userId = user.raw) && decide (identity.identifier = identifier)
        then .ok ()
        else .error .completedIdentityAbsent

def verifyFreshIdentity (user : BiometricUserId) (identifier : Packet) :
    HostProg (Except EnrollmentError Unit) := do
  let reply ← execute (identitiesCommand user)
  pure (freshIdentity user identifier reply)

def continueEnrollment : HostProg (Except EnrollmentError Unit) :=
  executeEmpty continueEnrollmentCommand (.transport .«continue») (.command .«continue»)

def waitForCompletion (user : BiometricUserId) (progress : Bool) :
    ℕ → HostProg (Option (Except EnrollmentError EnrollmentOutcome))
  | 0 => pure none
  | n + 1 => do
    match ← nextEnrollmentEvent with
    | .error error => pure (some (.error (.event error)))
    | .ok .timedOut => pure (some (.ok .timedOut))
    | .ok (.serviceStatus event) =>
      match enrollmentSignal user event with
      | .malformed error => pure (some (.error (.mesa error)))
      | .ignored => waitForCompletion user progress n
      | .touch value =>
        reportProgress progress value
        match ← continueEnrollment with
        | .error error => pure (some (.error error))
        | .ok _ => waitForCompletion user progress n
      | .completed identifier =>
        match ← verifyFreshIdentity user identifier with
        | .error error => pure (some (.error error))
        | .ok _ => pure (some (.ok (.completed identifier)))

def cancelRequired : HostProg (Except EnrollmentError Unit) :=
  executeEmpty cancelOperationCommand (.transport .cancel) (.command .cancel)

/-- The reply to this cancellation is not looked at. -/
def cancelBestEffort : HostProg Unit := do
  let _ ← execute cancelOperationCommand
  pure ()

/-- The validated user and start command. -/
def enrollmentStart (userId : ℤ) (credentialSet : Option Packet) :
    Except CommandError (BiometricUserId × CommandPacket) :=
  match BiometricUserId.new userId with
  | .error error => .error (.policy error)
  | .ok user =>
    match startEnrollmentCommand user credentialSet with
    | .error error => .error error
    | .ok start => .ok (user, start)

def startEnrollment (start : CommandPacket) : HostProg (Except EnrollmentError Unit) :=
  executeEmpty start (.transport .start) (.command .start)

/-- The end of a wait: a timeout has to be cancelled, a completion is kept, and a failure is
cancelled as well as it can be. -/
def finishEnrollment : Except EnrollmentError EnrollmentOutcome →
    HostProg (Except EnrollmentError EnrollmentOutcome)
  | .ok .timedOut => do
    match ← cancelRequired with
    | .error error => pure (.error error)
    | .ok _ => pure (.ok .timedOut)
  | .ok (.completed identifier) => pure (.ok (.completed identifier))
  | .error primary => do
    cancelBestEffort
    pure (.error primary)

def runEnrollment (userId : ℤ) (credentialSet : Option Packet) (progress : Bool) (n : ℕ) :
    HostProg (Option (Except EnrollmentError EnrollmentOutcome)) := do
  match enrollmentStart userId credentialSet with
  | .error error => pure (some (.error (.command .start error)))
  | .ok (user, start) =>
    match ← startEnrollment start with
    | .error primary =>
      cancelBestEffort
      pure (some (.error primary))
    | .ok _ =>
      match ← waitForCompletion user progress n with
      | none => pure none
      | some result =>
        let ended ← finishEnrollment result
        pure (some ended)

/-! ### What a wait exchanges -/

/-- The callback, as it is in the log. -/
abbrev delivered (event : ServiceStatusEvent) : Happening :=
  .enrollmentEvent (.ok (.serviceStatus event))

/-- The exchanges of a wait and what it returns. -/
inductive Waits (user : BiometricUserId) :
    ℕ → List Happening → Option (Except EnrollmentError EnrollmentOutcome) → Prop
  | waiting : Waits user 0 [] none
  | failed {n : ℕ} (error : EventError) :
      Waits user (n + 1) [.enrollmentEvent (.error error)] (some (.error (.event error)))
  | timedOut {n : ℕ} : Waits user (n + 1) [.enrollmentEvent (.ok .timedOut)] (some (.ok .timedOut))
  | malformed {n : ℕ} {event : ServiceStatusEvent} {error : MesaError} :
      enrollmentSignal user event = .malformed error →
      Waits user (n + 1) [delivered event] (some (.error (.mesa error)))
  | ignored {n : ℕ} {event : ServiceStatusEvent} {trace : List Happening}
      {r : Option (Except EnrollmentError EnrollmentOutcome)} :
      enrollmentSignal user event = .ignored → Waits user n trace r →
      Waits user (n + 1) (delivered event :: trace) r
  | continued {n : ℕ} {event : ServiceStatusEvent} {value : ℕ} {trace : List Happening}
      {r : Option (Except EnrollmentError EnrollmentOutcome)} :
      enrollmentSignal user event = .touch value → Waits user n trace r →
      Waits user (n + 1) (delivered event :: .exchanged continueEnrollmentCommand (.ok []) :: trace) r
  | refused {n : ℕ} {event : ServiceStatusEvent} {value : ℕ} {reply : Except TransportError Packet}
      {error : EnrollmentError} : enrollmentSignal user event = .touch value →
      emptyAnswer (EnrollmentError.transport .«continue») (.command .«continue») reply =
        .error error →
      Waits user (n + 1) [delivered event, .exchanged continueEnrollmentCommand reply]
        (some (.error error))
  | absent {n : ℕ} {event : ServiceStatusEvent} {identifier : Packet}
      {reply : Except TransportError Packet} {error : EnrollmentError} :
      enrollmentSignal user event = .completed identifier →
      freshIdentity user identifier reply = .error error →
      Waits user (n + 1) [delivered event, .exchanged (identitiesCommand user) reply]
        (some (.error error))
  | completed {n : ℕ} {event : ServiceStatusEvent} {identifier : Packet}
      {reply : Except TransportError Packet} : enrollmentSignal user event = .completed identifier →
      freshIdentity user identifier reply = .ok () →
      Waits user (n + 1) [delivered event, .exchanged (identitiesCommand user) reply]
        (some (.ok (.completed identifier)))

lemma records_nextEnrollmentEvent :
    Records nextEnrollmentEvent fun event trace => trace = [.enrollmentEvent event] :=
  Prog.traces_perform fun c _ _ => ⟨[.enrollmentEvent c.enrollmentEvent], rfl, rfl⟩

lemma records_reportProgress (progress : Bool) (value : ℕ) :
    Records (reportProgress progress value) fun _ trace => trace = [] := by
  cases progress with
  | true =>
    refine Prog.traces_perform ?_
    intro c s _
    exact ⟨[], (List.append_nil s.log).symm, rfl⟩
  | false => exact traces_pure rfl

lemma records_cancelBestEffort : Records cancelBestEffort fun _ trace =>
      ∃ reply, trace = [.exchanged cancelOperationCommand reply] := by
  refine (records_execute cancelOperationCommand).bind fun reply => traces_pure ?_
  intro trace htrace
  exact ⟨reply, by rw [htrace]; rfl⟩

lemma records_verifyFreshIdentity (user : BiometricUserId) (identifier : Packet) :
    Records (verifyFreshIdentity user identifier) fun r trace =>
      ∃ reply, r = freshIdentity user identifier reply ∧
        trace = [.exchanged (identitiesCommand user) reply] := by
  refine (records_execute (identitiesCommand user)).bind fun reply => traces_pure ?_
  intro trace htrace
  exact ⟨reply, rfl, by rw [htrace]; rfl⟩

lemma records_waitForCompletion (user : BiometricUserId) (progress : Bool) (n : ℕ) :
    Records (waitForCompletion user progress n) fun r trace => Waits user n trace r := by
  induction n with
  | zero => exact traces_pure Waits.waiting
  | succ n ih =>
    refine records_nextEnrollmentEvent.bind fun e => ?_
    rcases e with error | e
    · refine traces_pure ?_
      rintro _ rfl
      exact Waits.failed error
    cases e with
    | timedOut =>
      refine traces_pure ?_
      rintro _ rfl
      exact Waits.timedOut
    | serviceStatus event =>
    dsimp only
    cases hsignal : enrollmentSignal user event with
    | malformed error =>
      refine traces_pure ?_
      rintro _ rfl
      exact Waits.malformed hsignal
    | ignored =>
      refine ih.mono ?_
      rintro r _ h _ rfl
      exact Waits.ignored hsignal h
    | touch value =>
      refine (records_reportProgress progress value).bind fun _ => ?_
      refine (records_executeEmpty _ _ _).bind fun answer => ?_
      cases answer with
      | error error =>
        refine traces_pure ?_
        rintro continueTrace ⟨reply, hrefused, rfl⟩ progressTrace rfl trace rfl
        exact Waits.refused hsignal hrefused.symm
      | ok _ =>
        refine ih.mono ?_
        rintro r trace' h continueTrace ⟨reply, hcontinued, rfl⟩ progressTrace rfl trace rfl
        rw [emptyAnswer_ok hcontinued.symm]
        exact Waits.continued hsignal h
    | completed identifier =>
      refine (records_verifyFreshIdentity user identifier).bind fun answer => ?_
      cases answer with
      | error error =>
        refine traces_pure ?_
        rintro listTrace ⟨reply, habsent, rfl⟩ trace rfl
        exact Waits.absent hsignal habsent.symm
      | ok _ =>
        refine traces_pure ?_
        rintro listTrace ⟨reply, hfresh, rfl⟩ trace rfl
        exact Waits.completed hsignal hfresh.symm

section

variable (user) (start : CommandPacket) (n : ℕ)

/-- The exchanges of an enrollment that was started and what it returns. -/
inductive Enrolls : List Happening → Option (Except EnrollmentError EnrollmentOutcome) → Prop
  | refused {reply stop : Except TransportError Packet} {error : EnrollmentError} :
      emptyAnswer (EnrollmentError.transport .start) (.command .start) reply = .error error →
      Enrolls [.exchanged start reply, .exchanged cancelOperationCommand stop] (some (.error error))
  | waiting {trace : List Happening} : Waits user n trace none →
      Enrolls (.exchanged start (.ok []) :: trace) none
  | completed {trace : List Happening} {identifier : Packet} :
      Waits user n trace (some (.ok (.completed identifier))) →
      Enrolls (.exchanged start (.ok []) :: trace) (some (.ok (.completed identifier)))
  | failed {trace : List Happening} {error : EnrollmentError}
      {stop : Except TransportError Packet} : Waits user n trace (some (.error error)) →
      Enrolls (.exchanged start (.ok []) :: trace ++ [.exchanged cancelOperationCommand stop])
        (some (.error error))
  | timedOut {trace : List Happening} (stop : Except TransportError Packet) :
      Waits user n trace (some (.ok .timedOut)) →
      Enrolls (.exchanged start (.ok []) :: trace ++ [.exchanged cancelOperationCommand stop])
        (some ((emptyAnswer (EnrollmentError.transport .cancel) (.command .cancel) stop).map
          fun _ => .timedOut))

end

lemma records_finishEnrollment (user : BiometricUserId) (start : CommandPacket) (n : ℕ)
    (result : Except EnrollmentError EnrollmentOutcome) :
    Records (finishEnrollment result) fun r trace' => ∀ trace, Waits user n trace (some result) →
        Enrolls user start n (.exchanged start (.ok []) :: trace ++ trace') (some r) := by
  rcases result with primary | (identifier | _)
  · refine records_cancelBestEffort.bind fun _ => traces_pure ?_
    rintro _ ⟨stop, rfl⟩ trace hwait
    exact Enrolls.failed hwait
  · refine traces_pure ?_
    intro trace hwait
    rw [List.append_nil]
    exact Enrolls.completed hwait
  refine (records_executeEmpty _ _ _).bind fun answer => ?_
  cases answer with
  | error error =>
    refine traces_pure ?_
    rintro _ ⟨stop, hrefused, rfl⟩ trace hwait
    have h : Enrolls user start n _ _ := Enrolls.timedOut stop hwait
    rwa [← hrefused] at h
  | ok _ =>
    refine traces_pure ?_
    rintro _ ⟨stop, hstopped, rfl⟩ trace hwait
    have h : Enrolls user start n _ _ := Enrolls.timedOut stop hwait
    rwa [← hstopped] at h

lemma records_runEnrollment (userId : ℤ) (credentialSet : Option Packet) (progress : Bool)
    (n : ℕ) : Records (runEnrollment userId credentialSet progress n) fun r trace =>
      (∃ error, enrollmentStart userId credentialSet = .error error ∧ trace = [] ∧
        r = some (.error (.command .start error))) ∨
      ∃ user start, enrollmentStart userId credentialSet = .ok (user, start) ∧
        Enrolls user start n trace r := by
  unfold runEnrollment
  rcases hstart : enrollmentStart userId credentialSet with error | ⟨user, start⟩
  · exact traces_pure (.inl ⟨error, rfl, rfl, rfl⟩)
  refine (records_executeEmpty _ _ _).bind fun started => ?_
  cases started with
  | error primary =>
    refine records_cancelBestEffort.bind fun _ => traces_pure ?_
    rintro _ ⟨stop, rfl⟩ _ ⟨reply, hrefused, rfl⟩
    exact .inr ⟨user, start, rfl, Enrolls.refused hrefused.symm⟩
  | ok _ =>
    refine (records_waitForCompletion user progress n).bind fun waited => ?_
    cases waited with
    | none =>
      refine traces_pure ?_
      rintro waitTrace hwait _ ⟨reply, hanswer, rfl⟩
      rw [emptyAnswer_ok hanswer.symm, List.append_nil]
      exact .inr ⟨user, start, rfl, Enrolls.waiting hwait⟩
    | some result =>
      refine (records_finishEnrollment user start n result).bind fun ended =>
        traces_pure ?_
      rintro finishTrace hfinish waitTrace hwait _ ⟨reply, hanswer, rfl⟩
      rw [emptyAnswer_ok hanswer.symm, List.append_nil]
      exact .inr ⟨user, start, rfl, hfinish waitTrace hwait⟩

/-! ### What the callbacks mean -/

/-- The callback reports the enrollment of this identity for this user. -/
def CompletionFor (user : BiometricUserId) (event : ServiceStatusEvent) (identifier : Packet) :
    Prop :=
  ∃ message, parseMesaMessage event = .ok (some message) ∧
    message.status = mesaEnrollmentComplete ∧ readI32 message.payload 0 = user.raw ∧
    (message.payload.drop 4).take 16 = identifier ∧ identifier ≠ zeroIdentifier

def isCallback : Happening → Bool
  | .enrollmentEvent (.ok (.serviceStatus _)) => true
  | _ => false

/-- The happening is a callback that asks for another touch. -/
def asksForTouch : Happening → Bool
  | .enrollmentEvent (.ok (.serviceStatus event)) =>
    match parseMesaMessage event with
    | .ok (some message) => enrollmentNeedsContinue message
    | _ => false
  | _ => false

@[simp] def EnrollmentSignal.isTouch : EnrollmentSignal → Bool
  | .touch _ => true
  | _ => false

section Signal

variable {event : ServiceStatusEvent}

lemma completionFor_of_signal (h : enrollmentSignal user event = .completed identifier) :
    CompletionFor user event identifier := by
  unfold enrollmentSignal at h
  split at h
  · cases h
  · cases h
  next message hparse =>
  split at h
  · cases h
  split at h
  · cases h
  · cases h
  next identifier' hcompletion =>
  cases h
  unfold enrollmentCompletion at hcompletion
  split at hcompletion
  · cases hcompletion
  next hstatus =>
  split at hcompletion
  · cases hcompletion
  split at hcompletion
  · cases hcompletion
  split at hcompletion
  · cases hcompletion
  next huser =>
  split at hcompletion
  · cases hcompletion
  next hzero =>
  cases hcompletion
  exact ⟨message, hparse, not_not.mp hstatus, not_not.mp huser, rfl, hzero⟩

/-- Whether a callback asks for a touch does not depend on the user. -/
lemma asksForTouch_delivered {signal : EnrollmentSignal}
    (h : enrollmentSignal user event = signal) :
    asksForTouch (delivered event) = signal.isTouch := by
  subst h
  unfold enrollmentSignal
  cases hparse : parseMesaMessage event with
  | error error => simp [asksForTouch, hparse]
  | ok parsed =>
    cases parsed with
    | none => simp [asksForTouch, hparse]
    | some message =>
      simp only [asksForTouch, hparse]
      cases hcontinue : enrollmentNeedsContinue message with
      | true => rfl
      | false =>
        cases enrollmentCompletion message user.raw with
        | error error => rfl
        | ok completed => cases completed <;> rfl

end Signal

/-! ### What a wait did -/

/-- The failure a happening of the wait is, apart from the list read at its end. -/
def waitFailure (user : BiometricUserId) : Happening → Option EnrollmentError
  | .enrollmentEvent (.error error) => some (.event error)
  | .enrollmentEvent (.ok (.serviceStatus event)) =>
    match enrollmentSignal user event with
    | .malformed error => some (.mesa error)
    | _ => none
  | .exchanged packet reply =>
    if packet = continueEnrollmentCommand then
      match emptyAnswer (EnrollmentError.transport .«continue») (.command .«continue») reply with
      | .error error => some error
      | .ok _ => none
    else none
  | _ => none

/-- After the happening comes a continue exactly if it asks for another touch. -/
def Continues (e e' : Happening) : Prop :=
  asksForTouch e = true ↔ ∃ reply, e' = .exchanged continueEnrollmentCommand reply

/-- The list was read right after a completion for the user, and decided the result. -/
def Listed (user : BiometricUserId) (trace : List Happening)
    (r : Option (Except EnrollmentError EnrollmentOutcome)) : Prop :=
  ∃ before event identifier reply after,
    trace = before ++ delivered event :: .exchanged (identitiesCommand user) reply :: after ∧
    CompletionFor user event identifier ∧
    r = some ((freshIdentity user identifier reply).map fun _ => .completed identifier)

/-- The grounds of a completed enrollment: the run ends with a completion callback and a valid
list with the identity. -/
def Confirmed (user : BiometricUserId) (identifier : Packet) (trace : List Happening) : Prop :=
  ∃ before event response identities,
    trace = before ++ [delivered event, .exchanged (identitiesCommand user) (.ok response)] ∧
    CompletionFor user event identifier ∧ validateIdentityListResponse response = .ok () ∧
    parseIdentities response = .ok identities ∧
    ∃ identity ∈ identities, identity.userId = user.raw ∧ identity.identifier = identifier

@[simp] lemma commands_enrollmentEvent (e : Except EventError EnrollmentEvent)
    (trace : List Happening) : commands (.enrollmentEvent e :: trace) = commands trace := rfl

@[simp] lemma asksForTouch_exchanged (packet : CommandPacket)
    (reply : Except TransportError Packet) : asksForTouch (.exchanged packet reply) = false := rfl

@[simp] lemma asksForTouch_error (error : EventError) :
    asksForTouch (.enrollmentEvent (.error error)) = false := rfl

@[simp] lemma asksForTouch_timedOut : asksForTouch (.enrollmentEvent (.ok .timedOut)) = false := rfl

variable {r : Option (Except EnrollmentError EnrollmentOutcome)} {trace : List Happening}
  {start : CommandPacket}

lemma freshIdentity_ok {reply : Except TransportError Packet}
    (h : freshIdentity user identifier reply = .ok ()) :
    ∃ response identities, reply = .ok response ∧
      validateIdentityListResponse response = .ok () ∧ parseIdentities response = .ok identities ∧
      ∃ identity ∈ identities, identity.userId = user.raw ∧ identity.identifier = identifier := by
  unfold freshIdentity at h
  split at h
  · cases h
  next response =>
  split at h
  · cases h
  next hvalid =>
  split at h
  · cases h
  next identities hparse =>
  split at h
  · next hany =>
    obtain ⟨identity, hmem, hid⟩ := List.any_eq_true.mp hany
    rw [Bool.and_eq_true, decide_eq_true_iff, decide_eq_true_iff] at hid
    exact ⟨response, identities, rfl, hvalid, hparse, identity, hmem, hid⟩
  · cases h

lemma identitiesCommand_ne (user : BiometricUserId) :
    identitiesCommand user ≠ continueEnrollmentCommand := by
  intro h
  cases congrArg CommandPacket.code h

section Waits

lemma Listed.cons (h : Listed user trace r) (e : Happening) : Listed user (e :: trace) r := by
  obtain ⟨before, event, identifier, reply, after, rfl, hlisted⟩ := h
  exact ⟨e :: before, event, identifier, reply, after, rfl, hlisted⟩

lemma Confirmed.cons (h : Confirmed user identifier trace) (e : Happening) :
    Confirmed user identifier (e :: trace) := by
  obtain ⟨before, event, response, identities, rfl, hconfirmed⟩ := h
  exact ⟨e :: before, event, response, identities, rfl, hconfirmed⟩

lemma last_cons {e : Happening} (he : asksForTouch e = false)
    (h : ∀ e ∈ trace.getLast?, asksForTouch e = false) :
    ∀ e' ∈ (e :: trace).getLast?, asksForTouch e' = false := by
  intro e' he'
  rw [List.getLast?_cons, Option.mem_some_iff] at he'
  cases hlast : trace.getLast? with
  | none => rwa [← he', hlast]
  | some last =>
    rw [← he', hlast]
    exact h last hlast

section

variable {n : ℕ} (h : Waits user n trace r)

include h

lemma Waits.head : ∀ e ∈ trace.head?, ∃ event, e = .enrollmentEvent event := by
  cases h <;> simp

lemma Waits.commands_eq :
    commands trace = List.replicate (trace.countP asksForTouch) continueEnrollmentCommand ∨
      commands trace = List.replicate (trace.countP asksForTouch) continueEnrollmentCommand ++
        [identitiesCommand user] ∧ Listed user trace r := by
  induction h with
  | waiting | failed error | timedOut => exact .inl rfl
  | malformed hsignal | refused hsignal _ =>
    exact .inl (by simp [asksForTouch_delivered hsignal])
  | ignored hsignal _ ih =>
    rcases ih with ih | ⟨ih, hlisted⟩
    · exact .inl (by simp [asksForTouch_delivered hsignal, ih])
    · exact .inr ⟨by simpa [asksForTouch_delivered hsignal] using ih, hlisted.cons _⟩
  | continued hsignal _ ih =>
    rcases ih with ih | ⟨ih, hlisted⟩
    · exact .inl (by simp [asksForTouch_delivered hsignal, ih, List.replicate_succ])
    · refine Or.inr ⟨?_, (hlisted.cons _).cons _⟩
      simpa [asksForTouch_delivered hsignal, List.replicate_succ] using ih
  | absent hsignal hfresh | completed hsignal hfresh =>
    refine Or.inr ⟨by simp [asksForTouch_delivered hsignal], [], _, _, _, [], rfl,
      completionFor_of_signal hsignal, ?_⟩
    rw [hfresh]
    rfl

lemma Waits.isChain : trace.IsChain Continues := by
  induction h with
  | waiting => exact List.IsChain.nil
  | failed error | timedOut | malformed _ => exact List.IsChain.singleton _
  | ignored hsignal hrest ih =>
    refine List.isChain_cons.mpr ⟨?_, ih⟩
    intro e he
    obtain ⟨event, rfl⟩ := hrest.head e he
    simp [Continues, asksForTouch_delivered hsignal]
  | continued hsignal hrest ih =>
    refine List.isChain_cons_cons.mpr ⟨?_, List.isChain_cons.mpr ⟨?_, ih⟩⟩
    · simp [Continues, asksForTouch_delivered hsignal]
    intro e he
    obtain ⟨event, rfl⟩ := hrest.head e he
    simp [Continues]
  | refused hsignal _ =>
    simp [Continues, asksForTouch_delivered hsignal]
  | absent hsignal _ | completed hsignal _ =>
    simp [Continues, asksForTouch_delivered hsignal, identitiesCommand_ne]

/-- The last happening of a wait leaves no touch to answer. -/
lemma Waits.last : ∀ e ∈ trace.getLast?, asksForTouch e = false := by
  induction h with
  | waiting => simp
  | failed error => simp
  | timedOut => simp
  | malformed hsignal => simp [asksForTouch_delivered hsignal]
  | ignored hsignal _ ih => exact last_cons (asksForTouch_delivered hsignal) ih
  | continued _ _ ih =>
    rw [List.getLast?_cons_cons]
    exact last_cons rfl ih
  | _ => simp

lemma Waits.reported :
    ∀ e ∈ trace, ∀ error, waitFailure user e = some error → r = some (.error error) := by
  induction h with
  | waiting => simp
  | failed error | timedOut => simp [waitFailure]
  | malformed hsignal => simp [waitFailure, hsignal]
  | ignored hsignal _ ih => simpa [waitFailure, hsignal] using ih
  | continued hsignal _ ih =>
    simpa [waitFailure, hsignal, emptyAnswer, validateEmptyResponse, Except.mapError] using ih
  | refused hsignal hrefused => simp [waitFailure, hsignal, hrefused]
  | absent hsignal _ | completed hsignal _ => simp [waitFailure, hsignal, identitiesCommand_ne]

/-- A wait that goes on has looked at all the callbacks it may look at. -/
lemma Waits.waiting_callbacks : r = none → trace.countP isCallback = n := by
  induction h with
  | waiting => simp
  | ignored _ _ ih | continued _ _ ih =>
    intro hr
    simp [List.countP_cons, isCallback, ih hr]
  | _ => simp

end

lemma Waits.confirmed {n : ℕ} (h : Waits user n trace (some (.ok (.completed identifier)))) :
    Confirmed user identifier trace := by
  generalize hr : some (Except.ok (EnrollmentOutcome.completed identifier)) = r at h
  induction h with
  | ignored _ _ ih => exact (ih hr).cons _
  | continued _ _ ih => exact ((ih hr).cons _).cons _
  | completed hsignal hfresh =>
    cases hr
    obtain ⟨response, identities, rfl, hlisted⟩ := freshIdentity_ok hfresh
    exact ⟨[], _, response, identities, rfl, completionFor_of_signal hsignal, hlisted⟩
  | _ => cases hr

lemma Waits.timedOut_last {n : ℕ} (h : Waits user n trace (some (.ok .timedOut))) :
    ∃ before, trace = before ++ [.enrollmentEvent (.ok .timedOut)] := by
  generalize hr : some (Except.ok EnrollmentOutcome.timedOut) = r at h
  induction h with
  | ignored _ _ ih =>
    obtain ⟨before, rfl⟩ := ih hr
    exact ⟨delivered _ :: before, rfl⟩
  | continued _ _ ih =>
    obtain ⟨before, rfl⟩ := ih hr
    exact ⟨delivered _ :: .exchanged continueEnrollmentCommand (.ok []) :: before, rfl⟩
  | timedOut => exact ⟨[], rfl⟩
  | _ => cases hr

end Waits

/-! ### What an enrollment did -/

/-- Everything but a completed enrollment is cancelled when it ends. -/
def closing : Option (Except EnrollmentError EnrollmentOutcome) → List CommandPacket
  | none | some (.ok (.completed _)) => []
  | some _ => [cancelOperationCommand]

/-- How an enrollment that was started conducts itself. -/
structure Conduct (user : BiometricUserId) (start : CommandPacket) (n : ℕ)
    (trace : List Happening) (r : Option (Except EnrollmentError EnrollmentOutcome)) : Prop where
  commands_eq : commands trace = start ::
      List.replicate (trace.countP asksForTouch) continueEnrollmentCommand ++ closing r ∨
    commands trace = start ::
      List.replicate (trace.countP asksForTouch) continueEnrollmentCommand ++
        identitiesCommand user :: closing r ∧ Listed user trace r
  continues : trace.IsChain Continues
  confirmed : ∀ identifier, r = some (.ok (.completed identifier)) → Confirmed user identifier trace
  reported : ∀ e ∈ trace, ∀ error, waitFailure user e = some error → r = some (.error error)
  timedOut : r = some (.ok .timedOut) → ∃ before, trace = before ++
    [.enrollmentEvent (.ok .timedOut), .exchanged cancelOperationCommand (.ok [])]
  refused : ∃ reply rest, trace = .exchanged start reply :: rest ∧ (reply ≠ .ok [] →
    ∃ stop error, rest = [.exchanged cancelOperationCommand stop] ∧
      emptyAnswer (EnrollmentError.transport .start) (.command .start) reply = .error error ∧
      r = some (.error error))
  waiting : r = none → trace.countP isCallback = n

lemma enrollmentStart_ok {userId : ℤ}
    (h : enrollmentStart userId credentialSet = .ok (user, start)) :
    BiometricUserId.new userId = .ok user ∧
      startEnrollmentCommand user credentialSet = .ok start := by
  unfold enrollmentStart at h
  split at h
  · cases h
  next user' huser =>
  split at h
  · cases h
  next start' hstart =>
  cases h
  exact ⟨huser, hstart⟩

section Conduct

lemma waitFailure_exchanged {packet : CommandPacket} (h : packet ≠ continueEnrollmentCommand)
    (reply : Except TransportError Packet) :
    waitFailure user (.exchanged packet reply) = none := if_neg h

lemma cancelOperationCommand_ne : cancelOperationCommand ≠ continueEnrollmentCommand := by
  decide

variable {n : ℕ} (hstart : start ≠ continueEnrollmentCommand)

include hstart

lemma Waits.conduct_open (h : Waits user n trace r) (hclosing : closing r = [])
    (htimedOut : r ≠ some (.ok .timedOut)) :
    Conduct user start n (.exchanged start (.ok []) :: trace) r where
  commands_eq := by
    rw [hclosing]
    rcases h.commands_eq with hc | ⟨hc, hlisted⟩
    · exact .inl (by simp [hc])
    · exact .inr ⟨by simpa using hc, hlisted.cons _⟩
  continues := by
    refine List.isChain_cons.mpr ⟨?_, h.isChain⟩
    intro e he
    obtain ⟨event, rfl⟩ := h.head e he
    simp [Continues]
  confirmed := by
    rintro identifier rfl
    exact h.confirmed.cons _
  reported := by
    refine List.forall_mem_cons.mpr ⟨fun error hfails => ?_, h.reported⟩
    rw [waitFailure_exchanged hstart] at hfails
    cases hfails
  timedOut := fun hr => (htimedOut hr).elim
  refused := ⟨.ok [], trace, rfl, by simp⟩
  waiting := h.waiting_callbacks

lemma Waits.conduct_closed {wait : Option (Except EnrollmentError EnrollmentOutcome)}
    (h : Waits user n trace wait) {stop : Except TransportError Packet}
    (hclosing : closing r = [cancelOperationCommand])
    (hfailed : ∀ error, wait = some (.error error) → r = wait)
    (hcompleted : ∀ identifier, wait ≠ some (.ok (.completed identifier)))
    (htimedOut : r = some (.ok .timedOut) → wait = some (.ok .timedOut) ∧ stop = .ok []) :
    Conduct user start n
      (.exchanged start (.ok []) :: trace ++ [.exchanged cancelOperationCommand stop]) r where
  commands_eq := by
    rw [hclosing]
    rcases h.commands_eq with hc | ⟨hc, hlisted⟩
    · exact .inl (by simp [hc])
    refine Or.inr ⟨by simp [hc], ?_⟩
    obtain ⟨before, event, identifier, reply, after, rfl, hfor, hr⟩ := hlisted
    refine ⟨.exchanged start (.ok []) :: before, event, identifier, reply,
      after ++ [.exchanged cancelOperationCommand stop], by simp, hfor, ?_⟩
    cases hfresh : freshIdentity user identifier reply with
    | error error =>
      rw [hfresh] at hr
      rw [hfailed error hr, hr]
    | ok _ =>
      rw [hfresh] at hr
      exact (hcompleted identifier hr).elim
  continues := by
    refine List.isChain_append.mpr ⟨?_, List.IsChain.singleton _, ?_⟩
    · refine List.isChain_cons.mpr ⟨?_, h.isChain⟩
      intro e he
      obtain ⟨event, rfl⟩ := h.head e he
      simp [Continues]
    · intro e he e' he'
      have hasks := last_cons rfl h.last e he
      cases he'
      simp [Continues, hasks, cancelOperationCommand_ne]
  confirmed := by
    rintro identifier rfl
    cases hclosing
  reported := by
    intro e he error hfails
    rcases List.mem_append.mp he with he | he
    · rcases List.mem_cons.mp he with rfl | he
      · rw [waitFailure_exchanged hstart] at hfails
        cases hfails
      · have hr := h.reported e he error hfails
        rw [hfailed error hr, hr]
    · rw [List.mem_singleton.mp he] at hfails
      cases hfails
  timedOut := by
    intro hr
    obtain ⟨rfl, rfl⟩ := htimedOut hr
    obtain ⟨before, rfl⟩ := h.timedOut_last
    exact ⟨.exchanged start (.ok []) :: before, by simp⟩
  refused := ⟨.ok [], _, rfl, by simp⟩
  waiting := by
    rintro rfl
    cases hclosing

lemma conduct_refused {reply stop : Except TransportError Packet} {error : EnrollmentError}
    (hrefused : emptyAnswer (EnrollmentError.transport .start) (.command .start) reply =
      .error error) :
    Conduct user start n [.exchanged start reply, .exchanged cancelOperationCommand stop]
      (some (.error error)) where
  commands_eq := Or.inl rfl
  continues := by
    simp [Continues, cancelOperationCommand_ne]
  confirmed := by
    intro identifier h
    cases h
  reported := by
    intro e he error' hfails
    rcases List.mem_pair.mp he with rfl | rfl
    · rw [waitFailure_exchanged hstart] at hfails
      cases hfails
    · cases hfails
  timedOut := by
    intro h
    cases h
  refused := ⟨reply, _, rfl, fun _ => ⟨stop, error, rfl, hrefused, rfl⟩⟩
  waiting := by
    intro h
    cases h

lemma Enrolls.conduct (h : Enrolls user start n trace r) : Conduct user start n trace r := by
  cases h with
  | refused hrefused => exact conduct_refused hstart hrefused
  | waiting hwait | completed hwait => exact hwait.conduct_open hstart rfl nofun
  | failed hwait => exact hwait.conduct_closed hstart rfl (fun _ _ => rfl) nofun nofun
  | timedOut stop hwait =>
    cases hanswer : emptyAnswer (EnrollmentError.transport .cancel) (.command .cancel) stop with
    | error error => exact hwait.conduct_closed hstart rfl nofun nofun nofun
    | ok _ =>
      exact hwait.conduct_closed hstart rfl nofun nofun fun _ => ⟨rfl, emptyAnswer_ok hanswer⟩

end Conduct

/-- Every run of the enrollment workflow, whatever the sensor answers and whatever callbacks
come: an invalid user or credential sends nothing, and anything else is conducted as `Conduct`
says, as far as the run got. -/
theorem enrollment_is_conducted (userId : ℤ) (credentialSet : Option Packet) (progress : Bool)
    (n : ℕ) {w w' : World} {r : Option (Except EnrollmentError EnrollmentOutcome)}
    (h : Prog.Steps Host (runEnrollment userId credentialSet progress n) w (.ret r) w') :
    ∃ trace, w'.log = w.log ++ trace ∧
      ((∃ error, enrollmentStart userId credentialSet = .error error ∧ trace = [] ∧
          r = some (.error (.command .start error))) ∨
        ∃ user start, BiometricUserId.new userId = .ok user ∧
          startEnrollmentCommand user credentialSet = .ok start ∧ Conduct user start n trace r) := by
  obtain ⟨trace, hlog, h⟩ :=
    (records_runEnrollment userId credentialSet progress n).of_steps h
  refine ⟨trace, hlog, ?_⟩
  rcases h with hinvalid | ⟨user, start, hvalid, henrolls⟩
  · exact .inl hinvalid
  obtain ⟨huser, hstart⟩ := enrollmentStart_ok hvalid
  refine Or.inr ⟨user, start, huser, hstart, henrolls.conduct ?_⟩
  rintro rfl
  unfold startEnrollmentCommand at hstart
  cases hencode : encodeAuthorization credentialSet <;> rw [hencode] at hstart <;> cases hstart

/-! ### An enrollment -/

/-- A status callback with this progress. -/
def progressCallback (value : ℕ) : ServiceStatusEvent :=
  ⟨mesaServiceMessage, leBytes 8 0 ++ leBytes 4 mesaEnrollmentStatus ++
    leBytes 4 mesaMessageTypeV1 ++ leBytes 8 0 ++ leBytes 8 value ++ leBytes 8 0⟩

def eventChoice (event : ServiceStatusEvent) : Choice :=
  { replyChoice (.ok []) with enrollmentEvent := .ok (.serviceStatus event) }

/-- Two touches, then the completion and a list with the new identity. -/
def enrollmentChoices : List Choice :=
  [replyChoice (.ok []),
    eventChoice (progressCallback 0x64), replyChoice (.ok []), replyChoice (.ok []),
    eventChoice (statusCallback 0x1234 []),
    eventChoice (progressCallback 0x163), replyChoice (.ok []), replyChoice (.ok []),
    eventChoice (statusCallback mesaEnrollmentComplete sampleIdentity),
    replyChoice (.ok sampleIdentity)]

def sampleEnrollment : HostProg (Option (Except EnrollmentError EnrollmentOutcome)) × World :=
  Prog.advance TestedHost enrollmentChoices (runEnrollment 501 none true 9) bareWorld

theorem enrollment_is_conducted_twoTouches :
    sampleEnrollment.1.result = some (some (.ok (.completed sampleIdentifier))) ∧
    ∃ trace start, sampleEnrollment.2.log = bareWorld.log ++ trace ∧
      Conduct sampleUser start 9 trace (some (.ok (.completed sampleIdentifier))) := by
  have hresult : sampleEnrollment.1.result = some (some (.ok (.completed sampleIdentifier))) := by
    decide +kernel
  have hsteps : Prog.Steps Host (runEnrollment 501 none true 9) bareWorld sampleEnrollment.1
      sampleEnrollment.2 := steps_advance enrollmentChoices _ _
  refine ⟨hresult, ?_⟩
  obtain ⟨trace, hlog, ⟨error, _, _, hr⟩ | ⟨user, start, huser, _, hconduct⟩⟩ :=
    enrollment_is_conducted 501 none true 9 hsteps
  · cases hr
  · cases huser
    exact ⟨trace, start, hlog, hconduct⟩

end T1Bridge.Device
