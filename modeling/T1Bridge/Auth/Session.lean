import T1Bridge.Auth.Authority
import T1Bridge.Auth.Slot

/-! # Session coordination

`BrokerSessionCoordinator` joins the broker state with the cancellation slot: a started
operation gets a fresh event, installed in the slot under its token, and the handle given
to the caller carries the operation, the event and the slot it was installed in.  A
completion carries the same three references; the coordinator accepts it only from its own
handle.

The coordinator holds at most one *session*, which is cancelled or not and still accepts
cancellation or not.  `Session` is that abstract state, `Represents` connects it to the broker
state, the slot and the event cells, and the lemmas below give every coordinator function as a
change of the represented session.  That the broker's cancelled flag and the event cell always agree is part of
`Represents`: an accepted cancellation is recorded in both or in neither. -/

namespace T1Bridge

open CancellationSlot (clear_eq clear_of_ne close_eq close_of_ne deliver deliver_eq deliver_of_ne
  eventIsSet install_eq_ok)

/-! ### Handles and completions -/

/-- One token-associated operation and its cancellation delivery event. -/
structure ActiveAuthentication where
  operation : Operation
  event : Ref
  slot : Ref
deriving DecidableEq

/-- One standard operation and its shared cancellation registration. -/
structure ActiveStandardOperation where
  operation : AuthorizedStandardOperation
  event : Ref
  slot : Ref
deriving DecidableEq

inductive MatchOutcome where
  | matched | noMatch | cancelled | timedOut

inductive AuthenticationSessionFailure where
  | invalidOperationUser | relayInactive | relayHealth | relayStop | exclusiveSepAndAcm
  | relayRecovery | invalidCredential | operation

abbrev AuthenticationResult := Except AuthenticationSessionFailure MatchOutcome

/-- The result a worker hands in, for the operation it names. -/
structure AuthenticationCompletion where
  token : OperationToken
  event : Ref
  slot : Ref
  result : AuthenticationResult

def AuthenticationCompletion.new (active : ActiveAuthentication)
    (result : AuthenticationResult) : AuthenticationCompletion :=
  ⟨active.operation.token, active.event, active.slot, result⟩

def AuthenticationCompletion.belongsTo (completion : AuthenticationCompletion)
    (active : ActiveAuthentication) : Bool :=
  completion.token = active.operation.token && completion.event = active.event &&
    completion.slot = active.slot

lemma AuthenticationCompletion.belongsTo_iff {completion : AuthenticationCompletion}
    {active : ActiveAuthentication} : completion.belongsTo active = true ↔
      completion = ⟨active.operation.token, active.event, active.slot, completion.result⟩ := by
  obtain ⟨token, event, slot, result⟩ := completion
  simp [belongsTo, and_assoc]

/-- Results a standard completion can carry: an identity list or a terminal outcome. -/
def ServerMessage.isFinal : ServerMessage → Bool
  | identityList _ _ => true
  | terminal _ => true
  | capabilities _ => false
  | opened => false
  | enrollProgress _ => false

/-- The final message a worker hands in, for the operation it names. -/
structure StandardCompletion where
  token : OperationToken
  event : Ref
  slot : Ref
  result : ServerMessage
  isFinal : result.isFinal = true

/-- The result a completion keeps of what the worker reported. -/
def StandardCompletion.finalResult (result : ServerMessage) : ServerMessage :=
  if result.isFinal then result else .terminal .error

def StandardCompletion.new (active : ActiveStandardOperation) (result : ServerMessage) :
    StandardCompletion where
  token := active.operation.token
  event := active.event
  slot := active.slot
  result := finalResult result
  isFinal := by
    unfold finalResult
    split_ifs with h
    · exact h
    · rfl

def StandardCompletion.belongsTo (completion : StandardCompletion)
    (active : ActiveStandardOperation) : Bool :=
  completion.token = active.operation.token && completion.event = active.event &&
    completion.slot = active.slot

inductive SessionDecision where
  | reply (response : Response)
  | start (active : ActiveAuthentication)

inductive StandardSessionDecision where
  | reply (message : ServerMessage)
  | start (active : ActiveStandardOperation)

/-- The broker with the slot that cancels its operation. -/
structure BrokerSessionCoordinator where
  state : BrokerState := {}
  cancellation : CancellationSlot

namespace BrokerSessionCoordinator

/-! ### Dispatch -/

variable (c : BrokerSessionCoordinator)

def installDecision : BrokerDecision → SessionDecision × BrokerSessionCoordinator
  | .reply response => (.reply response, c)
  | .start operation =>
    let (event, slot) := c.cancellation.newEvent
    match slot.install operation.token event with
    | (.error _, slot) =>
      let (_, state) := c.state.finish operation.token .failed
      (.reply .failure, ⟨state, slot⟩)
    | (.ok _, slot) => (.start ⟨operation, event, slot.identity⟩, ⟨c.state, slot⟩)

variable (peer : PeerMetadata)

def dispatch (policy : AccessPolicy)
    (packet : Packet) : SessionDecision × BrokerSessionCoordinator :=
  let (decision, state, slot) := c.state.handlePacketWithCancellation deliver
    peer policy packet c.cancellation
  installDecision ⟨state, slot⟩ decision

def enrollWithoutOwner : SessionDecision × BrokerSessionCoordinator :=
  let (decision, state) := c.state.enrollWithoutOwner peer
  installDecision ⟨state, c.cancellation⟩ decision

def installStandardDecision :
    StandardBrokerDecision → StandardSessionDecision × BrokerSessionCoordinator
  | .reply message => (.reply message, c)
  | .start operation =>
    let (event, slot) := c.cancellation.newEvent
    match slot.install operation.token event with
    | (.error _, slot) =>
      let (response, state) := c.state.finishStandard operation (.terminal .error)
      (.reply (response.getD (.terminal .error)), ⟨state, slot⟩)
    | (.ok _, slot) => (.start ⟨operation, event, slot.identity⟩, ⟨c.state, slot⟩)

def dispatchStandard (recordedOwner : Option AccessPolicy) (operation : ResolvedStandardOperation) :
    StandardSessionDecision × BrokerSessionCoordinator :=
  let (decision, state) := c.state.dispatchStandard peer recordedOwner operation
  installStandardDecision ⟨state, c.cancellation⟩ decision

/-! ### Cancellation -/

def cancelWithoutOwner : Response × BrokerSessionCoordinator :=
  match c.state.cancelWithoutOwner deliver peer c.cancellation with
  | (.reply response, state, slot) => (response, ⟨state, slot⟩)
  -- `unreachable!` in the source, see `cancelWithoutOwner_ne_start`
  | (.start _, state, slot) => (.failure, ⟨state, slot⟩)

/-- Delivers a cancellation for a handle with the given slot. -/
def deliverFor (cancel : CancellationSlot → Bool × BrokerState × CancellationSlot) (slot : Ref) :
    Bool × BrokerSessionCoordinator :=
  if slot ≠ c.cancellation.identity then (false, c)
  else
    let (accepted, state, slot) := cancel c.cancellation
    (accepted, ⟨state, slot⟩)

def clientDisconnected (active : ActiveAuthentication) : Bool × BrokerSessionCoordinator :=
  c.deliverFor (c.state.clientDisconnected deliver active.operation.token) active.slot

variable (active : ActiveStandardOperation)

def cancelStandard : Bool × BrokerSessionCoordinator :=
  c.deliverFor (c.state.cancelStandard deliver active.operation) active.slot

def standardClientDisconnected : Bool × BrokerSessionCoordinator :=
  c.deliverFor (c.state.standardClientDisconnected deliver active.operation) active.slot

/-- The worker's close of the slot its handle points to; a handle of another coordinator
does not touch this slot. -/
def closeCancellation (token : OperationToken)
    (event slot : Ref) : Bool × BrokerSessionCoordinator :=
  if slot ≠ c.cancellation.identity then (false, c)
  else
    let (uncancelled, slot) := c.cancellation.close token event
    (uncancelled, { c with cancellation := slot })

/-! ### Completion -/

def operationResult : AuthenticationResult → OperationResult
  | .ok .matched => .matched
  | .ok .noMatch => .noMatch
  | .ok .cancelled => .cancelled
  | .ok .timedOut => .unavailable
  | .error _ => .failed

def clearDelivery (token : OperationToken) (event : Ref) : BrokerSessionCoordinator :=
  { c with cancellation := c.cancellation.clear token event }

variable (completion : AuthenticationCompletion)

/-- The response, and whether the result was authoritative and feedback may be shown. -/
def finalize : (Response × Bool) × BrokerSessionCoordinator :=
  if completion.slot ≠ c.cancellation.identity then ((.failure, false), c)
  else
    let c := c.clearDelivery completion.token completion.event
    let cancelled := c.state.isCancelled completion.token
    match c.state.finish completion.token (operationResult completion.result) with
    | (none, state) => ((.failure, false), { c with state := state })
    | (some response, state) => ((response, !cancelled), { c with state := state })

def finish : Response × BrokerSessionCoordinator :=
  let ((response, _), c) := c.finalize completion
  (response, c)

def finishFor (active : ActiveAuthentication)
    (completion : AuthenticationCompletion) : Response × BrokerSessionCoordinator :=
  if active.slot ≠ c.cancellation.identity ∨ !completion.belongsTo active then (.failure, c)
  else c.finish completion

/-- Finalizes and returns the result that best-effort feedback is applied to, if any. -/
def finishWithFeedback : (Response × Option AuthenticationResult) × BrokerSessionCoordinator :=
  let ((response, authoritative), c) := c.finalize completion
  ((response, if authoritative then some completion.result else none), c)

def finishStandard (completion : StandardCompletion) : ServerMessage × BrokerSessionCoordinator :=
  if active.slot ≠ c.cancellation.identity ∨ !completion.belongsTo active then
    (.terminal .error, c)
  else
    let c := c.clearDelivery active.operation.token active.event
    let (response, state) := c.state.finishStandard active.operation completion.result
    (response.getD (.terminal .error), { c with state := state })

def abandon (active : ActiveAuthentication) : Response × BrokerSessionCoordinator :=
  if active.slot ≠ c.cancellation.identity then (.failure, c)
  else
    let c := c.clearDelivery active.operation.token active.event
    let (response, state) := c.state.finish active.operation.token .failed
    (response.getD .failure, { c with state := state })

def abandonStandard : ServerMessage × BrokerSessionCoordinator :=
  if active.slot ≠ c.cancellation.identity then (.terminal .error, c)
  else
    let c := c.clearDelivery active.operation.token active.event
    let (response, state) := c.state.finishStandard active.operation (.terminal .error)
    (response.getD (.terminal .error), { c with state := state })

end BrokerSessionCoordinator

/-! ### The represented session -/

/-- What a coordinator holds, apart from its encoding: one operation's token and event,
whether a cancellation was accepted, and whether one still can be. -/
structure Session where
  token : OperationToken
  event : Ref
  cancelled : Bool
  accepting : Bool

variable (session : Session)

/-- The registration that a session keeps in the slot. -/
def Session.registration : Option CancellationRegistration :=
  if session.accepting then some ⟨session.token, session.event⟩ else none

/-- The response to a completion of the session: OKAY only for an uncancelled match. -/
def Session.response (result : OperationResult) : Response :=
  if !session.cancelled && result = .matched then .okay else .failure

/-- The standard reply to a completion: a cancellation wins, then a compatible result. -/
def Session.standardResponse (operation : AuthorizedStandardOperation)
    (result : ServerMessage) : ServerMessage :=
  if session.cancelled then .terminal .cancelled
  else if resultIsCompatible operation result then result else .terminal .error

namespace BrokerSessionCoordinator

variable (c : BrokerSessionCoordinator)

/-- Broker state, slot and event cell all say the same about the session. -/
def Represents (v : Option Session) : Prop :=
  c.cancellation.poisoned = false ∧
    c.state.active = v.map (fun session => ⟨session.token, session.cancelled⟩) ∧
    c.cancellation.registration = v.bind Session.registration ∧
    ∀ session ∈ v, c.cancellation.events.load session.event = some session.cancelled

/-- A new session with the next token and a fresh event. -/
def begin : BrokerSessionCoordinator where
  state :=
    { active := some ⟨⟨c.state.nextToken⟩, false⟩, nextToken := Ticket.advance c.state.nextToken }
  cancellation :=
    { c.cancellation with
      registration := some ⟨⟨c.state.nextToken⟩, c.cancellation.events.size⟩
      events := (c.cancellation.events.alloc false).2 }

/-- An accepted cancellation of the session with this event. -/
def mark (event : Ref) : BrokerSessionCoordinator where
  state :=
    { c.state with active := c.state.active.map fun active => { active with cancelled := true } }
  cancellation := { c.cancellation with events := c.cancellation.events.store event true }

/-- Delivery is shut: the session stays, its registration goes. -/
def shut : BrokerSessionCoordinator :=
  { c with cancellation := { c.cancellation with registration := none } }

/-- The session is over. -/
def release : BrokerSessionCoordinator :=
  { c.shut with state := { c.state with active := none } }

variable {c} {v : Option Session} {session}

/-- The session begun with the next token. -/
def fresh (c : BrokerSessionCoordinator) : Session :=
  ⟨⟨c.state.nextToken⟩, c.cancellation.events.size, false, true⟩

lemma Represents.begin (h : c.Represents none) : c.begin.Represents (some c.fresh) := by
  obtain ⟨hp, -, -, -⟩ := h
  refine ⟨hp, rfl, rfl, ?_⟩
  rintro session ⟨⟩
  exact Heap.load_alloc_self _ _

lemma Represents.mark (h : c.Represents (some session)) :
    (c.mark session.event).Represents (some { session with cancelled := true }) := by
  obtain ⟨hp, ha, hr, he⟩ := h
  refine ⟨hp, by simp [BrokerSessionCoordinator.mark, ha], hr, ?_⟩
  rintro _ ⟨⟩
  exact Heap.load_store_self _ (Heap.lt_size_of_load (he session rfl))

lemma Represents.shut (h : c.Represents (some session)) :
    c.shut.Represents (some { session with accepting := false }) := by
  obtain ⟨hp, ha, -, he⟩ := h
  refine ⟨hp, ha, rfl, ?_⟩
  rintro _ ⟨⟩
  exact he session rfl

lemma Represents.release (h : c.Represents v) : c.release.Represents none :=
  ⟨h.1, rfl, rfl, by simp⟩

lemma Represents.active_eq (h : c.Represents (some session)) :
    c.state.active = some ⟨session.token, session.cancelled⟩ := h.2.1

lemma Represents.registered (h : c.Represents v) {registration : CancellationRegistration}
    (hr : c.cancellation.registration = some registration) :
    ∃ session ∈ v, (⟨session.token, session.event⟩ : CancellationRegistration) = registration := by
  rw [h.2.2.1] at hr
  obtain ⟨session, hs, hr⟩ := Option.bind_eq_some_iff.mp hr
  unfold Session.registration at hr
  split_ifs at hr
  exact ⟨session, hs, Option.some.inj hr⟩

/-! ### Cancelling and closing -/

section

variable (h : c.Represents (some session))

include h

lemma deliver_represented : deliver session.token c.cancellation = (session.accepting,
        if session.accepting then (c.mark session.event).cancellation else c.cancellation) := by
  obtain ⟨hp, -, hr, -⟩ := h
  cases ha : session.accepting with
  | true =>
    rw [deliver_eq hp (by simpa [Session.registration, ha] using hr)]
    rfl
  | false =>
    rw [deliver_of_ne (by simp [hr, Session.registration, ha])]
    rfl

lemma cancelToken_represented :
    c.state.cancelToken deliver session.token c.cancellation = (session.accepting,
        (if session.accepting then c.mark session.event else c).state,
        (if session.accepting then c.mark session.event else c).cancellation) := by
  have hc := @BrokerState.cancelToken_of_active _ _ _ deliver c.cancellation h.active_eq
  rw [deliver_represented h] at hc
  rw [hc]
  cases session.accepting <;> simp [BrokerSessionCoordinator.mark, h.active_eq]

/-- A delivery to the session is accepted exactly while the session accepts one. -/
lemma deliverFor_represented :
    c.deliverFor (c.state.cancelToken deliver session.token) c.cancellation.identity =
      (session.accepting, if session.accepting then c.mark session.event else c) := by
  unfold deliverFor
  rw [if_neg (by simp), cancelToken_represented h]

lemma closeCancellation_represented :
    c.closeCancellation session.token session.event c.cancellation.identity =
      (session.accepting && !session.cancelled, if session.accepting then c.shut else c) := by
  obtain ⟨hp, -, hr, he⟩ := h
  unfold closeCancellation
  rw [if_neg (by simp)]
  cases ha : session.accepting with
  | true =>
    rw [close_eq hp (by simpa [Session.registration, ha] using hr), eventIsSet, he session rfl]
    rfl
  | false =>
    rw [close_of_ne (by simp [hr, Session.registration, ha])]
    rfl

end

lemma closeCancellation_foreign (h : c.Represents v) {token : OperationToken}
    {event slot : Ref} (hf : slot ≠ c.cancellation.identity ∨
      ∀ session ∈ v, session.token ≠ token ∨ session.event ≠ event) :
    c.closeCancellation token event slot = (false, c) := by
  unfold closeCancellation
  split_ifs with hs
  · rfl
  rw [close_of_ne]
  intro hr
  obtain ⟨session, hv, heq⟩ := h.registered hr
  cases heq
  simpa using hf.resolve_left hs session hv

/-! ### Finishing -/

section

variable (h : c.Represents (some session))

include h

lemma clearDelivery_represented : c.clearDelivery session.token session.event = c.shut := by
  obtain ⟨hp, -, hr, -⟩ := h
  unfold clearDelivery BrokerSessionCoordinator.shut
  cases ha : session.accepting with
  | true => rw [clear_eq hp (by simpa [Session.registration, ha] using hr)]
  | false =>
    have hnone : c.cancellation.registration = none := by
      simpa [Session.registration, ha] using hr
    rw [clear_of_ne (by simp [hnone]), ← hnone]

lemma state_finish_represented (result : OperationResult) :
    c.shut.state.finish session.token result =
      (some (session.response result), c.release.state) := by
  have hf : c.shut.state.finishToken session.token = _ :=
    BrokerState.finishToken_of_active (s := c.shut.state) h.active_eq
  unfold BrokerState.finish
  rw [hf]
  rfl

lemma finalize_represented (result : AuthenticationResult) :
    c.finalize ⟨session.token, session.event, c.cancellation.identity, result⟩ =
      ((session.response (operationResult result), !session.cancelled), c.release) := by
  have hc : c.shut.state.isCancelled session.token = session.cancelled := by
    have ha : c.shut.state.active = _ := h.active_eq
    simp [BrokerState.isCancelled, ha]
  unfold finalize
  rw [if_neg (by simp)]
  simp only [clearDelivery_represented h, state_finish_represented h, hc]
  rfl

lemma state_finishStandard_represented {operation : AuthorizedStandardOperation}
    (ht : session.token = operation.token) (result : ServerMessage) :
    c.shut.state.finishStandard operation result =
      (some (session.standardResponse operation result), c.release.state) := by
  rw [BrokerState.finishStandard_of_active (s := c.shut.state) h.active_eq ht]
  rfl

end

section Handles

variable {active : ActiveAuthentication} {standard : ActiveStandardOperation}
  {completion : AuthenticationCompletion}

/-- The handle names this session of this coordinator. -/
def Names (c : BrokerSessionCoordinator) (session : Session) (token : OperationToken)
    (event slot : Ref) : Prop :=
  session.token = token ∧ session.event = event ∧ slot = c.cancellation.identity

variable (h : c.Represents (some session))

include h

section

variable (hn : c.Names session active.operation.token active.event active.slot)

include hn

lemma finishFor_represented (hb : completion.belongsTo active = true) :
    c.finishFor active completion =
      (session.response (operationResult completion.result), c.release) := by
  obtain ⟨ht, he, hs⟩ := hn
  have hcomp := AuthenticationCompletion.belongsTo_iff.mp hb
  rw [← ht, ← he, hs] at hcomp
  unfold finishFor
  rw [if_neg (by simp [hs, hb]), finish, hcomp, finalize_represented h]

lemma finishWithFeedback_represented (hb : completion.belongsTo active = true) :
    c.finishWithFeedback completion = ((session.response (operationResult completion.result),
        if session.cancelled then none else some completion.result), c.release) := by
  obtain ⟨ht, he, hs⟩ := hn
  have hcomp := AuthenticationCompletion.belongsTo_iff.mp hb
  rw [← ht, ← he, hs] at hcomp
  unfold finishWithFeedback
  rw [hcomp, finalize_represented h]
  cases session.cancelled <;> rfl

lemma abandon_represented : c.abandon active = (.failure, c.release) := by
  obtain ⟨ht, he, hs⟩ := hn
  unfold abandon
  rw [if_neg (by simp [hs]), ← ht, ← he]
  simp only [clearDelivery_represented h, state_finish_represented h]
  simp [Session.response, BrokerSessionCoordinator.release]

end

variable (hn : c.Names session standard.operation.token standard.event standard.slot)

include hn

lemma finishStandard_represented {completion : StandardCompletion}
    (hb : completion.belongsTo standard = true) : c.finishStandard standard completion =
      (session.standardResponse standard.operation completion.result, c.release) := by
  obtain ⟨ht, he, hs⟩ := hn
  unfold finishStandard
  rw [if_neg (by simp [hs, hb])]
  simp only [← he]
  rw [← ht, clearDelivery_represented h, state_finishStandard_represented h ht]
  rfl

lemma abandonStandard_represented : c.abandonStandard standard =
      (session.standardResponse standard.operation (.terminal .error), c.release) := by
  obtain ⟨ht, he, hs⟩ := hn
  unfold abandonStandard
  rw [if_neg (by simp [hs])]
  simp only [← he]
  rw [← ht, clearDelivery_represented h, state_finishStandard_represented h ht]
  rfl

end Handles

/-! ### Dispatching -/

/-- What a dispatch of the fixed protocol does to the represented session. -/
inductive Dispatched (c : BrokerSessionCoordinator) (cancels admitted : Prop) :
    Option Session → SessionDecision × BrokerSessionCoordinator → Prop
  | refused {v : _} (r : Response) (hr : r ≠ .okay) :
      Dispatched c cancels admitted v (.reply r, c)
  | cancelled (session : Session) (haccepting : session.accepting = true) (hcancels : cancels) :
      Dispatched c cancels admitted (some session) (.reply .okay, c.mark session.event)
  | started (operation : Operation) (hadmitted : admitted)
      (htoken : operation.token = ⟨c.state.nextToken⟩) (hfresh : c.state.nextToken ≠ 0) :
      Dispatched c cancels admitted none
        (.start ⟨operation, c.cancellation.events.size, c.cancellation.identity⟩, c.begin)

lemma Represents.eq_none_of_active (h : c.Represents v) (ha : c.state.active = none) :
    v = none := by
  have := h.2.1
  rw [ha] at this
  exact (Option.map_eq_none_iff.mp this.symm)

/-- After the broker has admitted a request the installation succeeds. -/
lemma install_represented (h : c.Represents none) (token : OperationToken) :
    c.cancellation.newEvent.2.install token c.cancellation.newEvent.1 =
      (.ok (), { c.cancellation with
        registration := some ⟨token, c.cancellation.events.size⟩
        events := (c.cancellation.events.alloc false).2 }) := by
  obtain ⟨hp, -, hr, -⟩ := h
  exact install_eq_ok _ _ hp hr

lemma installDecision_dispatched (h : c.Represents v) {cancels admitted : Prop}
    {result : BrokerDecision × BrokerState × CancellationSlot}
    (hd : BrokerState.Dispatched deliver cancels admitted c.state c.cancellation result) :
    Dispatched c cancels admitted v (installDecision ⟨result.2.1, result.2.2⟩ result.1) := by
  cases hd with
  | refused r hr => exact .refused r hr
  | cancelled active hactive hcancels =>
    cases v with
    | none => simp [h.2.1] at hactive
    | some session =>
      rw [h.active_eq] at hactive
      cases hactive
      rw [cancelToken_represented h]
      cases ha : session.accepting with
      | true => exact .cancelled session ha hcancels
      | false => exact .refused .denied (by decide)
  | started operation s' hadmitted hstart =>
    obtain ⟨ha, hn, ht, rfl⟩ := BrokerState.startToken_start_iff.mp hstart
    obtain rfl := h.eq_none_of_active ha
    have hi := install_represented h operation.token
    simp only [installDecision]
    rw [hi]
    rw [ht]
    exact .started operation hadmitted ht hn

lemma dispatch_dispatched (h : c.Represents v) (peer : PeerMetadata) (policy : AccessPolicy)
    (packet : Packet) : Dispatched c (decodeRequest packet = .ok .cancel ∧ peer.IsLocalRoot)
      (policy.Admits peer packet) v (c.dispatch peer policy packet) :=
  installDecision_dispatched h
    (BrokerState.handlePacketWithCancellation_dispatched c.state peer policy packet c.cancellation)

lemma enrollWithoutOwner_dispatched (h : c.Represents v) (peer : PeerMetadata) :
    Dispatched c False (peer.addressFamily = .localFamily ∧ peer.userId ≠ rootUid) v
      (c.enrollWithoutOwner peer) :=
  installDecision_dispatched h
    (BrokerState.enrollWithoutOwner_dispatched c.state peer c.cancellation)

lemma cancelWithoutOwner_ne_start (s : BrokerState) (peer : PeerMetadata)
    (slot : CancellationSlot) (operation : Operation) :
    (s.cancelWithoutOwner deliver peer slot).1 ≠ .start operation := by
  unfold BrokerState.cancelWithoutOwner BrokerState.cancelForRoot
  split_ifs
  · simp
  split
  · simp
  · split <;> simp

/-- Root's ownerless cancellation is a delivery to the session; nobody else's is. -/
lemma cancelWithoutOwner_dispatched (h : c.Represents v) (peer : PeerMetadata) :
    Dispatched c peer.IsLocalRoot False v
      (.reply (c.cancelWithoutOwner peer).1, (c.cancelWithoutOwner peer).2) := by
  have hd : Dispatched c peer.IsLocalRoot False v _ := installDecision_dispatched h
    (BrokerState.cancelForRoot_dispatched (fun hp : peer.IsLocalRoot => hp) c.state c.cancellation)
  have hne := cancelWithoutOwner_ne_start c.state peer c.cancellation
  unfold cancelWithoutOwner
  unfold BrokerState.cancelWithoutOwner at hne ⊢
  rcases hr : c.state.cancelForRoot deliver peer c.cancellation
    with ⟨operation | response, state, slot⟩
  · exact absurd (by rw [hr]) (hne operation)
  · rw [hr] at hd
    exact hd

/-- What a standard dispatch does: it never touches a session that is there. -/
inductive StandardDispatched (c : BrokerSessionCoordinator) (peer : PeerMetadata)
    (recordedOwner : Option AccessPolicy) (operation : ResolvedStandardOperation) :
    Option Session → StandardSessionDecision × BrokerSessionCoordinator → Prop
  | refused {v : _} (outcome : TerminalOutcome)
      (houtcome : outcome = .error ∨ outcome = .secondOwner ∨ outcome = .busy) :
      StandardDispatched c peer recordedOwner operation v (.reply (.terminal outcome), c)
  | started (authorized : AuthorizedStandardOperation)
      (hauthority : BrokerState.StandardAuthority peer recordedOwner operation)
      (hoperation : authorized.operation = operation)
      (htoken : authorized.token = ⟨c.state.nextToken⟩) (hfresh : c.state.nextToken ≠ 0) :
      StandardDispatched c peer recordedOwner operation none
        (.start ⟨authorized, c.cancellation.events.size, c.cancellation.identity⟩, c.begin)

lemma dispatchStandard_dispatched (h : c.Represents v) (peer : PeerMetadata)
    (recordedOwner : Option AccessPolicy) (operation : ResolvedStandardOperation) :
    StandardDispatched c peer recordedOwner operation v
      (c.dispatchStandard peer recordedOwner operation) := by
  unfold dispatchStandard
  rcases c.state.dispatchStandard_cases peer recordedOwner operation with
    ⟨outcome, ho, hd⟩ | ⟨authorized, s', hauth, hop, hstart, hd⟩
  · rw [hd]
    exact .refused outcome ho
  rw [hd]
  obtain ⟨ha, hn, ht, rfl⟩ := BrokerState.startToken_start_iff.mp hstart
  obtain rfl := h.eq_none_of_active ha
  simp only [installStandardDecision]
  rw [install_represented h authorized.token, ht]
  exact .started authorized hauth hop ht hn

end BrokerSessionCoordinator

end T1Bridge
